import StatePort.Quota.Equiv.Ledger
import StatePort.Jobs.Equiv.Queue
import StatePort.Authority.Equiv.Delegation
import StatePort.Authority.Equiv.Budget
import StatePort.Authority.Equiv.Withdrawal
import StatePort.Lifecycle.Equiv.AppendOnly
import StatePort.Lifecycle.Equiv.Durability
import StatePort.Lifecycle.Equiv.Literal
import StatePort.ExecutionHost.Equiv.SingleFlight
import StatePort.FileWorkspace.Listing
import StatePort.Daemon.Equiv.DeploymentLedger
import StatePort.Daemon.Caches
import StatePort.Daemon.Equiv.Capacity
import StatePort.Daemon.Equiv.Ownership
import StatePort.Daemon.Equiv.Retry
import StatePort.Goal.Equiv.Separation
import StatePort.Goal.Equiv.Revisions
import StatePort.Approval.Equiv.Gate
import StatePort.Updater.Equiv.Archive
import StatePort.Audit.Equiv.Log
import StatePort.PortableExecution.Equiv.History
import StatePort.PortableExecution.Equiv.Frame
import StatePort.PortableExecution.Equiv.Resting
import StatePort.PortableImport.Equiv.Retry
import StatePort.ToolGateway.Equiv.Budget
import StatePort.SensitiveData.Equiv.Uses
import StatePort.SensitiveData.Scanner
import StatePort.Release.Bundle
import StatePort.Release.Ports
import StatePort.TerminalBroker.Replay
