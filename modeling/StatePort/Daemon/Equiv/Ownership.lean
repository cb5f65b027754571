import StatePort.Daemon.Equiv.Operations

/-!
# Only owned containers are touched

An inspection that matches an entry shows the labels of the workload, the digest of its sealed image
and, if one is recorded, its container id (`owns_of_match`). `onlyOwnedContainers` says that
whatever the daemon does, every call on a container comes after such an inspection of the same
workload, and names the container that it found.
-/

namespace StatePort.Daemon

open Effect

variable {entry : Entry} {info : Info} {containerId : PyStr} {ledger : Ledger}

/-- The container of an inspection is the one that the entry describes. -/
structure Owns (entry : Entry) (info : Info) (containerId : PyStr) : Prop where
  present : info.present = some true
  named : info.containerId = some containerId
  labels : ∃ labels, info.labels = some labels ∧ labels.managed = some (PyStr.of "true") ∧
    labels.workload = some entry.workloadId.val ∧
    labels.kind = some (PyStr.of entry.spec.kind.name)
  imageDigest : info.imageDigest = some entry.spec.imageDigest
  recorded : ∀ recorded ∈ entry.containerId, containerId = recorded

lemma labels_of_match {labels : Labels} {id : Id} {kind : Kind}
    (h : labelsError labels id kind = none) :
    labels.managed = some (PyStr.of "true") ∧ labels.workload = some id.val ∧
      labels.kind = some (PyStr.of kind.name) := by
  rw [labelsError] at h
  split_ifs at h with hmanaged hworkload hkind
  exact ⟨not_not.mp hmanaged, not_not.mp hworkload, not_not.mp hkind⟩

/-- What an inspection without an identity error shows. -/
lemma owns_of_match (hpresent : info.present = some true)
    (hid : info.containerId = some containerId)
    (h : containerIdentityError entry info = none) : Owns entry info containerId := by
  rw [containerIdentityError, hid] at h
  cases hseed : developmentSeedIdentityError entry.spec info with
  | some error => rw [hseed] at h; cases h
  | none =>
    rw [hseed] at h
    dsimp only at h
    cases hlabels : info.labels with
    | none =>
      rw [hlabels] at h
      split_ifs at h
    | some labels =>
      rw [hlabels] at h
      dsimp only at h
      cases hmatch : labelsError labels entry.workloadId entry.spec.kind with
      | some error =>
        rw [hmatch] at h
        split_ifs at h
      | none =>
        rw [hmatch] at h
        split_ifs at h with hempty hrecorded himage
        refine ⟨hpresent, hid, ⟨labels, hlabels, labels_of_match hmatch⟩, not_not.mp himage, ?_⟩
        intro recorded hmem
        by_contra hne
        rw [hmem] at hrecorded
        exact hrecorded (by simpa using hne)

/-- A call comes after an inspection that found the container to be that of the workload's entry, as
the ledger has it when the call is made. -/
def OwnedCall (ledger : Ledger) (earlier : List Event) (event : Event) : Prop :=
  ∀ verb id containerId, event = .called verb id containerId →
    ∃ entry info, ledger.find? id = some entry ∧
      Event.inspected id info ∈ earlier ∧ Owns entry info containerId

lemma closedAt_ownedCalls (ledger : Ledger) (id : Id) :
    ClosedAt id (History OwnedCall ledger) where
  asked _ h := h
  inspected _ _ h := h.inspected nofun
  called w verb containerId h hverified := by
    refine h.called fun verb' workloadId' containerId' heq => ?_
    cases heq
    obtain ⟨entry, info, hfind, hseen, hpresent, hmatch, hid⟩ := hverified
    exact ⟨entry, info, hfind, hseen, owns_of_match hpresent hid hmatch⟩
  written _ _ _ h _ := h.written nofun

lemma closed_ownedCalls (ledger : Ledger) : Closed (History OwnedCall ledger) where
  asked _ h := h
  workload := closedAt_ownedCalls ledger

/-- Every call of a trace that starts from the ledger is on a container that an earlier inspection
found to be owned. -/
def OnlyOwnedCalls (ledger : Ledger) (trace : List Event) : Prop :=
  ∀ later verb id containerId earlier,
    trace = later ++ .called verb id containerId :: earlier →
      ∃ entry info, (replay ledger earlier).find? id = some entry ∧
        Event.inspected id info ∈ earlier ∧ Owns entry info containerId

lemma onlyOwnedCalls_of_always {trace : List Event} (h : Always OwnedCall ledger trace) :
    OnlyOwnedCalls ledger trace := by
  intro later verb id containerId earlier heq
  rw [heq] at h
  have hsuffix := h.drop later.length
  rw [List.drop_left] at hsuffix
  exact hsuffix.1 verb id containerId rfl

/-- **Only owned containers are touched**, by requests, supervision and restarts alike. -/
theorem onlyOwnedContainers (host : Host) (activity : Activity) (ledger : Ledger)
    (questions : ℕ) :
    OnlyOwnedCalls ledger (perform host activity ⟨ledger, [], questions⟩).2.trace :=
  onlyOwnedCalls_of_always
    (History.trace_of_keeps ((closed_ownedCalls ledger).perform activity) questions)

end StatePort.Daemon
