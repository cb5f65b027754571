import StatePort.Daemon.DeploymentLedger

/-!
# Deployment operations are executed once

* `admit_of_find?_none`, `admit_of_find?_some`: what a request for admission does, by what the
  directory holds under its id.
* `writes_run`: all that happens to the directory is that documents are added, and settled once. So
  they are never removed, keep the digest of their request, and are never changed once they are
  settled (`Extends`).
* `executions_nodup`: an id that is admitted for execution has no document before and has one ever
  after.
* `validateReceipt_interruptedReceipt`: the receipt of an interrupted operation is one that
  `validate_receipt` returns unchanged.
* `exactlyOnce`: the four together, for every sequence of events.
-/

namespace StatePort.Daemon

open Table List Relation

variable {py : Interpreter} {ops : DeploymentOperations} {e : DeploymentOperation}

/-! ### One event -/

variable {request : AdmissionRequest}

lemma admit_of_find?_none (h : ops.find? request.operationId = none) :
    admitDeploymentOperation ops request = .ok (.admitted, ops.put request.entry) := by
  rw [admitDeploymentOperation, h]

lemma admit_of_find?_some (h : ops.find? request.operationId = some e) :
    admitDeploymentOperation ops request =
      if e.requestDigest ≠ request.requestDigest then
        .error ⟨PyStr.of "deployment operation " ++ request.operationId.val ++
          PyStr.of " was reused for a different request"⟩
      else .ok (e.admission, ops) := by
  rw [admitDeploymentOperation, h]

lemma operationId_of_find? {id : Id} (h : ops.find? id = some e) :
    e.operationId = id :=
  ((find?_eq_some_iff ops).mp h).2

/-- One document is written: a new one, or a settled one in place of one that was admitted. -/
inductive Writes : DeploymentOperations → DeploymentOperations → Prop
  | admitted {ops : DeploymentOperations} {e : DeploymentOperation}
      (hnew : ops.find? e.operationId = none) (hstate : e.state = .admitted) :
      Writes ops (ops.put e)
  | settled {ops : DeploymentOperations} {old e : DeploymentOperation} {receipt : Wire}
      (hold : ops.find? e.operationId = some old) (hstate : old.state = .admitted)
      (hdigest : e.requestDigest = old.requestDigest) (hreceipt : e.receipt = some receipt)
      (hvalid : e.state = .interrupted → validateReceipt receipt = .ok receipt) :
      Writes ops (ops.put e)

/-! ### The receipt of an interrupted operation -/

variable {s : PyStr} {name : PyStr}

lemma checkString_eq_ok (h : PyStr.isBlank s = false) : checkString (.str s) name = .ok s := by
  simp [checkString, raiseIf, h, bind, Except.bind, pure, Except.pure]

lemma not_isSpace_of_isAsciiAlnum {c : CodePoint} (h : PyStr.isAsciiAlnum c) :
    PyStr.isSpace c = false := by
  have hrange : c.val < 123 ∧ 47 < c.val := by
    simp only [PyStr.isAsciiAlnum, PyStr.isAsciiDigit, PyStr.isBetween, Bool.or_eq_true,
      Bool.and_eq_true, decide_eq_true_eq] at h
    change ((97 ≤ c.val ∧ c.val ≤ 122) ∨ (65 ≤ c.val ∧ c.val ≤ 90)) ∨ (48 ≤ c.val ∧ c.val ≤ 57) at h
    omega
  simp only [PyStr.isSpace, Bool.or_eq_false_iff, Bool.and_eq_false_iff, decide_eq_false_iff_not,
    beq_eq_false_iff_ne]
  omega

lemma isBlank_of_isId (h : isId s) : PyStr.isBlank s = false := by
  cases s with
  | nil => cases h
  | cons c cs =>
    simp only [isId, Bool.and_eq_true] at h
    simp [PyStr.isBlank, not_isSpace_of_isAsciiAlnum h.1.1]

lemma isBlank_of_isDigest (h : isDigest s) : PyStr.isBlank s = false := by
  simp only [isDigest, Bool.and_eq_true, PyStr.startsWith, isPrefixOf_iff_prefix] at h
  obtain ⟨rest, rfl⟩ := h.1.1
  rfl

lemma checkId_eq_ok (id : Id) (name : PyStr) : checkId (.str id.val) name = .ok id := by
  rw [checkId, checkString_eq_ok (isBlank_of_isId id.property)]
  exact dif_pos id.property

lemma checkDigest_eq_ok (digest : Digest) (name : PyStr) :
    checkDigest (.str digest.val) name = .ok digest := by
  rw [checkDigest, checkString_eq_ok (isBlank_of_isDigest digest.property)]
  exact dif_pos digest.property

lemma checkInt_eq_ok {n low high : ℤ} (h : low ≤ n ∧ n ≤ high) :
    checkInt (.int n) name low high = .ok n := by
  have hcheck : raiseIf (¬ (low ≤ n ∧ n ≤ high))
      (Raised.valueError (name ++ PyStr.of s!" must be an integer in [{low}, {high}]")) = .ok () :=
    if_neg (not_not.mpr h)
  simp only [checkInt, hcheck, ok_bind]
  rfl

lemma checkRequester_record (requester : Requester) :
    checkRequester (requester.peer.record requester.grantId.val) = .ok () := by
  have hmapping : checkMapping (requester.peer.record requester.grantId.val) "receipt.requester"
      ["uid", "gid", "pid", "grantId"] = .ok (requester.peer.record requester.grantId.val) := rfl
  have huid : (requester.peer.record requester.grantId.val).get "uid" = .int requester.peer.uid :=
    rfl
  have hgid : (requester.peer.record requester.grantId.val).get "gid" = .int requester.peer.gid :=
    rfl
  have hpid : (requester.peer.record requester.grantId.val).get "pid" = .int requester.peer.pid :=
    rfl
  have hgrant : (requester.peer.record requester.grantId.val).get "grantId" =
      .str requester.grantId.val := rfl
  rw [checkRequester, hmapping, ok_bind, huid, hgid, hpid, hgrant,
    checkInt_eq_ok requester.uid_mem, checkInt_eq_ok requester.gid_mem,
    checkInt_eq_ok requester.pid_mem, checkId_eq_ok]
  rfl

/-- The receipt of an interrupted operation passes the contract. -/
lemma validateReceipt_interruptedReceipt (e : DeploymentOperation) (at_ : PyStr) :
    validateReceipt (interruptedReceipt e at_) = .ok (interruptedReceipt e at_) := by
  have hsecrets : noSecrets "$" (interruptedReceipt e at_) = .ok () := rfl
  have hmapping : checkMapping (interruptedReceipt e at_) "execution receipt" receiptKeys =
      .ok (interruptedReceipt e at_) := rfl
  have hformat : ((interruptedReceipt e at_).get "formatVersion").isStr receiptFormat := rfl
  have hid : (interruptedReceipt e at_).get "operationId" = .str e.operationId.val := rfl
  have hdigest : (interruptedReceipt e at_).get "requestDigest" = .str e.requestDigest.val := rfl
  have haccepted : (interruptedReceipt e at_).get "accepted" = .bool true := rfl
  have hrequester : (interruptedReceipt e at_).get "requester" =
      e.requester.peer.record e.requester.grantId.val := rfl
  rw [validateReceipt, hsecrets, ok_bind, hmapping, ok_bind, hformat, hid, hdigest, haccepted,
    hrequester, checkId_eq_ok, checkDigest_eq_ok, checkRequester_record]
  rfl

/-! ### Every event is a sequence of writes -/

lemma writes_interruptOne (at_ : PyStr) (id : Id) :
    ReflTransGen Writes ops (interruptOne at_ ops id) := by
  unfold interruptOne
  cases hfind : ops.find? id with
  | none => exact .refl
  | some e =>
    dsimp only
    split_ifs with hstate
    · rw [← operationId_of_find? hfind] at hfind
      exact .single (.settled hfind hstate rfl rfl
        fun _ => validateReceipt_interruptedReceipt e at_)
    · exact .refl

lemma writes_complete (id : Id) (requestDigest : Digest) (receipt : Wire) (at_ : PyStr) :
    ReflTransGen Writes ops (afterTransaction ops
      (completeDeploymentOperation py ops id requestDigest receipt at_)) := by
  unfold completeDeploymentOperation
  cases hfind : ops.find? id with
  | none => exact .refl
  | some e =>
    dsimp only
    split_ifs with hdigest hstate hsame
    · exact .refl
    · exact .refl
    · exact .refl
    · rw [← operationId_of_find? hfind] at hfind
      exact .single (.settled hfind (not_not.mp hstate) rfl rfl nofun)

/-- **Step.** -/
theorem writes_next (event : DeploymentEvent) :
    ReflTransGen Writes ops (nextOperations py ops event) := by
  cases event with
  | admission request =>
    rw [nextOperations]
    cases hfind : ops.find? request.operationId with
    | none =>
      rw [admit_of_find?_none hfind]
      exact .single (.admitted hfind rfl)
    | some e =>
      rw [admit_of_find?_some hfind]
      split_ifs
      · exact .refl
      · exact .refl
  | complete id requestDigest receipt at_ =>
    exact writes_complete id requestDigest receipt at_
  | interrupt at_ documents =>
    rw [nextOperations, interruptFirst]
    induction (sortedIds ops).take documents generalizing ops with
    | nil => exact .refl
    | cons id ids ih => exact (writes_interruptOne at_ id).trans ih
  | restart => exact .refl

variable (events : List DeploymentEvent)

/-- **Run.** -/
theorem writes_run : ReflTransGen Writes ops (events.foldl (nextOperations py) ops) := by
  induction events generalizing ops with
  | nil => exact .refl
  | cons event events ih => exact (writes_next event).trans ih

/-! ### What a sequence of writes keeps -/

/-- `later` has every document of `earlier`, with the same digest, and unchanged if it is settled.
-/
def Extends (earlier later : DeploymentOperations) : Prop :=
  ∀ id e, earlier.find? id = some e →
    ∃ entry', later.find? id = some entry' ∧
      entry'.requestDigest = e.requestDigest ∧ (e.state ≠ .admitted → entry' = e)

variable {later : DeploymentOperations}

lemma Writes.extends (h : Writes ops later) : Extends ops later := by
  intro id before hbefore
  cases h with
  | @admitted e hnew hstate =>
    rw [find?_put]
    by_cases hid : e.operationId = id
    · rw [hid, hbefore] at hnew
      cases hnew
    · exact ⟨before, if_neg hid ▸ hbefore, rfl, fun _ => rfl⟩
  | @settled old e receipt hold hstate hdigest =>
    rw [find?_put]
    by_cases hid : e.operationId = id
    · rw [hid, hbefore] at hold
      cases hold
      exact ⟨e, if_pos hid, hdigest, fun hsettled => absurd hstate hsettled⟩
    · exact ⟨before, if_neg hid ▸ hbefore, rfl, fun _ => rfl⟩

lemma extends_of_writes (h : ReflTransGen Writes ops later) : Extends ops later := by
  induction h with
  | refl => exact fun _ e h => ⟨e, h, rfl, fun _ => rfl⟩
  | tail _ hwrites ih =>
    intro id e hfind
    obtain ⟨entry', hfind', hdigest', hsettled'⟩ := ih id e hfind
    obtain ⟨entry'', hfind'', hdigest'', hsettled''⟩ := hwrites.extends id entry' hfind'
    refine ⟨entry'', hfind'', hdigest''.trans hdigest', fun hstate => ?_⟩
    have heq : entry' = e := hsettled' hstate
    rw [hsettled'' (heq ▸ hstate), heq]

/-- A settled operation has a receipt. -/
def Receipted (ops : DeploymentOperations) : Prop :=
  ∀ e ∈ ops.rows, e.state ≠ .admitted → ∃ receipt, e.receipt = some receipt ∧
    (e.state = .interrupted → validateReceipt receipt = .ok receipt)

lemma Receipted.of_writes (h : Receipted ops)
    (hwrites : ReflTransGen Writes ops later) : Receipted later := by
  induction hwrites with
  | refl => exact h
  | tail _ hwrites ih =>
    intro other hother hsettled
    cases hwrites with
    | admitted hnew hstate =>
      obtain rfl | ⟨hother, -⟩ := (mem_put _).mp hother
      · exact absurd hstate hsettled
      · exact ih other hother hsettled
    | settled hold hstate hdigest hreceipt hvalid =>
      obtain rfl | ⟨hother, -⟩ := (mem_put _).mp hother
      · exact ⟨_, hreceipt, hvalid⟩
      · exact ih other hother hsettled

/-! ### Executions -/

/-- An id is admitted for execution only if it has no document, and has one afterwards. -/
lemma find?_of_executed (py : Interpreter) {event : DeploymentEvent} {id : Id}
    (h : executed ops event = some id) :
    ops.find? id = none ∧ ∃ e, (nextOperations py ops event).find? id = some e := by
  cases event with
  | admission request =>
    cases hfind : ops.find? request.operationId with
    | none =>
      simp only [executed, admit_of_find?_none hfind, Option.some.injEq] at h
      refine h ▸ ⟨hfind, request.entry, ?_⟩
      simp only [nextOperations, admit_of_find?_none hfind, afterTransaction, find?_put]
      exact if_pos rfl
    | some e =>
      -- A document under the id answers the request; none of its answers admits.
      exfalso
      simp only [executed, admit_of_find?_some hfind] at h
      by_cases hdigest : e.requestDigest ≠ request.requestDigest
      · rw [if_pos hdigest] at h
        cases h
      · rw [if_neg hdigest] at h
        cases hstate : e.state <;> cases hreceipt : e.receipt <;>
          simp [DeploymentOperation.admission, hstate, hreceipt] at h
  | complete id requestDigest receipt at_ => cases h
  | interrupt at_ documents => cases h
  | restart => cases h

/-- No id is admitted for execution twice, nor one that has a document already. -/
lemma executions_nodup : ∀ ops : DeploymentOperations, (executions py ops events).Nodup ∧
      ∀ id ∈ executions py ops events, ops.find? id = none := by
  induction events with
  | nil =>
    intro ops
    exact ⟨nodup_nil, nofun⟩
  | cons event events ih =>
    intro ops
    obtain ⟨hnodup, hnew⟩ := ih (nextOperations py ops event)
    -- Ids without a document after the event had none before it.
    have hearlier : ∀ id ∈ executions py (nextOperations py ops event) events,
        ops.find? id = none := by
      intro id hmem
      cases hfind : ops.find? id with
      | none => rfl
      | some e =>
        obtain ⟨entry', hfind', -⟩ := extends_of_writes (writes_next event) id e hfind
        have hnone := hnew id hmem
        cases hfind'.symm.trans hnone
    cases hexecuted : executed ops event with
    | none =>
      simp only [executions, hexecuted, Option.toList_none, nil_append]
      exact ⟨hnodup, hearlier⟩
    | some id =>
      obtain ⟨hfree, e, hfind⟩ := find?_of_executed py hexecuted
      simp only [executions, hexecuted, Option.toList_some, singleton_append, nodup_cons, mem_cons]
      refine ⟨⟨?_, hnodup⟩, ?_⟩
      · intro hmem
        have hnone := hnew id hmem
        cases hfind.symm.trans hnone
      · rintro other (rfl | hmem)
        · exact hfree
        · exact hearlier other hmem

/-! ### Exactly once -/

variable (py) in
/-- The directory after a sequence of events, from the empty one. -/
def operationsAfter : DeploymentOperations :=
  events.foldl (nextOperations py) (Table.empty _)

lemma extends_operationsAfter {earlier events : List DeploymentEvent} (h : earlier <+: events) :
    Extends (operationsAfter py earlier) (operationsAfter py events) := by
  obtain ⟨later, rfl⟩ := h
  rw [operationsAfter, operationsAfter, foldl_append]
  exact extends_of_writes (writes_run later)

section

variable (py)

lemma receipted_operationsAfter : Receipted (operationsAfter py events) :=
  Receipted.of_writes (fun _ hmem => absurd hmem not_mem_nil) (writes_run events)

/-- What a sequence of events does to deployment operations. -/
structure ExactlyOnce : Prop where
  /-- No operation id is admitted for execution twice. -/
  executions_nodup : (executions py (Table.empty _) events).Nodup
  /-- Once an id has a document, a request with another digest is refused. -/
  refused : ∀ earlier, earlier <+: events → ∀ e ∈ (operationsAfter py earlier).rows,
    ∀ request : AdmissionRequest, request.operationId = e.operationId →
      request.requestDigest ≠ e.requestDigest →
      admitDeploymentOperation (operationsAfter py events) request =
        .error ⟨PyStr.of "deployment operation " ++ request.operationId.val ++
          PyStr.of " was reused for a different request"⟩
  /-- A completed or interrupted operation has a receipt, and is never changed. -/
  kept : ∀ earlier, earlier <+: events → ∀ e ∈ (operationsAfter py earlier).rows,
    e.state ≠ .admitted → (∃ receipt, e.receipt = some receipt) ∧
      (operationsAfter py events).find? e.operationId = some e
  /-- A request with its id and digest gets that receipt. -/
  replayed : ∀ e ∈ (operationsAfter py events).rows, e.state ≠ .admitted →
    ∀ receipt, e.receipt = some receipt → ∀ request : AdmissionRequest,
      request.operationId = e.operationId → request.requestDigest = e.requestDigest →
      admitDeploymentOperation (operationsAfter py events) request =
          .ok (.replay receipt, operationsAfter py events) ∧
        (e.state = .interrupted ∨ validateReceipt receipt = .ok receipt →
          ∀ completedAt, answerDeployment (operationsAfter py events) request completedAt =
            .receipt receipt)
  /-- A completion that succeeds leaves the operation ended, with its receipt or an equal one. -/
  completed : ∀ operationId requestDigest receipt at_ e operations,
    completeDeploymentOperation py (operationsAfter py events) operationId requestDigest receipt
        at_ = .ok (e, operations) →
      operations.find? operationId = some e ∧ e.state ≠ .admitted ∧
        ∃ stored, e.receipt = some stored ∧ (stored = receipt ∨ stored.pyEq py.valueOf receipt)

end

/-- What a completion that succeeds has stored. -/
lemma complete_eq_ok {operations operations' : DeploymentOperations} {operationId : Id}
    {requestDigest : Digest} {receipt : Wire} {at_ : PyStr}
    (h : completeDeploymentOperation py operations operationId requestDigest receipt at_ =
      .ok (e, operations')) :
    operations'.find? operationId = some e ∧ e.state ≠ .admitted ∧
      ∃ stored, e.receipt = some stored ∧ (stored = receipt ∨ stored.pyEq py.valueOf receipt) := by
  unfold completeDeploymentOperation at h
  cases hfind : operations.find? operationId with
  | none =>
    rw [hfind] at h
    cases h
  | some entry =>
    rw [hfind] at h
    dsimp only at h
    split_ifs at h with hdigest hended hequal
    · cases h
      cases hreceipt : e.receipt with
      | none =>
        rw [hreceipt] at hequal
        cases hequal
      | some stored =>
        rw [hreceipt] at hequal
        exact ⟨hfind, hended, stored, rfl, .inr hequal⟩
    · cases h
      have hid := (find?_eq_some_iff operations).mp hfind
      refine ⟨?_, by simp, receipt, rfl, .inl rfl⟩
      rw [find?_put, if_pos hid.2]

lemma admission_eq_replay {receipt : Wire} (hstate : e.state ≠ .admitted)
    (hreceipt : e.receipt = some receipt) :
    e.admission = .replay receipt := by
  cases h : e.state with
  | admitted => exact absurd h hstate
  | completed | interrupted => simp [DeploymentOperation.admission, h, hreceipt]

/-- **Exactly once.** In every sequence of admissions, completions, interruptions and restarts. -/
theorem exactlyOnce (py : Interpreter) (events : List DeploymentEvent) : ExactlyOnce py events where
  executions_nodup := (executions_nodup events _).1
  refused := by
    intro earlier hearlier e hentry request hid hdigest
    have hfind := (find?_eq_some_iff (operationsAfter py earlier)).mpr ⟨hentry, rfl⟩
    obtain ⟨entry', hfind', hdigest', -⟩ := extends_operationsAfter hearlier _ e hfind
    rw [← hid] at hfind'
    rw [admit_of_find?_some hfind', if_pos]
    rw [hdigest']
    exact hdigest.symm
  kept := by
    intro earlier hearlier e hentry hstate
    obtain ⟨receipt, hreceipt, -⟩ := receipted_operationsAfter py earlier e hentry hstate
    have hfind := (find?_eq_some_iff (operationsAfter py earlier)).mpr ⟨hentry, rfl⟩
    obtain ⟨entry', hfind', -, hsettled⟩ := extends_operationsAfter hearlier _ e hfind
    rw [hsettled hstate] at hfind'
    exact ⟨⟨receipt, hreceipt⟩, hfind'⟩
  replayed := by
    intro e hentry hstate receipt hreceipt request hid hdigest
    have hfind := (find?_eq_some_iff (operationsAfter py events)).mpr ⟨hentry, hid.symm⟩
    have hstored : admitDeploymentOperation (operationsAfter py events) request =
        .ok (.replay receipt, operationsAfter py events) := by
      rw [admit_of_find?_some hfind, if_neg (not_not.mpr hdigest.symm),
        admission_eq_replay hstate hreceipt]
    refine ⟨hstored, fun hvalid completedAt => ?_⟩
    have hchecked : validateReceipt receipt = .ok receipt := by
      rcases hvalid with hinterrupted | hchecked
      · obtain ⟨other, hother, hvalid⟩ := receipted_operationsAfter py events e hentry hstate
        cases hreceipt.symm.trans hother
        exact hvalid hinterrupted
      · exact hchecked
    simp only [answerDeployment, hstored, hchecked]
  completed := fun _ _ _ _ _ _ h => complete_eq_ok h

def sampleOperation : Id := ⟨"deploy", by decide⟩

def sampleAdmission : AdmissionRequest where
  operationId := sampleOperation
  requestDigest := plainDigest
  operation := .probeDeploymentTarget
  deploymentId := .null
  requester := ⟨⟨0, 0, 0⟩, ⟨"deployer", by decide⟩, by decide, by decide, by decide⟩
  at_ := "2026-06-01T00:00:00Z"

/-- An operation is completed, and then admitted, interrupted and completed again. -/
def sampleEvents : List DeploymentEvent :=
  [.admission sampleAdmission, .complete sampleOperation plainDigest (.str "done") "now",
    .restart, .admission sampleAdmission, .interrupt "later" 1,
    .complete sampleOperation plainDigest (.str "other") "later"]

/-- It is executed once and replays its first receipt. -/
theorem exactlyOnce_sample :
    executions plainInterpreter (Table.empty _) sampleEvents = [sampleOperation] ∧
      (executions plainInterpreter (Table.empty _) sampleEvents).Nodup ∧
      admitDeploymentOperation (operationsAfter plainInterpreter sampleEvents) sampleAdmission =
        .ok (.replay (.str "done"), operationsAfter plainInterpreter sampleEvents) := by
  have h := exactlyOnce plainInterpreter sampleEvents
  have hfound : ∃ e ∈ (operationsAfter plainInterpreter sampleEvents).rows,
      e.state = .completed ∧ e.receipt = some (.str "done") ∧ e.operationId = sampleOperation ∧
        e.requestDigest = plainDigest := ⟨_, List.mem_cons_self, rfl, rfl, rfl, rfl⟩
  obtain ⟨e, hmem, hstate, hreceipt, hid, hdigest⟩ := hfound
  refine ⟨by decide +kernel, h.executions_nodup, ?_⟩
  exact (h.replayed e hmem (by rw [hstate]; decide) _ hreceipt sampleAdmission hid.symm
    hdigest.symm).1

end StatePort.Daemon
