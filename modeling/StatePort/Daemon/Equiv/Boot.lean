import StatePort.Daemon.Boot
import StatePort.Daemon.Equiv.Host

/-!
# What a restart keeps

`triple_reconcileEntry` says what must be shown of an invariant to carry it through the
reconciliation of one entry: it is stable, the entry may become `interrupted`, and an entry that is
not terminal may be adopted. `Boots` gathers these facts, and `triple_reconcileEntries` is the loop:
while one entry is reconciled, those that come after it stay as they were read.
-/

namespace StatePort.Daemon

open Effect List

variable {host : Host} {entry : Entry} {at_ : PyStr} {I R : World → Prop} {info : Info}
  {entries : List Entry} {K : World → Prop}

/-- The entries are in the ledger as they were read. -/
def Among (entries : List Entry) (w : World) : Prop :=
  ∀ entry ∈ entries, w.ledger.find? entry.workloadId = some entry

lemma Among.written {w : World} (h : Among entries w)
    (hother : ∀ e ∈ entries, e.workloadId ≠ entry.workloadId) :
    Among entries (w.written entry) := by
  intro e he
  rw [World.written, Table.find?_put, if_neg fun heq => hother e he heq.symm]
  exact h e he

lemma stable_among {id : Id} (hother : ∀ e ∈ entries, e.workloadId ≠ id) :
    Stable id (Among entries) where
  asked _ h := h
  inspected _ _ h := h
  called _ _ _ h _ := h
  noted w old change h hfind _ := by
    refine h.written fun e he => ?_
    rw [transitioned_workloadId, workloadId_of_find? hfind]
    exact hother e he

/-- The changes of a restart touch no field but the status of a seed. -/
def Change.OfBoot (change : Change) : Prop :=
  ∀ x ∈ change.extra, ∃ status, x = .sourceSeedStatus status

/-! ### One entry -/

variable {state : State} {change : Change}

/-- A transition that expects nothing of an entry that is there. -/
lemma triple_bootTransition
    (hR : ∀ w old, I w → w.ledger.find? entry.workloadId = some old →
      R (w.written (old.transitioned state change))) (hkept : ∀ w, I w → R w) :
    Triple I (bootTransition entry state change) (fun _ => R) fun _ => R := by
  refine triple_write (fun w entry' ledger hw h => ?_) fun w _ h _ => hkept w h
  obtain ⟨old, hfind, -, -, rfl, rfl⟩ := transition_eq_ok_iff.mp h
  exact hR w old hw hfind

lemma triple_bootRecord (outcome : BootOutcome)
    (hR : ∀ w old, I w → w.ledger.find? entry.workloadId = some old →
      R (w.written (old.transitioned state change))) (hkept : ∀ w, I w → R w) :
    Triple I (do
      _ ← bootTransition entry state change
      return outcome) (fun _ => R) fun _ => R :=
  .bind_pure (triple_bootTransition hR hkept)

lemma triple_reported {x : Run BootOutcome} (h : Triple I x (fun _ => R) fun _ => R) :
    Triple I (reported x) (fun _ => R) fun _ => R := by
  refine .bind (Triple.attempt_of_always h) fun result => ?_
  cases result with
  | ok outcome | error failure => exact .pure fun _ h => h

section

variable (hI : Stable entry.workloadId I) (hbound : ∀ w, I w → Bound entry w)
include hI hbound

lemma triple_stopOwned
    (h : ∀ w, I w → Verified entry.workloadId (info.containerId.getD []) w) :
    Triple I (stopOwned host entry info)
      (fun entry' w => I w ∧ SameIdentity entry' entry) fun _ => I := by
  rw [stopOwned]
  split_ifs
  · refine .bind (triple_markBound hI hbound _).kept fun entry' => ?_
    by_cases hsame : SameIdentity entry' entry
    · rw [hsame.workloadId]
      refine .bind (orderly_act hI .stop h).kept.dropping fun _ => .pure fun _ h => ⟨h, hsame⟩
    · exact fun _ h => absurd h.2 hsame
  · exact .pure fun _ h => ⟨h, SameIdentity.refl entry⟩

lemma keeps_removeOwned (reason : PyStr)
    (h : ∀ w, I w → Verified entry.workloadId (info.containerId.getD []) w) :
    Keeps I (removeOwned host entry info reason) := by
  refine Triple.bind (triple_stopOwned hI hbound h) fun entry' => ?_
  by_cases hsame : SameIdentity entry' entry
  · have hI' : Stable entry'.workloadId I := hsame.workloadId ▸ hI
    have hbound' : ∀ w, I w → Bound entry' w := by
      intro w hw
      obtain ⟨current, hfind, hcurrent⟩ := hbound w hw
      exact ⟨current, hsame.workloadId ▸ hfind, hcurrent.trans
        ⟨hsame.workloadId.symm, hsame.spec.symm, hsame.containerId.symm⟩⟩
    refine Triple.bind (orderly_captureSourceCommandOutput hI' hbound' reason).kept.dropping
      fun _ => ?_
    exact (orderly_act hI' .remove fun w hw => hsame.workloadId ▸ h w hw).kept
  · exact fun _ h => absurd h.2 hsame

/-- A container that matches the entry is stopped and removed. -/
lemma triple_removeOwned (reason : PyStr) (hpresent : info.present = some true)
    (hmatch : containerIdentityError entry info = none) :
    Triple (fun w => I w ∧ Seen entry.workloadId info w)
      (removeOwned host entry info reason) (fun _ => I) fun _ => I := by
  have hstable := hI.and (stable_verified entry.workloadId (info.containerId.getD []))
  refine (keeps_removeOwned hstable (fun w h => hbound w h.1) reason fun _ h => h.2).mono
    (fun w h => ⟨h.1, ?_⟩) (fun _ _ h => h.1) fun _ _ h => h.1
  exact (hbound w h.1).verified h.2 hpresent hmatch

lemma triple_reconcileTerminal : Keeps I (reconcileTerminal host entry) := by
  rw [reconcileTerminal]
  split_ifs
  · exact .pure _
  · refine triple_reported (.bind (triple_inspect hI).kept fun info => ?_)
    split_ifs with hpresent
    · cases hmatch : containerIdentityError entry info with
      | some error => exact .pure fun _ h => h.1
      | none =>
        exact Triple.bind_pure (triple_removeOwned hI hbound _ hpresent hmatch)
    · exact .pure fun _ h => h.1

variable (hkept : ∀ w, I w → R w)
  (hinterrupted : ∀ w old change, I w → w.ledger.find? entry.workloadId = some old →
    change.OfBoot → R (w.written (old.transitioned .interrupted change)))
  (hadopted : entry.state.isTerminal = false → ∀ w old change info, I w →
    w.ledger.find? entry.workloadId = some old → change.OfBoot →
    R (w.written (old.transitioned (adoptedState info) change)))
include hkept hinterrupted

omit hbound in
lemma triple_reconcileSeed :
    Triple I (reconcileSeed host at_ entry)
      (fun outcome w => R w ∧ (outcome = none → I w)) fun _ => R := by
  rw [reconcileSeed]
  split
  · exact .pure fun w h => ⟨hkept w h, nofun⟩
  · exact .pure fun w h => ⟨hkept w h, nofun⟩
  · refine Triple.bind ((Orderly.attempt (orderly_askEngine hI.asked _)).mono_error
      fun _ _ h => hkept _ h.1)
      fun result => ?_
    cases result with
    | ok _ => exact .pure fun w h => ⟨hkept w h, fun _ => h⟩
    | error failure => exact .pure fun w h => ⟨hkept w h, nofun⟩
  · refine .bind (triple_reported (.bind ((orderly_inspect hI).mono_error
      fun _ _ h => hkept _ h.1) fun info => ?_))
      fun _ => .pure fun _ h => ⟨h, nofun⟩
    split_ifs
    · exact .raise hkept
    · refine triple_bootRecord _ (fun w old h hfind => ?_) hkept
      exact hinterrupted w old _ h hfind (by simp [Change.OfBoot])

lemma triple_reconcileEphemeral :
    Triple I (reconcileEphemeral host at_ entry) (fun _ => R) fun _ => R := by
  have hrecord : Triple I (do
      _ ← bootTransition entry .interrupted { at_, receipt := some .restartRecovery }
      return BootOutcome.interrupted) (fun _ => R) fun _ => R := by
    refine triple_bootRecord _ (fun w old h hfind => ?_) hkept
    exact hinterrupted w old _ h hfind (by simp [Change.OfBoot])
  refine triple_reported (.bind ((triple_inspect hI).mono_error
    fun _ _ h => hkept _ h.1) fun info => ?_)
  by_cases hpresent : info.present = some true
  · rw [if_pos hpresent]
    cases hmatch : containerIdentityError entry info with
    | some error => exact .pure fun _ h => hkept _ h.1
    | none =>
      dsimp only
      rw [if_pos hpresent]
      exact .bind ((triple_removeOwned hI hbound _ hpresent hmatch).mono_error
        fun _ _ h => hkept _ h) fun _ => hrecord
  · rw [if_neg hpresent]
    dsimp only
    rw [if_neg hpresent]
    exact .mono_pre hrecord fun _ h => h.1

include hadopted

omit hbound in
lemma triple_reconcileWorkspace (hstate : entry.state.isTerminal = false) :
    Triple I (reconcileWorkspace host at_ entry) (fun _ => R) fun _ => R := by
  refine Triple.bind ((Orderly.attempt (orderly_inspect hI)).mono_error
    fun _ _ h => hkept _ h.1) fun result => ?_
  cases result with
  | error failure => exact Triple.pure hkept
  | ok info =>
    dsimp only
    by_cases hpresent : info.present = some true
    · rw [if_pos hpresent]
      cases containerIdentityError entry info with
      | some error => exact Triple.pure hkept
      | none =>
        refine Triple.bind ((Orderly.attempt (orderly_askEngine hI.asked _)).mono_error
          fun _ _ h => hkept _ h.1) fun verified => ?_
        cases verified with
        | error failure => exact Triple.pure hkept
        | ok _ =>
          refine triple_bootRecord _ (fun w old h hfind => ?_) hkept
          exact hadopted hstate w old _ info h hfind (by simp [Change.OfBoot])
    · rw [if_neg hpresent]
      refine triple_bootRecord _ (fun w old h hfind => ?_) hkept
      exact hinterrupted w old _ h hfind (by simp [Change.OfBoot])

/-- **The reconciliation of one entry.** -/
theorem triple_reconcileEntry :
    Triple I (reconcileEntry host at_ entry) (fun _ => R) fun _ => R := by
  have hsettled : Triple I (reconcileSettled host at_ entry) (fun _ => R) fun _ => R := by
    rw [reconcileSettled]
    split_ifs with hterminal hworkspace
    · exact (triple_reconcileTerminal hI hbound).mono_post (fun _ _ h => hkept _ h)
        fun _ _ h => hkept _ h
    · exact triple_reconcileWorkspace hI hkept hinterrupted hadopted
        (Bool.eq_false_iff.mpr hterminal)
    · exact triple_reconcileEphemeral hI hbound hkept hinterrupted
  rw [reconcileEntry]
  split_ifs
  · refine .bind (triple_reconcileSeed hI hkept hinterrupted) fun outcome => ?_
    cases outcome with
    | some outcome => exact .pure fun _ h => h.1
    | none => exact .mono_pre hsettled fun _ h => h.2 rfl
  · exact hsettled

end

/-! ### All entries -/

/-- The states that a restart may give to an entry. -/
def Entry.Reboots (entry : Entry) (state : State) : Prop :=
  state = .interrupted ∨ entry.state.isTerminal = false ∧ ∃ info, state = adoptedState info

/-- `K` is kept by the reconciliation of the entry. -/
structure Boots (K : World → Prop) (entry : Entry) : Prop where
  stable : Stable entry.workloadId K
  /-- The last transition starts from the state that the restart has found. -/
  written : ∀ w old state change, K w → w.ledger.find? entry.workloadId = some old →
    OnlyNotes old entry → entry.Reboots state → change.OfBoot →
    K (w.written (old.transitioned state change))

lemma Boots.reconcileEntry (hK : Boots K entry)
    (hother : ∀ e ∈ entries, e.workloadId ≠ entry.workloadId) :
    Triple (fun w => K w ∧ Among (entry :: entries) w) (reconcileEntry host at_ entry)
      (fun _ w => K w ∧ Among entries w) fun _ => K := by
  have hwritten : ∀ w old state change, (K w ∧ Among entries w) ∧ Held entry w →
      w.ledger.find? entry.workloadId = some old → entry.Reboots state → change.OfBoot →
      K (w.written (old.transitioned state change)) ∧
        Among entries (w.written (old.transitioned state change)) := by
    rintro w old state change ⟨⟨hw, hrest⟩, current, hcurrent, hsame⟩ hfind hstate hchange
    cases hcurrent.symm.trans hfind
    refine ⟨hK.written w old state change hw hfind hsame hstate hchange,
      hrest.written fun e he => ?_⟩
    rw [transitioned_workloadId, workloadId_of_find? hfind]
    exact hother e he
  refine (triple_reconcileEntry (R := fun w => K w ∧ Among entries w)
    ((hK.stable.and (stable_among hother)).and (stable_held entry)) (fun _ h => h.2.bound)
    (fun _ h => h.1) ?_ ?_).mono (fun w h => ?_) (fun _ _ h => h) fun _ _ h => h.1
  · exact fun w old change h hfind => hwritten w old _ change h hfind (.inl rfl)
  · exact fun hactive w old change info h hfind =>
      hwritten w old _ change h hfind (.inr ⟨hactive, info, rfl⟩)
  · exact ⟨⟨h.1, fun e he => h.2 e (mem_cons_of_mem _ he)⟩, entry, h.2 entry
      mem_cons_self, OnlyNotes.refl entry⟩

/-- **The loop.** While an entry is reconciled, those that come after it stay as they were read. -/
theorem triple_reconcileEntries (hentry : ∀ entry ∈ entries, Boots K entry)
    (hnodup : (entries.map Entry.workloadId).Nodup) :
    Triple (fun w => K w ∧ Among entries w) (reconcileEntries host at_ entries)
      (fun _ => K) fun _ => K := by
  induction entries with
  | nil => exact .pure fun _ h => h.1
  | cons entry entries ih =>
    rw [map_cons, nodup_cons, mem_map, not_exists] at hnodup
    rw [forall_mem_cons] at hentry
    rw [reconcileEntries]
    refine .bind (hentry.1.reconcileEntry fun e he heq => hnodup.1 e ⟨he, heq⟩) fun _ => ?_
    exact .bind_pure (ih hentry.2 hnodup.2)

lemma nodup_allEntries (ledger : Ledger) : ((allEntries ledger).map Entry.workloadId).Nodup := by
  have hperm := (perm_insertionSort (fun a b : Entry =>
    !PyStr.isLess (b.workloadId.val ++ PyStr.of ".json") (a.workloadId.val ++ PyStr.of ".json"))
    ledger.rows).map Entry.workloadId
  exact hperm.nodup_iff.mpr ledger.nodup

lemma mem_allEntries {ledger : Ledger} : entry ∈ allEntries ledger ↔ entry ∈ ledger.rows :=
  mem_insertionSort _

/-- **The whole restart.** The entries are those of the ledger with which it starts. -/
theorem triple_reconcileOnBoot {J : World → Prop}
    (hasked : ∀ w, J w → J { w with questions := w.questions + 1 })
    (hstart : ∀ w, J w → K w)
    (hentry : ∀ w entry, J w → entry ∈ w.ledger.rows → Boots K entry) :
    Triple J (reconcileOnBoot host at_) (fun _ => K) fun _ => K := by
  refine .bind ((orderly_askEngine hasked host.listManaged).mono_error
    fun _ _ h => hstart _ h.1) fun managed => ?_
  refine .bind_state fun w hw => ?_
  refine .bind (Q := fun _ => K) ((triple_reconcileEntries (fun entry hmem =>
    hentry w entry hw (mem_allEntries.mp hmem))
      (nodup_allEntries w.ledger)).mono_pre ?_) fun outcomes => ?_
  · rintro found ⟨rfl, -⟩
    exact ⟨hstart found hw, fun e he =>
      (Table.find?_eq_some_iff found.ledger).mpr ⟨mem_allEntries.mp he, rfl⟩⟩
  · exact Triple.bind_pure Keeps.state

end StatePort.Daemon
