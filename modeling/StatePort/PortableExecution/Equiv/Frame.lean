import StatePort.PortableExecution.Equiv.Stranding

/-!
# What an apply changes in the instance

The canonical tree is rewritten from a snapshot, which holds the bytes of the files and not their
modes. Of the paths and their bytes exactly the approved ones change
(`at?_ne_iff_of_changesExactly`), but every file is created anew and is not executable afterwards.
An exception after the record says `applied` lets the handler restore the snapshot, although the
record of a closed run stays as it is. So an applied run has changed its paths and kept the rest of
the instance exactly if no file outside the approved paths was executable and no such exception is
raised, and a rollback keeps the instance exactly if no file was executable
(`applyProposal_keepsRest_iff`).
-/

namespace StatePort.PortableExecution

open List

open Effect (Triple Keeps lift raise attempt state)

variable {δ : Type} {d : Digests δ}

/-! ### Snapshots -/

section

variable {before after : Snapshot} {paths : List Path} {path : Path}

lemma mem_rows_of_at?_ne_none {snapshot : Snapshot} (h : snapshot.at? path ≠ none) :
    path ∈ snapshot.rows.map Prod.fst := by
  obtain ⟨node, hnode⟩ := Option.ne_none_iff_exists'.mp h
  obtain ⟨row, hrow, -⟩ := Option.map_eq_some_iff.mp hnode
  rw [Table.find?] at hrow
  exact mem_map.mpr ⟨row, mem_of_find?_eq_some hrow, by simpa using find?_some hrow⟩

lemma mem_filesChanged {change : Change} (h : change ∈ changesAt before after path)
    (hpath : before.at? path ≠ none ∨ after.at? path ≠ none) :
    change ∈ filesChanged before after := by
  refine mem_flatMap.mpr ⟨path, mem_append.mpr ?_, h⟩
  exact hpath.imp mem_rows_of_at?_ne_none mem_rows_of_at?_ne_none

lemma at?_ne_of_mem (h : .path path ∈ filesChanged before after) :
    before.at? path ≠ after.at? path := by
  obtain ⟨p, -, hchange⟩ := mem_flatMap.mp h
  intro hsame
  simp only [changesAt, mem_append] at hchange
  rcases hchange with hfile | hdirectory
  · split_ifs at hfile with hne
    · cases mem_singleton.mp hfile
      exact hne (by rw [hsame])
    · cases hfile
  · split_ifs at hdirectory
    · cases mem_singleton.mp hdirectory
    · cases hdirectory

/-- Nodes with the same bytes differ where one is a directory and the other is not. -/
lemma directory_differs {a b : Option Node} (h : a ≠ b)
    (hfile : a.bind Node.content? = b.bind Node.content?) :
    a = some .directory ∧ ¬ b = some .directory ∨ ¬ a = some .directory ∧ b = some .directory := by
  rcases a with _ | ⟨content⟩ | _
  · rcases b with _ | ⟨content'⟩ | _
    · exact absurd rfl h
    · cases hfile
    · exact .inr ⟨nofun, rfl⟩
  · rcases b with _ | ⟨content'⟩ | _
    · cases hfile
    · cases hfile
      exact absurd rfl h
    · cases hfile
  · rcases b with _ | ⟨content'⟩ | _
    · exact .inl ⟨rfl, nofun⟩
    · cases hfile
    · exact absurd rfl h

/-- A node that differs is a changed file, or a directory that came or went. -/
lemma mem_of_at?_ne (h : before.at? path ≠ after.at? path) :
    .path path ∈ filesChanged before after ∨ .slashed path ∈ filesChanged before after := by
  have hpath : before.at? path ≠ none ∨ after.at? path ≠ none := by
    by_contra hnone
    rw [not_or, not_not, not_not] at hnone
    exact h (hnone.1.trans hnone.2.symm)
  by_cases hfile : (before.at? path).bind Node.content? = (after.at? path).bind Node.content?
  · right
    refine mem_filesChanged (mem_append_right _ ?_) hpath
    rw [if_pos]
    · exact mem_singleton_self _
    · exact directory_differs h hfile
  · left
    refine mem_filesChanged (mem_append_left _ ?_) hpath
    rw [if_pos hfile]
    exact mem_singleton_self _

/-- **The paths whose kind or bytes differ are the approved ones.** -/
theorem at?_ne_iff_of_changesExactly (h : changesExactly before after paths) :
    before.at? path ≠ after.at? path ↔ path ∈ paths := by
  rw [changesExactly, Bool.and_eq_true, all_eq_true, all_eq_true] at h
  constructor
  · intro hne
    rcases mem_of_at?_ne hne with hmem | hmem
    · have hpath := of_decide_eq_true (h.1 _ hmem)
      obtain ⟨p, hp, heq⟩ := mem_map.mp hpath
      cases heq
      exact hp
    · have hpath := of_decide_eq_true (h.1 _ hmem)
      obtain ⟨p, -, heq⟩ := mem_map.mp hpath
      cases heq
  · intro hmem
    exact at?_ne_of_mem (of_decide_eq_true (h.2 _ hmem))

end

/-! ### Trees -/

/-- The kind or the bytes at a path differ. -/
def Differs (tree tree' : Tree) (path : Path) : Prop :=
  (tree.at? path).map Entry.node ≠ (tree'.at? path).map Entry.node

/-- Exactly the given paths change, and everything else keeps its kind, its bytes and its executable
bit. -/
def KeepsRest (tree tree' : Tree) (paths : List Path) : Prop :=
  (∀ path, Differs tree tree' path ↔ path ∈ paths) ∧
    ∀ path, path ∉ paths → tree'.at? path = tree.at? path

/-- No file outside the given paths is executable. -/
def NoExecutableOutside (tree : Tree) (paths : List Path) : Prop :=
  ∀ path, path ∉ paths → ∀ content, tree.at? path ≠ some (.file content true)

def Entry.isExecutable : Entry → Bool
  | .file _ executable => executable
  | .directory => false

variable {tree : Tree} {paths : List Path}

lemma noExecutableOutside_of_rows
    (h : tree.rows.all (fun row => !row.2.isExecutable)) : NoExecutableOutside tree paths := by
  rintro path - content hentry
  obtain ⟨row, hrow, hentry⟩ := Option.map_eq_some_iff.mp hentry
  rw [Table.find?] at hrow
  have hplain := all_eq_true.mp h row (mem_of_find?_eq_some hrow)
  rw [hentry] at hplain
  cases hplain

/-- An entry that is recorded and created anew is what it was, unless it was executable. -/
lemma entry_node_eq_iff (entry : Option Entry) :
    (entry.map Entry.node).map Node.entry = entry ↔
      ∀ content, entry ≠ some (.file content true) := by
  rcases entry with _ | ⟨content, executable⟩ | _
  · simp
  · cases executable <;> simp [Entry.node, Node.entry]
  · simp [Entry.node, Node.entry]

/-- **A tree that is restored from its own snapshot** is what it was, unless a file was
executable. -/
theorem restored_eq_iff (tree : Tree) :
    (∀ path, (restoredTree (snapshotFiles tree)).at? path = tree.at? path) ↔
      NoExecutableOutside tree [] := by
  simp only [at?_restoredTree, at?_snapshotFiles, entry_node_eq_iff, NoExecutableOutside,
    not_mem_nil, not_false_eq_true, forall_true_left]

/-- **A tree that is restored from a snapshot that changes the given paths.** -/
theorem keepsRest_restored_iff {after validated : Snapshot}
    (hexactly : changesExactly (snapshotFiles tree) after paths)
    (hvalidated : ∀ path, validated.at? path = after.at? path) :
    KeepsRest tree (restoredTree validated) paths ↔ NoExecutableOutside tree paths := by
  have hdiffers (path : Path) : Differs tree (restoredTree validated) path ↔ path ∈ paths := by
    rw [← at?_ne_iff_of_changesExactly hexactly, Differs, at?_restoredTree, at?_snapshotFiles,
      hvalidated, Option.map_map]
    have hnode : Entry.node ∘ Node.entry = id := funext Node.node_entry
    rw [hnode, Option.map_id, id]
  have hrest (path : Path) (hpath : path ∉ paths) :
      (restoredTree validated).at? path = ((tree.at? path).map Entry.node).map Node.entry := by
    have hsame : (snapshotFiles tree).at? path = after.at? path := by
      by_contra hne
      exact hpath ((at?_ne_iff_of_changesExactly hexactly).mp hne)
    rw [at?_restoredTree, hvalidated, ← hsame, at?_snapshotFiles]
  constructor
  · intro h path hpath
    rw [← entry_node_eq_iff, ← hrest path hpath]
    exact h.2 path hpath
  · intro h
    refine ⟨hdiffers, fun path hpath => ?_⟩
    rw [hrest path hpath, entry_node_eq_iff]
    exact h path hpath

/-- **A tree that is restored from its own snapshot** has nothing changed. -/
theorem keepsRest_rolledBack_iff :
    KeepsRest tree (restoredTree (snapshotFiles tree)) paths ↔
      paths = [] ∧ NoExecutableOutside tree [] := by
  have hsame (path : Path) : ¬ Differs tree (restoredTree (snapshotFiles tree)) path := by
    have hnode : Entry.node ∘ Node.entry = id := funext Node.node_entry
    rw [Differs, not_not, at?_restoredTree, at?_snapshotFiles, Option.map_map, hnode, Option.map_id,
      id]
  rw [← restored_eq_iff, KeepsRest]
  constructor
  · rintro ⟨hchanged, hrest⟩
    have hnil : paths = [] := eq_nil_iff_forall_not_mem.mpr fun path hpath =>
      hsame path ((hchanged path).mpr hpath)
    subst hnil
    exact ⟨rfl, fun path => hrest path not_mem_nil⟩
  · rintro ⟨rfl, hrest⟩
    exact ⟨fun path => iff_of_false (hsame path) not_mem_nil, fun path _ => hrest path⟩

/-! ### What a call does to the tree -/

section

variable {T : (String → Tree) → Prop} {runId key : String} {fault : Fault} {call : ApplyCall}
  {before : Snapshot} {paths : List Path} {run : Run (RunData δ)}

variable (T) in
/-- The tree is as `T` says. -/
abbrev TreesAre (w : World δ) : Prop := T w.trees

lemma keeps_trees_callStore {change : Run (RunData δ) → Except StoreError (Run (RunData δ))} :
    Keeps (TreesAre T) (act fault fun w : World δ => callStore w runId change) := by
  refine keeps_act fun w w' hw h => ?_
  obtain ⟨_, _, _, _, -, -, -, -, -, rfl⟩ := callStore_eq_ok h
  exact hw

lemma keeps_trees_discardSnapshot :
    Keeps (TreesAre T) (discardSnapshot fault key : Job δ Unit) := by
  refine keeps_act fun w w' hw h => ?_
  cases h
  exact hw

variable {P Q : World δ → Prop} {x : Job δ Unit}

lemma keeps_and (hP : Keeps P x) (hQ : Keeps Q x) : Keeps (fun w => P w ∧ Q w) x := by
  intro w hw
  have hp := hP w hw.1
  have hq := hQ w hw.2
  cases hx : x w with
  | mk result w' =>
    rw [hx] at hp hq
    cases result with
    | ok _ => exact ⟨hp, hq⟩
    | error _ => exact ⟨hp, hq⟩

variable [DecidableEq δ]

variable (d call before) in
def Staged (paths : List Path) : Prop :=
  changesExactly before call.afterWriter paths ∧
    d.snapshot call.validated = d.snapshot call.afterWriter

lemma staged_of_checkStaged (h : checkStaged d call w run before paths = .ok ()) :
    Staged d call before paths := by
  simp only [checkStaged, portableIf, eq_ok_iff, not_not, Bool.not_eq_false] at h
  exact ⟨h.1, h.2.2.1⟩

end

/-! ### The record -/

/-- If the record has the given status, the trees are as `T` says. -/
def Recorded (status : Status) (runId : String) (T : (String → Tree) → Prop) (w : World δ) : Prop :=
  ∀ run, w.runs.get runId = some run → run.status = status → T w.trees

section

variable {T : (String → Tree) → Prop} {key : String} {fault : Fault} {call : ApplyCall}
  {before : Snapshot} {paths : List Path} {run : Run (RunData δ)} {status target : Status}
  {binding : Binding} {fields : Fields (RunData δ)}

lemma Recorded.of_never (h : Recorded status call.runId (fun _ => False) w) :
    Recorded status call.runId T w :=
  fun run hrun hstatus => (h run hrun hstatus).elim

lemma keeps_recorded_transition (htarget : target ≠ status) :
    Keeps (Recorded status call.runId T)
      (act fault fun w : World δ => callStore w call.runId fun run =>
      run.transition target binding fields) := by
  refine keeps_act fun w w' hw h => ?_
  obtain ⟨run, changed, hok, htouches⟩ := touches_of_callStore h fun run changed hok => by
    rw [(Run.transition_eq_ok hok).2.2, Run.moved]
  intro r hr hstatus
  cases htouches.after.symm.trans hr
  rw [(Run.transition_eq_ok hok).2.2] at hstatus
  exact absurd hstatus htarget

lemma recorded_of_update {w w' : World δ} (hw : Recorded status call.runId T w)
    (h : callStore w call.runId (fun run => run.update binding fields) = .ok w') :
    Recorded status call.runId T w' := by
  obtain ⟨run, changed, hok, htouches⟩ := touches_of_callStore h fun run changed hok => by
    rw [(Run.update_eq_ok hok).2, Run.updated_runId]
  intro r hr hstatus
  cases htouches.after.symm.trans hr
  rw [(Run.update_eq_ok hok).2, Run.updated_status] at hstatus
  rw [htouches.trees]
  exact hw run htouches.before hstatus

lemma keeps_recorded_update :
    Keeps (Recorded status call.runId T)
      (act fault fun w : World δ => callStore w call.runId fun run =>
      run.update binding fields) :=
  keeps_act fun _ _ hw h => recorded_of_update hw h

lemma keeps_recorded_discardSnapshot :
    Keeps (Recorded status call.runId T) (discardSnapshot fault key : Job δ Unit) := by
  refine keeps_act fun w w' hw h => ?_
  cases h
  exact hw

/-- A record that does not have the status stays so while the tree is rewritten. -/
lemma keeps_recorded_restoreTree {instanceId : String} {snapshot : Snapshot} :
    Keeps (Recorded status call.runId fun _ => False)
      (restoreTree fault instanceId snapshot : Job δ Unit) := by
  intro w hw
  cases fault with
  | before e => exact hw
  | none => exact hw
  | during residue e => exact hw
  | after e => exact hw

lemma keeps_recorded_closeRun : Keeps (Recorded status call.runId T) (closeRun d call run) :=
  keeps_closeRun call (fun _ _ hw h => recorded_of_update hw h) fun _ _ hw => hw

lemma keeps_recorded_cleanUp :
    Keeps (Recorded status call.runId T) (cleanUp call key : Job δ Unit) := by
  refine .bind (.attempt (.bind keeps_recorded_discardSnapshot fun _ => keeps_recorded_update))
    fun discarded => ?_
  cases discarded with
  | ok _ => exact .pure ()
  | error e => exact keeps_recorded_update

lemma keeps_recorded_persistSnapshot :
    Keeps (Recorded status call.runId T) (persistSnapshot d call before) := by
  refine .bind .state fun _ => .bind (.lift _) fun _ => .bind keeps_act_ok fun _ =>
    .bind (keeps_act fun w w' hw h => ?_) fun _ => keeps_act_ok
  cases h
  exact hw

lemma keeps_recorded_beginApply (hstatus : .applying ≠ status) (transaction : Transaction δ) :
    Keeps (Recorded status call.runId T) (beginApply call transaction) := by
  refine .bind (.attempt (keeps_recorded_transition hstatus)) fun entered => ?_
  cases entered with
  | ok _ => exact .pure ()
  | error e => exact .bind keeps_recorded_discardSnapshot fun _ => .raise e

variable [DecidableEq δ]

lemma keeps_recorded_checkFresh (hstatus : .failed ≠ status) :
    Keeps (Recorded status call.runId T) (checkFresh d call run before) := by
  unfold checkFresh refuseStale
  split_ifs
  · exact .bind (keeps_recorded_transition hstatus) fun _ => .raise _
  · exact .bind (keeps_recorded_transition hstatus) fun _ => .raise _
  · exact .pure ()

lemma keeps_rolledBack_runTransaction (transaction : Transaction δ) :
    Keeps (Recorded .applyFailed call.runId fun _ => False)
      (runTransaction d call run before paths transaction) :=
  .bind (.bind keeps_act_ok fun _ => .bind keeps_recorded_update fun _ =>
      .bind keeps_recorded_update fun _ => .bind keeps_recorded_update fun _ =>
      keeps_recorded_update) fun _ =>
    .bind .state fun _ => .bind (.lift _) fun _ => .bind keeps_recorded_update fun _ =>
    .bind keeps_act_ok fun _ => .bind keeps_recorded_restoreTree fun _ => .bind .state fun _ =>
    .bind (.lift _) fun _ => .bind keeps_recorded_update fun _ =>
    .bind (keeps_recorded_transition (by decide)) fun _ => .bind keeps_recorded_update fun _ =>
    .bind keeps_act_ok fun _ => .bind keeps_recorded_update fun _ =>
    .bind keeps_recorded_closeRun fun _ => keeps_recorded_cleanUp

/-- The trees after a rollback. -/
abbrev Restored (instanceId : String) (before : Snapshot) (trees : String → Tree) : Prop :=
  trees instanceId = restoredTree before

/-- **A run is recorded as rolled back only after its tree was restored.** -/
theorem triple_proveRollback :
    Triple (Recorded .applyFailed call.runId fun _ => False) (proveRollback d call run before)
      (fun _ => Recorded .applyFailed call.runId (Restored run.instanceId before))
      fun _ => Recorded .applyFailed call.runId (Restored run.instanceId before) := by
  have hrestore : Triple (Recorded .applyFailed call.runId fun _ => False)
      (restoreTree (call.script .rollbackRestore) run.instanceId before : Job δ Unit)
      (fun _ w => Restored run.instanceId before w.trees)
      fun _ => Recorded .applyFailed call.runId (Restored run.instanceId before) := by
    intro w hw
    cases call.script .rollbackRestore with
    | before e => exact hw.of_never
    | none => exact Function.update_self ..
    | during residue e | after e => exact fun r hr hstatus => (hw r hr hstatus).elim
  refine .bind hrestore fun _ => ?_
  -- Once the tree is restored it stays so, whatever becomes of the record.
  refine .mono_post (show Keeps (TreesAre (Restored run.instanceId before)) _ from
    .bind .state fun _ => .bind (.lift _) fun _ => .bind keeps_trees_callStore fun _ =>
      keeps_act_ok) (fun _ _ hw _ _ _ => hw) fun _ _ hw _ _ _ => hw

/-- What a rollback leaves, if its proof leaves it and the records that follow keep it. -/
lemma triple_rollbackApply_of {P R : World δ → Prop}
    (hprove : Triple P (proveRollback d call run before) (fun _ => R) fun _ => R)
    (hfailed : Keeps R (storeTransition (call.script .markFailed) call.runId .failed .any
      fun data =>
      { data with rollback := some .failed }))
    (hupdate : ∀ fault, Keeps R (storeUpdate fault call.runId id))
    (hdiscard : ∀ fault, Keeps R (discardSnapshot fault key)) :
    Triple P (rollbackApply d call run before key) (fun _ => R) fun _ => R := by
  refine .bind (Triple.attempt_of_always hprove) fun proven => ?_
  change Keeps R _
  cases proven with
  | error e => exact .bind hfailed fun _ => .raise _
  | ok _ =>
    refine .bind (.attempt (hupdate _)) fun _ => .bind (.attempt (hdiscard _)) fun discarded => ?_
    cases discarded with
    | ok _ => exact .pure ()
    | error e => exact hupdate _

lemma triple_rollbackApply :
    Triple (Recorded .applyFailed call.runId fun _ => False) (rollbackApply d call run before key)
      (fun _ => Recorded .applyFailed call.runId (Restored run.instanceId before))
      fun _ => Recorded .applyFailed call.runId (Restored run.instanceId before) :=
  triple_rollbackApply_of triple_proveRollback (keeps_recorded_transition (by decide))
    (fun _ => keeps_recorded_update) fun _ => keeps_recorded_discardSnapshot

lemma triple_transact :
    Triple (Recorded .applyFailed call.runId fun _ => False) (transact d call run before paths)
      (fun _ => Recorded .applyFailed call.runId (Restored run.instanceId before))
      fun _ => Recorded .applyFailed call.runId (Restored run.instanceId before) := by
  have hweaken {x : Job δ Unit} (h : Keeps (Recorded .applyFailed call.runId fun _ => False) x) :
      Triple (Recorded .applyFailed call.runId fun _ => False) x
        (fun _ => Recorded .applyFailed call.runId fun _ => False)
        fun _ => Recorded .applyFailed call.runId (Restored run.instanceId before) :=
    Triple.mono_error h fun _ _ hw => hw.of_never
  refine Triple.bind (hweaken keeps_recorded_persistSnapshot) fun _ =>
    Triple.bind (hweaken (keeps_recorded_beginApply (by decide) _)) fun _ =>
    Triple.bind (hweaken keeps_act_ok) fun _ =>
    Triple.bind (Triple.mono_error (Keeps.attempt (keeps_rolledBack_runTransaction _))
      fun _ _ hw => hw.of_never) fun finished => ?_
  cases finished with
  | ok _ => exact Triple.pure fun _ hw => hw.of_never
  | error e => exact Triple.bind triple_rollbackApply fun _ => Triple.raise fun _ hw => hw

end

/-! ### Exceptions after the record says `applied` -/

/-- The exception that a step raises. -/
def Fault.error? : Fault → Option Raised
  | .none => .none
  | .before e | .during _ e | .after e => some e

section

variable (call : ApplyCall)

/-- What the clean-up raises: only a `PortableExecutionError` is answered with another record. -/
def ApplyCall.cleanUpError : Option Raised :=
  match (call.script .discard).error?.or (call.script .recordDisposition).error? with
  | none => none
  | some e =>
    match e.portable with
    | none => some e
    | some _ => (call.script .recordRetained).error?

/-- What a call raises in the rest of the transaction once the record says `applied`. -/
def ApplyCall.lateError : Option Raised :=
  (call.script .markApplied).error?.or ((call.script .markValidated).error?.or
    ((call.script .writeBundle).error?.or ((call.script .recordBundle).error?.or
      ((call.script .closeRun).error?.or call.cleanUpError))))

/-- The tree after the handler has tried to restore the snapshot. -/
def ApplyCall.rolledTree (before : Snapshot) : Tree :=
  match call.script .rollbackRestore with
  | .before _ => restoredTree call.validated
  | .during residue _ => residue
  | .none | .after _ => restoredTree before

/-- The tree of a run that was applied. The handler is not entered if the process stops. -/
def ApplyCall.finalTree (before : Snapshot) : Tree :=
  match call.lateError.bind Raised.caught with
  | none => restoredTree call.validated
  | some _ => call.rolledTree before

end

section

variable {P Q R I : World δ → Prop} {x y : Job δ Unit} {a b : Option Raised} {fault : Fault}
  {change : World δ → Except Raised (World δ)}

/-- From `P` on, `x` raises exactly the given exception and leaves `I`, or returns and leaves `Q`.
-/
def Raises (P : World δ → Prop) (x : Job δ Unit) (a : Option Raised)
    (Q I : World δ → Prop) : Prop :=
  Triple P x (fun _ w => a = none ∧ Q w) fun e w => a = some e ∧ I w

lemma Raises.bind (hx : Raises P x a Q I) (hy : Raises Q y b R I) :
    Raises P (x >>= fun _ => y) (a.or b) R I := by
  refine Triple.bind (Triple.mono_error hx fun e w h => ⟨by rw [h.1, Option.some_or], h.2⟩)
    fun _ => Triple.of_and fun ha => ?_
  rw [ha, Option.none_or]
  exact hy

lemma raises_act (hchange : ∀ w, P w → ∃ w', change w = .ok w' ∧ Q w') (hP : ∀ w, P w → I w)
    (hQ : ∀ w, Q w → I w) : Raises P (act fault change) fault.error? Q I := by
  intro w hw
  obtain ⟨w', hok, hw'⟩ := hchange w hw
  cases fault with
  | before e | during residue e => exact ⟨rfl, hP w hw⟩
  | none =>
    rw [act, hok]
    exact ⟨rfl, hw'⟩
  | after e =>
    rw [act, hok]
    exact ⟨rfl, hQ w' hw'⟩

lemma raises_act_ok (hP : ∀ w, P w → I w) : Raises P (act fault .ok) fault.error? P I :=
  raises_act (fun w hw => ⟨w, rfl, hw⟩) hP hP

end

section

variable {T : (String → Tree) → Prop} {lifecycle : Lifecycle} {fault : Fault} {call : ApplyCall}
  {key : String} {run : Run (RunData δ)} {before : Snapshot} {paths : List Path}
  {fields : Fields (RunData δ)} {w : World δ}

/-- The record is in a lifecycle state, and the trees are as `T` says. -/
def IsIn (T : (String → Tree) → Prop) (lifecycle : Lifecycle) (runId : String) (w : World δ) :
    Prop :=
  T w.trees ∧ ∃ run, w.runs.get runId = some run ∧ run.lifecycle = lifecycle

lemma IsIn.update (h : IsIn T lifecycle call.runId w)
    (hallows : ∀ target, fields.lifecycle = some target → lifecycle.allows target) :
    ∃ w', callStore w call.runId (fun run => run.update .any fields) = .ok w' ∧
      IsIn T (fields.lifecycle.getD lifecycle) call.runId w' := by
  obtain ⟨htrees, run, hget, hlifecycle⟩ := h
  have hupdate : run.update .any fields = .ok (run.updated fields) := by
    have hallowed : fields.lifecycle.any (fun target => !run.lifecycle.allows target) = false := by
      cases hfields : fields.lifecycle with
      | none => rfl
      | some target => simpa [hlifecycle] using hallows target hfields
    simp only [Run.update, hallowed]
    rfl
  obtain ⟨w', hok⟩ : ∃ w', callStore w call.runId (fun run => run.update .any fields) = .ok w' :=
    callStore_of_get hget hupdate
  obtain ⟨_, changed, hchanged, htouches⟩ := touches_of_callStore hok fun run changed hok => by
    rw [(Run.update_eq_ok hok).2, Run.updated_runId]
  cases hget.symm.trans htouches.before
  cases hupdate.symm.trans hchanged
  refine ⟨w', hok, by rwa [htouches.trees], _, htouches.after, ?_⟩
  unfold Run.updated
  cases fields.lifecycle with
  | none => exact hlifecycle
  | some target =>
    dsimp only
    split_ifs with hsame
    · exact hsame
    · rfl

lemma raises_storeUpdate {data : RunData δ → RunData δ} :
    Raises (IsIn T lifecycle call.runId) (storeUpdate fault call.runId data) fault.error?
      (IsIn T lifecycle call.runId) fun w => T w.trees :=
  raises_act (fun _ hw => hw.update nofun) (fun _ hw => hw.1) fun _ hw => hw.1

lemma raises_markValidated :
    Raises (IsIn T .applied call.runId)
      (storeLifecycle fault call.runId .postValidated id : Job δ Unit) fault.error?
      (IsIn T .postValidated call.runId) fun w => T w.trees := by
  refine raises_act (fun w hw => ?_) (fun _ hw => hw.1) fun _ hw => hw.1
  have hallows : ∀ target, some Lifecycle.postValidated = some target →
      Lifecycle.applied.allows target := by
    rintro _ ⟨⟩
    rfl
  exact hw.update hallows

lemma raises_closeRun : Raises (IsIn T .postValidated call.runId) (closeRun d call run)
    (call.script .closeRun).error? (IsIn T .closed call.runId) fun w => T w.trees := by
  refine raises_act (fun w hw => ?_) (fun _ hw => hw.1) fun _ hw => hw.1
  obtain ⟨w', hok, hw'⟩ : ∃ w', callStore w call.runId (fun run => run.update .any
      ⟨some .closed, none, fun data => { data with closureReceipt := true }⟩) = .ok w' ∧
        IsIn T .closed call.runId w' := hw.update (by rintro _ ⟨⟩; rfl)
  refine ⟨{ w' with seals := w'.seals ++ [⟨run.instanceId, call.runId,
    d.snapshot call.validated⟩] }, ?_, hw'⟩
  rw [hok]
  rfl

lemma raises_cleanUp : Raises (IsIn T lifecycle call.runId) (cleanUp call key : Job δ Unit)
    call.cleanUpError (IsIn T lifecycle call.runId) fun w => T w.trees := by
  have hdiscard : Raises (IsIn T lifecycle call.runId)
      ((discardSnapshot (call.script .discard) key : Job δ Unit) >>= fun _ =>
        storeUpdate (call.script .recordDisposition) call.runId id)
      ((call.script .discard).error?.or (call.script .recordDisposition).error?)
      (IsIn T lifecycle call.runId) (IsIn T lifecycle call.runId) :=
    .bind (raises_act (fun w hw => ⟨_, rfl, hw⟩) (fun _ hw => hw) fun _ hw => hw)
      (raises_act (fun _ hw => hw.update nofun) (fun _ hw => hw) fun _ hw => hw)
  refine Triple.attempt_bind hdiscard (fun _ => .pure fun w hw => ?_) (fun e e' he => ?_) ?_
  · rw [ApplyCall.cleanUpError, hw.1]
    exact ⟨rfl, hw.2⟩
  · refine Triple.of_and fun hraised => ?_
    rw [ApplyCall.cleanUpError, hraised]
    simp only [he]
    exact raises_storeUpdate
  · intro e w he hw
    rw [ApplyCall.cleanUpError, hw.1]
    simp only [he]
    exact ⟨trivial, hw.2.1⟩

/-- **What follows the mark `applied`** raises what the script says, and nothing of its own. -/
theorem raises_finish : Raises (IsIn T .applied call.runId)
    (do storeLifecycle (call.script .markValidated) call.runId .postValidated id
        act (call.script .writeBundle) .ok
        storeUpdate (call.script .recordBundle) call.runId id
        closeRun d call run
        cleanUp call key)
    ((call.script .markValidated).error?.or ((call.script .writeBundle).error?.or
      ((call.script .recordBundle).error?.or ((call.script .closeRun).error?.or
        call.cleanUpError)))) (IsIn T .closed call.runId) fun w => T w.trees :=
  .bind raises_markValidated (.bind (raises_act_ok fun _ hw => hw.1) (.bind raises_storeUpdate
    (.bind raises_closeRun raises_cleanUp)))

end

/-! ### Applied runs -/

section

variable [DecidableEq δ] {T : (String → Tree) → Prop} {call : ApplyCall} {key : String}
  {run : Run (RunData δ)} {before : Snapshot} {paths : List Path}

variable (call) in
/-- The record does not say `applied`. -/
abbrev NotApplied : World δ → Prop := Recorded .applied call.runId fun _ => False

variable (d call run before paths) in
/-- The tree is the verified one, and exactly the given paths were staged. -/
abbrev Committed (trees : String → Tree) : Prop :=
  trees run.instanceId = restoredTree call.validated ∧ Staged d call before paths

omit [DecidableEq δ] in
/-- A record that becomes `applied` does so with the trees as they are. -/
lemma triple_markApplied {data : RunData δ → RunData δ} :
    Triple (fun w => NotApplied call w ∧ T w.trees)
      (storeTransition (call.script .markApplied) call.runId .applied .any data)
      (fun _ w => (call.script .markApplied).error? = none ∧ IsIn T .applied call.runId w)
      fun e w => NotApplied call w ∨ (call.script .markApplied).error? = some e ∧ T w.trees := by
  intro w hw
  have hafter (w' : World δ) (hok : callStore w call.runId (fun run =>
      run.transition .applied .any (Fields.of data)) = .ok w') : IsIn T .applied call.runId w' := by
    obtain ⟨run, changed, hchanged, htouches⟩ := touches_of_callStore hok fun run changed hok => by
      rw [(Run.transition_eq_ok hok).2.2, Run.moved]
    refine ⟨by rw [htouches.trees]; exact hw.2, _, htouches.after, ?_⟩
    rw [(Run.transition_eq_ok hchanged).2.2]
    rfl
  rcases act_cases (call.script .markApplied) (fun w : World δ => callStore w call.runId fun run =>
    run.transition .applied .any (Fields.of data)) w with
    ⟨e, hact, -⟩ | ⟨w', hok, ⟨hnone, hact⟩ | ⟨e, hlate, hact⟩⟩
  · rw [storeTransition, hact]
    exact .inl hw.1
  · rw [storeTransition, hact]
    exact ⟨by rw [hnone]; rfl, hafter w' hok⟩
  · rw [storeTransition, hact]
    exact .inr ⟨by rw [hlate]; rfl, (hafter w' hok).1⟩

/-- **What a transaction leaves:** a record that does not say `applied`, or the verified tree. -/
theorem triple_runTransaction (transaction : Transaction δ) :
    Triple (NotApplied call) (runTransaction d call run before paths transaction)
      (fun _ w => call.lateError = none ∧ Committed d call run before paths w.trees)
      fun e w => NotApplied call w ∨
        call.lateError = some e ∧ Committed d call run before paths w.trees := by
  have hearly {x : Job δ Unit} (h : Keeps (NotApplied call) x) :
      Triple (NotApplied call) x (fun _ => NotApplied call) fun e w => NotApplied call w ∨
        call.lateError = some e ∧ Committed d call run before paths w.trees :=
    .mono_error h fun _ _ hw => .inl hw
  refine .bind (hearly (.bind keeps_act_ok fun _ => .bind keeps_recorded_update fun _ =>
    .bind keeps_recorded_update fun _ => .bind keeps_recorded_update fun _ =>
    keeps_recorded_update)) fun _ => .bind_state fun w _ => ?_
  refine .bind (Q := fun _ w => Staged d call before paths ∧ NotApplied call w) (.lift
    (fun _ hw _ h => ⟨staged_of_checkStaged h, hw.2⟩) fun _ hw _ _ => .inl hw.2)
    fun _ => .of_and fun hstaged => .bind (hearly keeps_recorded_update) fun _ =>
    .bind (hearly keeps_act_ok) fun _ => ?_
  have hrestore : Triple (NotApplied call)
      (restoreTree (call.script .restore) run.instanceId call.validated : Job δ Unit)
      (fun _ w => NotApplied call w ∧ Committed d call run before paths w.trees)
      fun e w => NotApplied call w ∨
        call.lateError = some e ∧ Committed d call run before paths w.trees := by
    intro w hw
    cases call.script .restore with
    | before e => exact .inl hw
    | none => exact ⟨hw, Function.update_self .., hstaged⟩
    | during residue e => exact .inl hw
    | after e => exact .inl hw
  -- From here on the tree is the verified one.
  refine .bind hrestore fun _ => .bind_state fun w _ => .bind (Q := fun _ w => NotApplied call w ∧
    Committed d call run before paths w.trees) (.lift (fun _ hw _ _ => hw.2)
    fun _ hw _ _ => .inl hw.2.1) fun _ => ?_
  refine .bind (.mono_error (keeps_and keeps_recorded_update
    (keeps_trees_callStore (T := Committed d call run before paths))) fun _ _ hw => .inl hw.1)
    fun _ => .bind (.mono_error triple_markApplied fun e w hw => ?_)
    fun _ => .of_and fun hnone => ?_
  · refine hw.imp_right fun h => ⟨?_, h.2⟩
    rw [ApplyCall.lateError, h.1, Option.some_or]
  · rw [ApplyCall.lateError, hnone, Option.none_or]
    exact .mono_post raises_finish (fun _ _ hw => ⟨hw.1, hw.2.1⟩) fun _ _ hw => .inr hw

lemma keeps_notApplied_rollbackApply :
    Keeps (NotApplied call) (rollbackApply d call run before key) :=
  triple_rollbackApply_of (show Keeps (NotApplied call) _ from .bind keeps_recorded_restoreTree
      fun _ => .bind .state fun _ => .bind (.lift _) fun _ =>
      .bind (keeps_recorded_transition (by decide)) fun _ => keeps_act_ok)
    (keeps_recorded_transition (by decide)) (fun _ => keeps_recorded_update)
    fun _ => keeps_recorded_discardSnapshot

variable (call run before) in
/-- The tree is what the handler makes of the verified one. -/
abbrev Rolled (trees : String → Tree) : Prop := trees run.instanceId = call.rolledTree before

lemma triple_rolledTree :
    Triple (fun w => w.trees run.instanceId = restoredTree call.validated)
      (rollbackApply d call run before key) (fun _ => TreesAre (Rolled call run before))
      fun _ => TreesAre (Rolled call run before) := by
  have hrestore : Triple (fun w => w.trees run.instanceId = restoredTree call.validated)
      (restoreTree (call.script .rollbackRestore) run.instanceId before : Job δ Unit)
      (fun _ => TreesAre (Rolled call run before)) fun _ => TreesAre (Rolled call run before) := by
    intro w hw
    unfold Rolled ApplyCall.rolledTree
    cases call.script .rollbackRestore with
    | before e => exact hw
    | none | during residue e | after e => exact Function.update_self ..
  refine triple_rollbackApply_of (.bind hrestore fun _ => show Keeps (TreesAre (Rolled call run
      before)) _ from .bind .state fun _ => .bind (.lift _) fun _ => .bind keeps_trees_callStore
      fun _ => keeps_act_ok) keeps_trees_callStore (fun _ => keeps_trees_callStore)
    fun _ => keeps_trees_discardSnapshot

variable (d call run before paths) in
/-- A record that says `applied` has the tree that the script of the call leaves. -/
def EndsApplied (w : World δ) : Prop :=
  NotApplied call w ∨
    w.tree run.instanceId = call.finalTree before ∧ Staged d call before paths

/-- **The transaction and its handler.** -/
theorem triple_guardTransaction (transaction : Transaction δ) :
    Triple (NotApplied call) (guardTransaction d call run before paths transaction)
      (fun _ => EndsApplied d call run before paths)
      fun _ => EndsApplied d call run before paths := by
  refine Triple.attempt_bind (triple_runTransaction transaction) (fun _ => .pure ?_)
    (fun e e' he => .bind (fun w hw => ?_) fun _ => .raise fun _ hw => hw) ?_
  · rintro w ⟨hnone, htree, hstaged⟩
    refine .inr ⟨htree.trans ?_, hstaged⟩
    rw [ApplyCall.finalTree, hnone, Option.bind_none]
  · obtain hw | ⟨hlate, htree, hstaged⟩ := hw
    · exact Triple.mono_post keeps_notApplied_rollbackApply (fun _ _ h => .inl h)
        (fun _ _ h => .inl h) w hw
    · have hfinal : call.finalTree before = call.rolledTree before := by
        rw [ApplyCall.finalTree, hlate, Option.bind_some, he]
      exact Triple.mono_post triple_rolledTree (fun _ _ h => .inr ⟨h.trans hfinal.symm, hstaged⟩)
        (fun _ _ h => .inr ⟨h.trans hfinal.symm, hstaged⟩) w htree
  · rintro e w he (hw | ⟨hlate, htree, hstaged⟩)
    · exact .inl hw
    · refine .inr ⟨htree.trans ?_, hstaged⟩
      rw [ApplyCall.finalTree, hlate, Option.bind_some, he]

lemma triple_transact_applied :
    Triple (NotApplied call) (transact d call run before paths)
      (fun _ => EndsApplied d call run before paths)
      fun _ => EndsApplied d call run before paths := by
  have hearly {x : Job δ Unit} (h : Keeps (NotApplied call) x) :
      Triple (NotApplied call) x (fun _ => NotApplied call)
        fun _ => EndsApplied d call run before paths :=
    .mono_error h fun _ _ hw => .inl hw
  exact .bind (hearly keeps_recorded_persistSnapshot) fun _ =>
    .bind (hearly (keeps_recorded_beginApply (by decide) _)) fun _ =>
    .bind (hearly keeps_act_ok) fun _ => triple_guardTransaction _

end

/-! ### The call -/

section

variable [DecidableEq δ] {call : ApplyCall} {w : World δ} {run : Run (RunData δ)}

omit [DecidableEq δ] in
/-- The paths of a call are those of the approval. -/
lemma checkBindings_eq_ok (h : checkBindings w call run = .ok paths) :
    ∃ approval, run.data.proposalApproval = some approval ∧ approval.paths = paths := by
  simp only [checkBindings, portableIf, eq_ok_iff] at h
  obtain ⟨-, -, ⟨approval, proposal⟩, hcheck, -, rfl⟩ := h
  unfold checkApproval at hcheck
  split at hcheck
  · cases hcheck
  · cases hcheck
  · rename_i approval' proposal' happroval _
    simp only [validateProposalAuthority, portableIf, eq_ok_iff, Prod.mk.injEq, not_or,
      not_not] at hcheck
    obtain ⟨-, hpaths, -, -, rfl, rfl⟩ := hcheck
    exact ⟨approval', happroval, hpaths.2⟩

/-- **The tree of a run that was applied.** -/
theorem applyProposal_applied (hget : w.runs.get call.runId = some run)
    (hstatus : run.status = .stateChangeApproved) {r : Run (RunData δ)}
    (hr : (applyProposal d call w).2.runs.get call.runId = some r)
    (happlied : r.status = .applied) :
    ∃ approval, run.data.proposalApproval = some approval ∧
      (applyProposal d call w).2.tree run.instanceId =
        call.finalTree (snapshotFiles (w.tree run.instanceId)) ∧
      Staged d call (snapshotFiles (w.tree run.instanceId)) approval.paths := by
  have hstart : NotApplied call w := by
    intro r hr happlied
    cases hget.symm.trans hr
    cases hstatus.symm.trans happlied
  have hends : NotApplied call (applyProposal d call w).2 ∨ ∃ paths,
      checkBindings w call run = .ok paths ∧ EndsApplied d call run
        (snapshotFiles (w.tree run.instanceId)) paths (applyProposal d call w).2 := by
    unfold applyProposal
    rw [Effect.state_bind]
    cases happroved : checkApproved w call with
    | error e =>
      rw [Effect.bind_apply_error (Effect.lift_apply (s := w))]
      exact .inl hstart
    | ok found =>
      rw [Effect.lift_ok_bind]
      cases hget.symm.trans (checkApproved_eq_ok happroved).1
      cases hpaths : checkBindings w call run with
      | error e =>
        refine .inl (Triple.apply_always (.bind keeps_act_ok fun _ => ?_) hstart)
        exact .lift nofun fun _ hw _ _ => hw
      | ok paths =>
        refine .inr ⟨paths, rfl, Triple.apply_always (.bind (.mono_error keeps_act_ok
          fun _ _ hw => .inl hw) fun _ => ?_) hstart⟩
        rw [Effect.lift_ok_bind]
        exact .bind (.mono_error (keeps_recorded_checkFresh (by decide)) fun _ _ hw => .inl hw)
          fun _ => triple_transact_applied
  obtain hnever | ⟨paths, hpaths, hnever | ⟨htree, hstaged⟩⟩ := hends
  · exact (hnever r hr happlied).elim
  · exact (hnever r hr happlied).elim
  · obtain ⟨approval, happroval, rfl⟩ := checkBindings_eq_ok hpaths
    exact ⟨approval, happroval, htree, hstaged⟩

/-- **What a call that rolled the run back has done to the tree.** -/
theorem applyProposal_rolledBack (hget : w.runs.get call.runId = some run)
    (hstatus : run.status = .stateChangeApproved) :
    Recorded .applyFailed call.runId
      (Restored run.instanceId (snapshotFiles (w.tree run.instanceId)))
      (applyProposal d call w).2 := by
  have hstart : Recorded .applyFailed call.runId (fun _ => False) w := by
    intro r hr hfailed
    cases hget.symm.trans hr
    cases hstatus.symm.trans hfailed
  unfold applyProposal
  rw [Effect.state_bind]
  cases happroved : checkApproved w call with
  | error e =>
    rw [Effect.bind_apply_error (Effect.lift_apply (s := w))]
    exact hstart.of_never
  | ok found =>
    rw [Effect.lift_ok_bind]
    cases hget.symm.trans (checkApproved_eq_ok happroved).1
    have hweaken {α : Type} {x : Job δ α}
        (h : Keeps (Recorded .applyFailed call.runId fun _ => False) x) :
        Triple (Recorded .applyFailed call.runId fun _ => False) x
          (fun _ => Recorded .applyFailed call.runId fun _ => False)
          fun _ => Recorded .applyFailed call.runId
            (Restored run.instanceId (snapshotFiles (w.tree run.instanceId))) :=
      .mono_error h fun _ _ hw => hw.of_never
    refine Triple.apply_always (.bind (hweaken keeps_act_ok) fun _ => ?_) hstart
    exact .bind (hweaken (.lift _)) fun paths => .bind
      (hweaken (keeps_recorded_checkFresh (by decide))) fun _ => triple_transact

/-- What has to be so for a run that was applied to have changed the given paths and nothing else.
The handler writes the snapshot back if something is raised after the record says `applied`. -/
def ApplyCall.LeavesRest (call : ApplyCall) (tree : Tree) (paths : List Path) : Prop :=
  match call.lateError.bind Raised.caught with
  | none => NoExecutableOutside tree paths
  | some _ =>
    match call.script .rollbackRestore with
    | .before _ => NoExecutableOutside tree paths
    | .during residue _ => KeepsRest tree residue paths
    | .none | .after _ => paths = [] ∧ NoExecutableOutside tree []

omit [DecidableEq δ] in
lemma keepsRest_finalTree_iff {tree : Tree} {paths : List Path}
    (hstaged : Staged d call (snapshotFiles tree) paths) :
    KeepsRest tree (call.finalTree (snapshotFiles tree)) paths ↔ call.LeavesRest tree paths := by
  have hcommitted : KeepsRest tree (restoredTree call.validated) paths ↔
      NoExecutableOutside tree paths :=
    keepsRest_restored_iff hstaged.1 (d.at?_eq_of_snapshot_eq hstaged.2)
  unfold ApplyCall.finalTree ApplyCall.rolledTree ApplyCall.LeavesRest
  cases call.lateError.bind Raised.caught with
  | none => exact hcommitted
  | some e =>
    cases call.script .rollbackRestore with
    | before _ => exact hcommitted
    | during residue _ => exact Iff.rfl
    | none | after _ => exact keepsRest_rolledBack_iff

/-- **What an apply and a rollback keep of the instance.** If the record of an approved run says
`applied` after the call, exactly the approved paths have changed, and the rest keeps its kind, its
bytes and its executable bit, exactly if nothing outside the approved paths was executable and
nothing is raised that undoes the commit. If the call rolled the run back, the instance is what it
was exactly if nothing in it was executable. -/
theorem applyProposal_keepsRest_iff (hget : w.runs.get call.runId = some run)
    (hstatus : run.status = .stateChangeApproved) {r : Run (RunData δ)}
    (hr : (applyProposal d call w).2.runs.get call.runId = some r) :
    (r.status = .applied → ∃ approval, run.data.proposalApproval = some approval ∧
        (KeepsRest (w.tree run.instanceId)
            ((applyProposal d call w).2.tree run.instanceId) approval.paths ↔
          call.LeavesRest (w.tree run.instanceId) approval.paths)) ∧
      (r.status = .applyFailed →
          ((∀ path, ((applyProposal d call w).2.tree run.instanceId).at? path =
              (w.tree run.instanceId).at? path) ↔
            NoExecutableOutside (w.tree run.instanceId) [])) := by
  constructor
  · intro happlied
    obtain ⟨approval, happroval, htree, hstaged⟩ := applyProposal_applied hget hstatus hr happlied
    refine ⟨approval, happroval, ?_⟩
    rw [htree]
    exact keepsRest_finalTree_iff hstaged
  · intro hfailed
    have htree : (applyProposal d call w).2.tree run.instanceId =
        restoredTree (snapshotFiles (w.tree run.instanceId)) :=
      applyProposal_rolledBack hget hstatus r hr hfailed
    rw [htree]
    exact restored_eq_iff _

end

/-! ### An instance with a script -/

section

/-- An instance with a script beside its state. -/
def scriptTree : Tree := ⟨[("run.sh", .file [0] true), ("state", .file [0] false)], by decide⟩

def scriptAfter : Snapshot := ⟨[("run.sh", .file [0]), ("state", .file [1])], by decide⟩

/-- The world in which the change of `state` is approved. -/
def scriptWorld : World (List (Path × Node)) :=
  (approvedProposal.foldl (perform Digests.plain) (initial fun _ => scriptTree)).world

/-- An apply that changes `state` takes the executable bit from `run.sh`, and so does a rollback. -/
theorem apply_clears_executable_bit :
    (applyProposal Digests.plain (applyTo scriptAfter fun _ => .none) scriptWorld).1 = .ok () ∧
      (scriptWorld.tree "instance").at? "run.sh" = some (.file [0] true) ∧
      ((applyProposal Digests.plain (applyTo scriptAfter fun _ => .none) scriptWorld).2.tree
        "instance").at? "run.sh" = some (.file [0] false) ∧
      (((applyProposal Digests.plain (applyTo scriptAfter fun step => if step = .stage then
        .before .other else .none) scriptWorld).2.runs.get "run").map Run.status) =
          some .applyFailed ∧
      ((applyProposal Digests.plain (applyTo scriptAfter fun step => if step = .stage then
        .before .other else .none) scriptWorld).2.tree "instance").at? "run.sh" =
          some (.file [0] false) := by
  decide +kernel

/-- The same instance, with a script that is not executable. -/
def plainTree : Tree := ⟨[("run.sh", .file [0] false), ("state", .file [0] false)], by decide⟩

def plainWorld : World (List (Path × Node)) :=
  (approvedProposal.foldl (perform Digests.plain) (initial fun _ => plainTree)).world

def plainRun : Run (RunData (List (Path × Node))) :=
  (plainWorld.runs.get "run").get (by decide +kernel)

/-- The durable snapshot is not discarded, and the record says so. -/
def retainingApply : ApplyCall := applyTo scriptAfter fun step =>
  if step = .discard then .before (.portableExecutionError "apply snapshot") else .none

/-- An instance without executable files is kept. -/
theorem apply_keeps_plain_instance :
    ∃ r approval, (applyProposal Digests.plain retainingApply plainWorld).2.runs.get
        retainingApply.runId = some r ∧ r.status = .applied ∧
      plainRun.data.proposalApproval = some approval ∧
      KeepsRest (plainWorld.tree plainRun.instanceId)
        ((applyProposal Digests.plain retainingApply plainWorld).2.tree plainRun.instanceId)
        approval.paths := by
  have hget : plainWorld.runs.get retainingApply.runId = some plainRun := (Option.some_get _).symm
  have happroved : plainRun.status = .stateChangeApproved := by decide +kernel
  have happlied : ((applyProposal Digests.plain retainingApply plainWorld).2.runs.get
      retainingApply.runId).map Run.status = some .applied := by decide +kernel
  obtain ⟨r, hr, hstatus⟩ := Option.map_eq_some_iff.mp happlied
  obtain ⟨approval, happroval, hiff⟩ :=
    (applyProposal_keepsRest_iff hget happroved hr).1 hstatus
  refine ⟨r, approval, hr, hstatus, happroval, hiff.mpr ?_⟩
  have hlate : retainingApply.lateError = none := by decide +kernel
  rw [ApplyCall.LeavesRest, hlate]
  exact noExecutableOutside_of_rows (by decide +kernel)

end

end StatePort.PortableExecution
