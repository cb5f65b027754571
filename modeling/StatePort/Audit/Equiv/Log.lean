import StatePort.Algorithm.Chain
import StatePort.Algorithm.Run
import StatePort.Audit.Log
import StatePort.Document.Equiv.Dumps
import StatePort.Document.Equiv.Json

/-!
# The audit chain

* A verified list of events is a chain of digests (`verifyFrom_iff`); where the digest is injective,
  the number of events and the last hash determine the list (`eq_of_lastHash_eq`).
* A line that is appended to a file that loads is loaded as one more event exactly if the data of
  the event is what is read back from its text (`load_append_iff`). Data whose keys are strings is
  (`stable_of_isStrKeyed`); numbers as keys are written in the order of numbers and read back as
  strings, whose order is another one.
-/

namespace StatePort.Audit

open List Json AuditEvent Function

/-! ### Events as lines -/

namespace AuditEvent

/-- The event that is read from the line of an event. -/
def reloaded (event : AuditEvent) : AuditEvent :=
  ⟨event.sequence.loads, event.eventType.loads, event.actor.loads, event.subject.loads,
    event.timestamp.loads, event.data.loads, event.previousHash.loads, event.hash.loads⟩

lemma decode_toDict (event : AuditEvent) : decode event.toDict = some event := by
  simp [decode, toDict, get?, fields, List.lookup]

lemma loads_toDict (event : AuditEvent) : event.toDict.loads = event.reloaded.toDict := by
  unfold toDict reloaded
  rw [loads, lastWins_eq]
  · refine congrArg dict (List.Pairwise.insertionSort_eq ?_)
    simp +decide [loadsFields, fieldLE]
  · simp [loadsFields]

/-- The text of its payload and its hash determine an event. -/
lemma eq_of_payload_eq {e f : AuditEvent} (hpayload : e.payload = f.payload)
    (hhash : e.hash = f.hash) : e = f := by
  cases e
  cases f
  simp_all [payload]

end AuditEvent

variable {env : Env} {file : List Json} {events : List AuditEvent}

/-! ### Binding -/

def digest (env : Env) (event : AuditEvent) : Json := .str (expectedHash env event)

lemma payload_eq_of_digest_eq (hsha : Injective env.sha256) {e f : AuditEvent}
    (h : digest env e = digest env f) : e.payload = f.payload := by
  have hhash : expectedHash env e = expectedHash env f := str.inj h
  have htoList := congrArg String.toList hhash
  simp only [expectedHash, String.toList_append] at htoList
  have hsha' := hsha (String.toList_injective (append_cancel_left htoList))
  exact text_injective .ascii hsha'

variable {previous : String} {index : ℕ}

/-- Verified events are a chain, each one with its own digest and its place. -/
lemma verifyFrom_iff :
    verifyFrom env previous index events ↔
      Linked (digest env) previousHash (.str previous) events ∧
        ∀ x ∈ events.zipIdx index, sameNumber env.valueOf x.1.sequence (.int x.2) ∧
          x.1.hash = digest env x.1 := by
  induction events generalizing previous index with
  | nil => simp [verifyFrom, Linked]
  | cons event events ih =>
    simp only [verifyFrom, Bool.and_eq_true, decide_eq_true_eq, ih, Linked, zipIdx_cons,
      forall_mem_cons, digest]
    tauto

lemma hash_eq_digest
    (h : verifyFrom env previous index events) : ∀ e ∈ events, e.hash = digest env e := by
  intro e he
  have hmap : e ∈ (events.zipIdx index).map Prod.fst := by simpa using he
  obtain ⟨x, hx, rfl⟩ := mem_map.mp hmap
  exact ((verifyFrom_iff.mp h).2 x hx).2

/-- The last hash of verified events is the digest at the end of their chain. -/
lemma lastHash_eq_tip (h : verify env events) :
    lastHash events = tip (digest env) (.str "genesis") events := by
  obtain rfl | ⟨es, e, rfl⟩ := eq_nil_or_concat' events
  · rfl
  · rw [tip_append_singleton, ← hash_eq_digest h e (by simp)]
    simp [lastHash]

/-- **Binding.** The number of events and the last hash determine a verified list. -/
theorem eq_of_lastHash_eq (hsha : Injective env.sha256) {es fs : List AuditEvent}
    (hes : verify env es) (hfs : verify env fs) (hlength : es.length = fs.length)
    (hlast : lastHash es = lastHash fs) : es = fs := by
  have htip : tip (digest env) (.str "genesis") es = tip (digest env) (.str "genesis") fs := by
    rw [← lastHash_eq_tip hes, ← lastHash_eq_tip hfs, hlast]
  refine (Linked.eq_of_tip_eq (verifyFrom_iff.mp hes).1 (verifyFrom_iff.mp hfs).1
    (fun e he f hf hdigest => ?_) hlength htip).1
  refine eq_of_payload_eq (payload_eq_of_digest_eq hsha hdigest) ?_
  rw [hash_eq_digest hes e he, hash_eq_digest hfs f hf, hdigest]

/-! ### One more line -/

lemma load_eq_ok : load env file = .ok events ↔
    file.mapM decode = some events ∧ verify env events := by
  unfold load
  cases hdecode : file.mapM decode with
  | none => simp
  | some es =>
    simp only [eq_ok_iff, Bool.not_eq_false, Option.some.injEq]
    constructor
    · rintro ⟨hverify, rfl⟩
      exact ⟨rfl, hverify⟩
    · rintro ⟨rfl, hverify⟩
      exact ⟨hverify, rfl⟩

/-- One more event is verified if its number, its predecessor and its digest are right. -/
lemma verify_append_singleton (h : verify env events) {event : AuditEvent} :
    verify env (events ++ [event]) ↔
      event.previousHash = lastHash events ∧
        sameNumber env.valueOf event.sequence (.int (events.length + 1)) ∧
          event.hash = digest env event := by
  have hevents := verifyFrom_iff.mp h
  rw [lastHash_eq_tip h]
  unfold verify
  rw [verifyFrom_iff, linked_append_singleton, zipIdx_append, forall_mem_append]
  simp only [hevents.1, true_and, zipIdx_cons, zipIdx_nil, forall_mem_cons]
  have hindex : ((1 + events.length : ℕ) : ℤ) = events.length + 1 := by omega
  rw [hindex]
  constructor
  · rintro ⟨hprevious, -, hevent, -⟩
    exact ⟨hprevious, hevent⟩
  · rintro ⟨hprevious, hevent⟩
    exact ⟨hprevious, hevents.2, hevent, by simp⟩

lemma load_append (h : load env file = .ok events) {event : AuditEvent}
    {events' : List AuditEvent} :
    load env (file ++ [event.toDict]) = .ok events' ↔
      events' = events ++ [event] ∧ verify env (events ++ [event]) := by
  rw [load_eq_ok, mapM_append, (load_eq_ok.mp h).1]
  simp only [mapM_cons, mapM_nil, decode_toDict, Option.pure_def,
    Option.bind_eq_bind, Option.bind_some, Option.some.injEq]
  constructor
  · rintro ⟨rfl, hverify⟩
    exact ⟨rfl, hverify⟩
  · rintro ⟨rfl, hverify⟩
    exact ⟨rfl, hverify⟩

lemma exists_lastHash (events : List AuditEvent) (h : verify env events) :
    ∃ s, lastHash events = .str s := by
  obtain rfl | ⟨es, e, rfl⟩ := eq_nil_or_concat' events
  · exact ⟨_, rfl⟩
  · exact ⟨expectedHash env e, by rw [lastHash_eq_tip h, tip_append_singleton]; rfl⟩

/-- The new event differs in its data from what is read back, and in nothing else. -/
lemma reloaded_newEvent (h : verify env events) (entry : Entry) (data : Json) :
    (newEvent env events entry data).reloaded =
      { newEvent env events entry data with data := data.loads } := by
  obtain ⟨s, hs⟩ := exists_lastHash events h
  simp only [reloaded, newEvent, hs, loads]

lemma digest_newEvent (entry : Entry) (data : Json) :
    (newEvent env events entry data).hash = digest env (newEvent env events entry data) := rfl

lemma sameNumber_int (valueOf : FloatText → Number) (n : ℤ) :
    sameNumber valueOf (.int n) (.int n) := by
  simp [sameNumber, number?]

/-- **One more event.** The line of a new event is loaded exactly if its data is read back. -/
theorem load_append_iff (hsha : Injective env.sha256) (h : load env file = .ok events)
    (entry : Entry) (data : Json) :
    (∃ events', load env (file ++ [(newEvent env events entry data).toDict.loads]) = .ok events' ∧
      events <+: events') ↔ data.loads = data := by
  have hverify := (load_eq_ok.mp h).2
  simp only [loads_toDict, load_append h, verify_append_singleton hverify,
    reloaded_newEvent hverify]
  constructor
  · rintro ⟨events', ⟨-, -, -, hdigest⟩, -⟩
    have hpayload := payload_eq_of_digest_eq hsha ((digest_newEvent entry data).symm.trans hdigest)
    simp only [payload, newEvent, dict.injEq, List.cons.injEq, Prod.mk.injEq,
      true_and, and_true] at hpayload
    exact hpayload.symm
  · intro hdata
    rw [hdata]
    exact ⟨_, ⟨rfl, rfl, sameNumber_int _ _, rfl⟩, prefix_append _ _⟩

/-! ### Calls -/

/-- The event that a call writes, if it writes one. -/
def written (env : Env) (file : List Json) : Call → Option AuditEvent
  | .append entry data =>
    match append env file entry data with
    | .ok (event, _) => some event
    | .error _ => none
  | .appendOnce entry data correlationKeys =>
    match appendOnce env file entry data correlationKeys with
    | .ok ((event, false), _) => some event
    | _ => none

/-- What is read back for the data of the event that a call writes is that data. -/
def Stable (env : Env) (file : List Json) (call : Call) : Prop :=
  ∀ event ∈ written env file call, event.data.loads = event.data

/-- Both files load, and the second one has the events of the first one and perhaps more. -/
def Extends (env : Env) (file file' : List Json) : Prop :=
  ∃ events events', load env file = .ok events ∧ load env file' = .ok events' ∧ events <+: events'

/-- While the calls are made, the file always loads, and its earlier events stay first. -/
def OnlyGrows (env : Env) (file : List Json) (calls : List Call) : Prop :=
  ∀ earlier later, earlier <+: later → later <+: calls →
    Extends env (earlier.foldl (nextFile env) file) (later.foldl (nextFile env) file)

lemma extends_refl (h : load env file = .ok events) : Extends env file file :=
  ⟨events, events, h, h, prefix_rfl⟩

lemma Extends.right {file' : List Json} (h : Extends env file file') : Extends env file' file' := by
  obtain ⟨_, _, _, hload, _⟩ := h
  exact extends_refl hload

lemma Extends.trans {file' file'' : List Json} (h : Extends env file file')
    (h' : Extends env file' file'') : Extends env file file'' := by
  obtain ⟨events, events', hload, hload', hprefix⟩ := h
  obtain ⟨fs, events'', hfs, hload'', hprefix'⟩ := h'
  cases hload'.symm.trans hfs
  exact ⟨events, events'', hload, hload'', hprefix.trans hprefix'⟩

lemma appendCurrent_eq_ok {entry : Entry} {data : List (PyKey × PyData)}
    {r : AuditEvent × List Json} (h : appendCurrent env file events entry data = .ok r) :
    ∃ doc, (PyData.dict data).dumps env.valueOf = some doc ∧
      r = (newEvent env events entry doc,
        file ++ [(newEvent env events entry doc).toDict.loads]) := by
  unfold appendCurrent at h
  cases hdumps : (PyData.dict data).dumps env.valueOf with
  | none =>
    rw [hdumps] at h
    cases h
  | some doc =>
    rw [hdumps] at h
    exact ⟨doc, rfl, (Except.ok.inj h).symm⟩

def Call.data : Call → PyData
  | .append _ data => .dict (data.getD [])
  | .appendOnce _ data _ => .dict data

/-- What a call does to a file: nothing, or it writes the line of a new event. -/
lemma call_cases (env : Env) (file : List Json) (call : Call) :
    (written env file call = none ∧ nextFile env file call = file) ∨
      ∃ events entry doc, load env file = .ok events ∧ call.data.dumps env.valueOf = some doc ∧
        written env file call = some (newEvent env events entry doc) ∧
        nextFile env file call = file ++ [(newEvent env events entry doc).toDict.loads] := by
  cases call with
  | append entry data =>
    simp only [written, nextFile]
    cases happend : append env file entry data with
    | error e => exact .inl ⟨rfl, rfl⟩
    | ok r =>
      simp only [append, eq_ok_iff] at happend
      obtain ⟨-, events, hload, hcurrent⟩ := happend
      obtain ⟨doc, hdoc, rfl⟩ := appendCurrent_eq_ok hcurrent
      exact .inr ⟨events, entry, doc, hload, hdoc, rfl, rfl⟩
  | appendOnce entry data correlationKeys =>
    simp only [written, nextFile]
    cases happend : appendOnce env file entry data correlationKeys with
    | error e => exact .inl ⟨rfl, rfl⟩
    | ok r =>
      simp only [appendOnce, eq_ok_iff] at happend
      obtain ⟨-, -, events, hload, found, -, hfound⟩ := happend
      cases found with
      | some event =>
        cases hfound
        exact .inl ⟨rfl, rfl⟩
      | none =>
        simp only [eq_ok_iff] at hfound
        obtain ⟨r', hcurrent, rfl⟩ := hfound
        obtain ⟨doc, hdoc, rfl⟩ := appendCurrent_eq_ok hcurrent
        exact .inr ⟨events, entry, doc, hload, hdoc, rfl, rfl⟩

/-- Data whose keys are strings is read back. -/
lemma stable_of_isStrKeyed {call : Call} (h : call.data.isStrKeyed) :
    Stable env file call := by
  obtain ⟨hwritten, -⟩ | ⟨events, entry, doc, -, hdoc, hwritten, -⟩ := call_cases env file call
  · simp [Stable, hwritten]
  · intro event hevent
    cases hwritten.symm.trans hevent
    exact PyData.loads_dumps _ h doc hdoc

/-- **Step.** A call keeps a file that loads exactly if it is stable. -/
theorem extends_nextFile_iff (hsha : Injective env.sha256) (h : Extends env file file)
    (call : Call) : Extends env file (nextFile env file call) ↔ Stable env file call := by
  obtain ⟨hwritten, hnext⟩ | ⟨events, entry, doc, hload, -, hwritten, hnext⟩ :=
    call_cases env file call
  · simp [Stable, hwritten, hnext, h]
  · have hdoc := load_append_iff hsha hload entry doc
    unfold Stable
    rw [hwritten, hnext]
    constructor
    · rintro ⟨es, es', hes, hes', hprefix⟩ event hevent
      cases hload.symm.trans hes
      cases hevent
      exact hdoc.mp ⟨es', hes', hprefix⟩
    · intro hstable
      obtain ⟨events', hload', hprefix⟩ := hdoc.mpr (hstable _ rfl)
      exact ⟨events, events', hload, hload', hprefix⟩

/-- **Runs.** A file that loads only grows exactly as long as the calls are stable. -/
theorem onlyGrows_iff (hsha : Injective env.sha256) (h : load env file = .ok events)
    (calls : List Call) :
    OnlyGrows env file calls ↔ Run.Along (nextFile env) (Stable env) file calls := by
  have hsteps : Run.Along (nextFile env)
    (fun file call => Extends env file (nextFile env file call))
      file calls ↔ OnlyGrows env file calls :=
    Run.along_iff_prefixes (R := Extends env) (fun _ _ => Extends.right)
      (fun _ _ _ => Extends.trans) (extends_refl h) calls
  refine hsteps.symm.trans ?_
  exact Run.along_congr_of_invariant (I := fun file => Extends env file file)
    (fun file call hfile => extends_nextFile_iff hsha hfile call)
    (fun _ _ _ hnext => hnext.right) (extends_refl h) calls

/-- **The audit chain.** Where SHA-256 is injective, the number of events and the last hash
determine a verified list; and a file that loads only grows under any calls exactly if what is
read back for the data they write is that data, as it is for data whose keys are strings. -/
theorem audit_chain (env : Env) (hsha : Function.Injective env.sha256) :
    (∀ es fs : List AuditEvent, verify env es → verify env fs →
      es.length = fs.length → lastHash es = lastHash fs → es = fs) ∧
    (∀ file events, load env file = .ok events → ∀ calls : List Call,
      (OnlyGrows env file calls ↔ Run.Along (nextFile env) (Stable env) file calls)) ∧
    ∀ file (call : Call), call.data.isStrKeyed → Stable env file call :=
  ⟨fun _ _ => eq_of_lastHash_eq hsha, fun _ _ => onlyGrows_iff hsha,
    fun _ _ => stable_of_isStrKeyed⟩

/-! ### A file that does not load any more -/

/-- A digest for samples, which is injective. -/
def sampleEnv : Env where
  sha256 := String.ofList
  valueOf _ := .nan
  pyEq _ _ := false

lemma sampleEnv_injective : Injective sampleEnv.sha256 :=
  fun _ _ => String.ofList_injective

def sampleEntry : Entry := ⟨"upgrade.applied", "operator", "instance", "2026-01-01T00:00:00Z"⟩

/-- Retry counts by attempt. -/
def sampleData : List (PyKey × PyData) :=
  [(.str "retries", .dict [(.int 9, .int 1), (.int 10, .int 2)])]

def sampleDoc : Json := .dict [("retries", .dict [("9", .int 1), ("10", .int 2)])]

theorem audit_chain_sampleEntry :
    (∀ es fs : List AuditEvent, verify sampleEnv es → verify sampleEnv fs →
      es.length = fs.length → lastHash es = lastHash fs → es = fs) ∧
    OnlyGrows sampleEnv [] [.append sampleEntry none, .append sampleEntry none] :=
  have hchain := audit_chain sampleEnv sampleEnv_injective
  ⟨hchain.1, (hchain.2.1 [] [] rfl _).mpr ⟨hchain.2.2 _ _ rfl, hchain.2.2 _ _ rfl, trivial⟩⟩

lemma append_sampleData : append sampleEnv [] sampleEntry (some sampleData) =
    appendCurrent sampleEnv [] [] sampleEntry sampleData := by
  have hgiven : sampleEntry.given := by decide
  have hload : load sampleEnv [] = .ok [] := rfl
  simp [append, hgiven, raiseIf, hload]

lemma written_sampleData : written sampleEnv [] (.append sampleEntry (some sampleData)) =
    some (newEvent sampleEnv [] sampleEntry sampleDoc) := by
  have hdumps : (PyData.dict sampleData).dumps sampleEnv.valueOf = some sampleDoc := by decide
  simp only [written, append_sampleData, appendCurrent, hdumps]

/-- An append with the attempts `9` and `10` as keys writes an event, and leaves a file that does
not load. -/
theorem numeric_keys_break_chain :
    written sampleEnv [] (.append sampleEntry (some sampleData)) =
        some (newEvent sampleEnv [] sampleEntry sampleDoc) ∧
      ¬ OnlyGrows sampleEnv [] [.append sampleEntry (some sampleData)] := by
  refine ⟨written_sampleData, fun hgrows => ?_⟩
  have hstable := ((onlyGrows_iff sampleEnv_injective rfl _).mp hgrows).1 _ written_sampleData
  -- the keys are read back in the order of their texts
  have hloads : sampleDoc.loads ≠ sampleDoc := by decide
  exact hloads hstable

/-! ### Correlation

`correlated` looks a key up with `get`, for which a missing field is a field with the value `None`.
-/

section

variable {entry : Entry} {data : List (PyKey × PyData)} {keys : List String} {event : AuditEvent}

/-- The event has every key, with a value that equals the given one. -/
def carries (env : Env) (data : List (PyKey × PyData)) (keys : List String)
    (event : AuditEvent) : Bool :=
  keys.all fun key => (data.lookup (.str key)).any fun value =>
    (event.data.get? key).any (env.pyEq · value)

/-- An event that is taken for one that carries the values: it lacks a key, it has the given values
under the keys that it has, and the values given for the others equal `None`. -/
structure Mistakable (env : Env) (data : List (PyKey × PyData)) (keys : List String)
    (event : AuditEvent) : Prop where
  lacks : ∃ key ∈ keys, event.data.get? key = none
  equal : ∀ key ∈ keys, ∀ value ∈ data.lookup (.str key), ∀ stored ∈ event.data.get? key,
    env.pyEq stored value
  null : ∀ key ∈ keys, ∀ value ∈ data.lookup (.str key), event.data.get? key = none →
    env.pyEq .null value

/-- What the log and the data are for a correlation to be unmistakable. -/
structure Unmistakable (env : Env) (entry : Entry) (data : List (PyKey × PyData))
    (keys : List String) (events : List AuditEvent) : Prop where
  preceded : ∀ before event after, events = before ++ event :: after →
    event.eventType = .str entry.eventType → Mistakable env data keys event →
      ∃ e ∈ before, e.eventType = .str entry.eventType ∧ carries env data keys e
  readBack : (∃ e ∈ events, e.eventType = .str entry.eventType ∧ carries env data keys e) ∨
    ∀ key ∈ keys, ∀ value ∈ data.lookup (.str key), ∀ doc ∈ value.dumps env.valueOf,
      env.pyEq doc.loads value

/-- The test of `correlated`. -/
def agrees (env : Env) (data : List (PyKey × PyData)) (keys : List String)
    (event : AuditEvent) : Bool :=
  keys.all fun key => (data.lookup (.str key)).any (env.pyEq (event.data.get key))

lemma agrees_of_carries (h : carries env data keys event) : agrees env data keys event := by
  refine all_eq_true.mpr fun key hkey => ?_
  obtain ⟨value, hvalue, hcarries⟩ := (Option.any_eq_true _ _).mp (all_eq_true.mp h key hkey)
  obtain ⟨stored, hstored, hequal⟩ := (Option.any_eq_true _ _).mp hcarries
  exact (Option.any_eq_true _ _).mpr ⟨value, hvalue, by rwa [Json.get, hstored]⟩

/-- An event that agrees carries the values, or it is taken for one that does. -/
lemma mistakable_iff (hkeys : ∀ key ∈ keys, ∃ value, data.lookup (.str key) = some value) :
    Mistakable env data keys event ↔ agrees env data keys event ∧
      ¬ carries env data keys event := by
  simp only [agrees, carries, all_eq_true, Option.any_eq_true]
  constructor
  · rintro ⟨⟨key, hkey, hlacks⟩, hequal, hnull⟩
    refine ⟨fun key hkey => ?_, fun hcarries => ?_⟩
    · obtain ⟨value, hvalue⟩ := hkeys key hkey
      refine ⟨value, hvalue, ?_⟩
      cases hstored : event.data.get? key with
      | none => simpa [Json.get, hstored] using hnull key hkey value hvalue hstored
      | some stored => simpa [Json.get, hstored] using hequal key hkey value hvalue stored hstored
    · obtain ⟨_, -, stored, hstored, -⟩ := hcarries key hkey
      cases hlacks.symm.trans hstored
  · rintro ⟨hagrees, hcarries⟩
    have hvalue {key : String} (hkey : key ∈ keys) {value : PyData}
        (hlookup : data.lookup (.str key) = some value) : env.pyEq (event.data.get key) value := by
      obtain ⟨_, hlookup', hequal⟩ := hagrees key hkey
      cases hlookup.symm.trans hlookup'
      exact hequal
    refine ⟨?_, fun key hkey value hlookup stored hstored => ?_, fun key hkey value hlookup hnone =>
      ?_⟩
    · by_contra! hall
      refine hcarries fun key hkey => ?_
      obtain ⟨value, hlookup⟩ := hkeys key hkey
      obtain ⟨stored, hstored⟩ := Option.ne_none_iff_exists'.mp (hall key hkey)
      exact ⟨value, hlookup, stored, hstored, by
        simpa [Json.get, hstored] using hvalue hkey hlookup⟩
    · simpa [Json.get, show event.data.get? key = some stored from hstored] using
        hvalue hkey hlookup
    · simpa [Json.get, hnone] using hvalue hkey hlookup

/-- What `correlated` returns is the first event of the type that agrees. -/
lemma correlated_eq_ok {found : Option AuditEvent}
    (h : correlated env entry.eventType data keys events = .ok found) :
    ∃ before after, events = before ++ found.toList ++ after ∧
      (∀ e ∈ before, e.eventType = .str entry.eventType → ¬ agrees env data keys e) ∧
      (∀ e ∈ found, e.eventType = .str entry.eventType ∧ agrees env data keys e) ∧
      (found = none → after = []) := by
  induction events with
  | nil =>
    cases h
    exact ⟨[], [], rfl, by simp, by simp, fun _ => rfl⟩
  | cons e events ih =>
    rw [correlated] at h
    split_ifs at h with htype hdict hkeys
    · obtain ⟨before, after, rfl, hbefore, hrest⟩ := ih h
      exact ⟨e :: before, after, rfl, forall_mem_cons.mpr ⟨fun h => absurd h htype, hbefore⟩, hrest⟩
    · cases h
      refine ⟨[], events, rfl, by simp, ?_, nofun⟩
      rintro _ ⟨⟩
      exact ⟨not_not.mp htype, hkeys⟩
    · obtain ⟨before, after, rfl, hbefore, hrest⟩ := ih h
      exact ⟨e :: before, after, rfl, forall_mem_cons.mpr ⟨fun _ => hkeys, hbefore⟩, hrest⟩

/-- **Correlation.** A call returns an event of the type, which was in the log or is written to it.
The event that is in the log then carries the given values if and only if the correlation is
unmistakable. -/
theorem appendOnce_correlated {found : Bool} {file' : List Json}
    (hdata : (data.map Prod.fst).Nodup) (hload : load env file = .ok events)
    (h : appendOnce env file entry data keys = .ok ((event, found), file')) :
    event.eventType = .str entry.eventType ∧
      (if found then file' = file ∧ event ∈ events
        else file' = file ++ [event.reloaded.toDict]) ∧
      (carries env data keys (if found then event else event.reloaded) ↔
        Unmistakable env entry data keys events) := by
  simp only [appendOnce, eq_ok_iff, not_or, not_exists, not_and, not_not] at h
  obtain ⟨-, ⟨-, hpresent⟩, events', hload', result, hresult, hreturn⟩ := h
  cases hload.symm.trans hload'
  have hkeys : ∀ key ∈ keys, ∃ value, data.lookup (.str key) = some value := by
    intro key hkey
    rw [← Option.isSome_iff_exists, lookup_isSome_iff]
    obtain ⟨field, hfield, hfst⟩ := mem_map.mp (hpresent key hkey)
    exact ⟨field, hfield, by simp [hfst]⟩
  obtain ⟨before, after, hevents, hbefore, hfound, hafter⟩ := correlated_eq_ok hresult
  cases result with
  | some e =>
    cases hreturn
    obtain ⟨htype, hagrees⟩ := hfound event rfl
    replace hevents : events = before ++ event :: after := by simpa using hevents
    refine ⟨htype, ⟨rfl, by simp [hevents]⟩, fun hcarries => ⟨?_, ?_⟩, fun hunmistakable => ?_⟩
    · -- the event that was returned is the first one that agrees
      intro before' e after' hsplit hetype hmistakable
      obtain ⟨heagrees, hecarries⟩ := (mistakable_iff hkeys).mp hmistakable
      refine ⟨event, ?_, htype, hcarries⟩
      obtain ⟨middle, rfl, hmiddle⟩ | ⟨middle, rfl, hmiddle⟩ :=
        append_eq_append_iff.mp (hevents.symm.trans hsplit)
      · cases middle with
        | nil =>
          cases hmiddle
          exact absurd hcarries hecarries
        | cons first middle =>
          cases hmiddle
          simp
      · cases middle with
        | nil =>
          cases hmiddle
          exact absurd hcarries hecarries
        | cons first middle =>
          cases hmiddle
          exact absurd heagrees (hbefore e (by simp) hetype)
    · exact .inl ⟨event, by simp [hevents], htype, hcarries⟩
    · by_contra hcarries
      obtain ⟨e, he, hetype, hecarries⟩ := hunmistakable.preceded before event after hevents htype
        ((mistakable_iff hkeys).mpr ⟨hagrees, hcarries⟩)
      exact hbefore e he hetype (agrees_of_carries hecarries)
  | none =>
    simp only [eq_ok_iff] at hreturn
    obtain ⟨r, hcurrent, hreturn⟩ := hreturn
    obtain ⟨doc, hdoc, rfl⟩ := appendCurrent_eq_ok hcurrent
    cases hreturn
    obtain rfl := hafter rfl
    replace hevents : events = before := by simpa using hevents
    subst hevents
    have hverify := (load_eq_ok.mp hload).2
    refine ⟨rfl, by simp [loads_toDict], ?_⟩
    have hstored : carries env data keys (newEvent env events entry doc).reloaded ↔
        ∀ key ∈ keys, ∀ value ∈ data.lookup (.str key), ∀ d ∈ value.dumps env.valueOf,
          env.pyEq d.loads value := by
      simp only [carries, all_eq_true, Option.any_eq_true, reloaded_newEvent hverify]
      refine forall₂_congr fun key hkey => ?_
      obtain ⟨value, hvalue⟩ := hkeys key hkey
      obtain ⟨_, _, hfields, -⟩ := lookup_eq_some_iff.mp hvalue
      obtain ⟨d, hd, hget⟩ := PyData.get?_loads_dumps hdata hdoc
        (show (PyKey.str key, value) ∈ data by simp [hfields])
      simp [hvalue, hd, hget]
    rw [if_neg Bool.false_ne_true, hstored]
    refine ⟨fun hread => ⟨?_, .inr hread⟩, fun hunmistakable => ?_⟩
    · intro before e after hsplit hetype hmistakable
      exact absurd ((mistakable_iff hkeys).mp hmistakable).1 (hbefore e (by simp [hsplit]) hetype)
    · refine hunmistakable.readBack.resolve_left ?_
      rintro ⟨e, he, hetype, hecarries⟩
      exact hbefore e he hetype (agrees_of_carries hecarries)

end

/-- Equality of a stored value with the one that is written as it. -/
def equalEnv : Env where
  sha256 := String.ofList
  valueOf _ := .nan
  pyEq stored value := value.dumps (fun _ => .nan) = some stored

/-- A log whose only event has no data: an event with `runId` as `None` is found in it. -/
theorem appendOnce_finds_missing :
    (appendOnce equalEnv (nextFile equalEnv [] (.append sampleEntry none)) sampleEntry
      [(.str "runId", .none)] ["runId"]).map
        (fun r => (r.1.2, r.1.1.data.get? "runId")) = .ok (true, none) := by
  decide +kernel

/-- A log with two runs of one step. -/
def runsFile : List Json :=
  [[(.str "runId", .str "run-1")], [(.str "runId", .str "run-2"), (.str "step", .none)]].foldl
    (fun file data => nextFile equalEnv file (.append sampleEntry (some data))) []

def secondRun : List (PyKey × PyData) := [(.str "runId", .str "run-2"), (.str "step", .none)]

/-- The first run has no step, and is not taken for the second one. -/
theorem appendOnce_correlated_sample : ∃ events event,
    load equalEnv runsFile = .ok events ∧ events.length = 2 ∧
      appendOnce equalEnv runsFile sampleEntry secondRun ["runId", "step"] =
        .ok ((event, true), runsFile) ∧
      Unmistakable equalEnv sampleEntry secondRun ["runId", "step"] events := by
  have hcomputed : (load equalEnv runsFile).map length = .ok 2 ∧
      (appendOnce equalEnv runsFile sampleEntry secondRun ["runId", "step"]).map (fun r =>
        (r.1.2, carries equalEnv secondRun ["runId", "step"] r.1.1)) = .ok (true, true) := by
    decide +kernel
  obtain ⟨hlength, hcall⟩ := hcomputed
  cases hload : load equalEnv runsFile with
  | error e => simp [hload, Except.map] at hlength
  | ok events =>
    cases h : appendOnce equalEnv runsFile sampleEntry secondRun ["runId", "step"] with
    | error e => simp [h, Except.map] at hcall
    | ok r =>
      obtain ⟨⟨event, found⟩, file'⟩ := r
      simp only [hload, h, Except.map, Except.ok.injEq, Prod.mk.injEq] at hlength hcall
      obtain ⟨rfl, hcarries⟩ := hcall
      obtain ⟨-, hplace, hiff⟩ := appendOnce_correlated (by decide) hload h
      rw [if_pos rfl] at hplace hiff
      rw [hplace.1]
      exact ⟨events, event, rfl, hlength, rfl, hiff.mp hcarries⟩

/-! ### Parts of a log -/

lemma verifyFrom_of_append {es : List AuditEvent} (fs : List AuditEvent)
    (h : verifyFrom env previous index (es ++ fs)) :
    verifyFrom env previous index es := by
  induction es generalizing previous index with
  | nil => rfl
  | cons e es ih =>
    simp only [cons_append, verifyFrom, Bool.and_eq_true] at h ⊢
    exact ⟨h.1, ih h.2⟩

/-- **Forks are seen, truncation is not.** A verified log may be cut off anywhere, and two verified
logs agree up to every place where they have the same hash. -/
theorem verified_logs_agree (hsha : Injective env.sha256) {es fs : List AuditEvent}
    (hes : verify env es) (hfs : verify env fs) :
    (∀ n, verify env (es.take n)) ∧ ∀ i (hi : i < es.length) (hj : i < fs.length),
      es[i].hash = fs[i].hash → es.take (i + 1) = fs.take (i + 1) := by
  have htake {es : List AuditEvent} (h : verify env es) (n : ℕ) : verify env (es.take n) :=
    verifyFrom_of_append (es.drop n) (by rwa [take_append_drop])
  refine ⟨htake hes, fun i hi hj hhash => ?_⟩
  refine eq_of_lastHash_eq hsha (htake hes _) (htake hfs _) (by simp; omega) ?_
  -- the hash at `i` is the last one of the first `i + 1` events
  have hlast {es : List AuditEvent} (hi : i < es.length) :
      lastHash (es.take (i + 1)) = es[i].hash := by
    rw [take_succ_eq_append_getElem hi, lastHash, getLast?_concat]
  rw [hlast hi, hlast hj, hhash]

/-- Two logs that agree in their first event and go on differently. -/
theorem verified_logs_agree_sample :
    let e := newEvent sampleEnv [] sampleEntry .null
    let left := [e, newEvent sampleEnv [e] sampleEntry (.str "left")]
    let right := [e, newEvent sampleEnv [e] sampleEntry (.str "right")]
    left ≠ right ∧ verify sampleEnv (left.take 1) ∧ left.take 1 = right.take 1 := by
  intro e left right
  have hverify : verify sampleEnv left ∧ verify sampleEnv right := by decide +kernel
  obtain ⟨hcut, hagree⟩ := verified_logs_agree sampleEnv_injective hverify.1 hverify.2
  have hdata : left.map AuditEvent.data ≠ right.map AuditEvent.data := by decide +kernel
  exact ⟨fun h => hdata (congrArg _ h), hcut 1, hagree 0 (by simp [left]) (by simp [right]) rfl⟩

end StatePort.Audit
