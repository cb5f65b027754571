import Mathlib

/-!
# Terminal output and its replay

`_record_output`, `read_output` and `replay_output` of the terminal broker, on one session. The
session keeps the last bytes of what it has recorded, and offsets count from the first byte ever
recorded. `recorded` is a history variable: the whole stream, which the broker does not keep.
-/

namespace StatePort.TerminalBroker

open List

/-- The limits of a `TerminalConnectionProfile`, with what its `__post_init__` checks of them. -/
structure TerminalConnectionProfile where
  (replayLimitBytes outputLimitBytes : ℕ)
  replay_pos : 0 < replayLimitBytes
  replay_le_output : replayLimitBytes ≤ outputLimitBytes

structure LiveSession where
  (outputBytes replayStartOffset : ℕ)
  replay : List UInt8

/-- A session; `live` is empty once it has been finalized. -/
structure Session where
  profile : TerminalConnectionProfile
  live : Option LiveSession
  recorded : List UInt8

structure TerminalOutput where
  data : List UInt8
  (startOffset endOffset : ℕ)
  replayed : Bool
  droppedBeforeOffset : ℕ
  eof : Bool

/-- What `select` and `os.read` give: nothing to read, some bytes, `EIO`, or another error. -/
inductive Reading where
  | nothing
  | bytes (data : List UInt8)
  | hangUp
  | failed

def Reading.data : Reading → List UInt8
  | bytes data => data
  | _ => []

variable (profile : TerminalConnectionProfile) (live : LiveSession)

/-- `remaining`; it is never negative. -/
def LiveSession.remaining : ℕ := profile.outputLimitBytes - live.outputBytes

variable (data : List UInt8)

/-- `_record_output` up to its last test, with `kept`. -/
def LiveSession.record : LiveSession × List UInt8 :=
  let kept := data.take (live.remaining profile)
  let outputBytes := live.outputBytes + kept.length
  let replay := live.replay ++ kept
  if replay.length > profile.replayLimitBytes then
    let replay := replay.drop (replay.length - profile.replayLimitBytes)
    (⟨outputBytes, live.outputBytes + kept.length - replay.length, replay⟩, kept)
  else (⟨outputBytes, live.replayStartOffset, replay⟩, kept)

/-- The session after `data` has been read, with what is kept of it. -/
def LiveSession.read : LiveSession × List UInt8 :=
  if data = [] then (live, []) else live.record profile data

/-- A call. `admitted` stands for the checks that precede the session, and `persists` for what is
written before a frame is returned; `exited` is `process.poll() is not None`. -/
inductive Call where
  | readOutput (maximumBytes : ℤ) (admitted exited persists : Bool) (reading : Reading)
  | replayOutput (afterOffset maximumBytes : ℤ) (admitted persists : Bool)
  | finalize

def isFrameSize (maximumBytes : ℤ) : Bool := 1 ≤ maximumBytes && maximumBytes ≤ 65536

/-- The frame that a call returns, if it does not raise, and the session that it leaves. -/
def Session.step (s : Session) : Call → Option TerminalOutput × Session
  | .readOutput maximumBytes admitted exited persists reading =>
    match s.live with
    | none => (none, s)
    | some live =>
      if !isFrameSize maximumBytes || !admitted || reading matches .failed then (none, s)
      else
        let (live', kept) := live.read s.profile reading.data
        let s' := { s with live := some live', recorded := s.recorded ++ kept }
        -- the output limit: what was kept is recorded, and not returned
        if reading.data.length > live.remaining s.profile then (none, { s' with live := none })
        else
          let eof := reading matches .hangUp || exited && kept = []
          (if persists then some ⟨kept, live.outputBytes, live.outputBytes + kept.length, false,
            live'.replayStartOffset, eof⟩ else none, if eof then { s' with live := none } else s')
  | .replayOutput afterOffset maximumBytes admitted persists =>
    match s.live with
    | none => (none, s)
    | some live =>
      if afterOffset < 0 || !isFrameSize maximumBytes || !admitted || !persists then (none, s)
      else
        let start := max afterOffset.toNat live.replayStartOffset
        let data := (live.replay.drop (start - live.replayStartOffset)).take maximumBytes.toNat
        (some ⟨data, start, start + data.length, true, live.replayStartOffset, false⟩, s)
  | .finalize => (none, { s with live := none })

/-- The session of a terminal that has just been opened. -/
def Session.opened : Session := ⟨profile, some ⟨0, 0, []⟩, []⟩

/-- The frames that calls return, and the session that they leave. -/
def after (calls : List Call) : List TerminalOutput × Session :=
  calls.foldl (fun (frames, s) call => (frames ++ (s.step call).1.toList, (s.step call).2))
    ([], Session.opened profile)

/-- The bytes that a call reads from the terminal of a session that is live. -/
def Session.bytesRead (s : Session) : Call → List UInt8
  | .readOutput maximumBytes admitted _ _ reading =>
    if s.live.isSome && isFrameSize maximumBytes && admitted then reading.data else []
  | _ => []

/-- All bytes that calls read, one reading after the other. -/
def Session.allBytesRead (s : Session) : List Call → List UInt8
  | [] => []
  | call :: calls => s.bytesRead call ++ (s.step call).2.allBytesRead calls

/-! ### The stream -/

/-- The buffer holds the last bytes of the stream, and the offset says where they start. -/
structure LiveSession.Tails (stream : List UInt8) : Prop where
  outputBytes : live.outputBytes = stream.length
  replay : live.replay = stream.drop (stream.length - profile.replayLimitBytes)
  start : live.replayStartOffset = stream.length - live.replay.length

structure Session.Exact (s : Session) : Prop where
  tails : ∀ live ∈ s.live, live.Tails s.profile s.recorded
  bounded : s.recorded.length ≤ s.profile.outputLimitBytes

/-- The bytes of a frame are those of the stream at its offsets. -/
def TerminalOutput.At (frame : TerminalOutput) (stream : List UInt8) : Prop :=
  frame.endOffset = frame.startOffset + frame.data.length ∧
    frame.data <+: stream.drop frame.startOffset

variable {profile} {s : Session} {live : LiveSession} {stream : List UInt8}

/-- A frame stays true when more is recorded. -/
lemma TerminalOutput.At.append {frame : TerminalOutput} (h : frame.At stream)
    (more : List UInt8) : frame.At (stream ++ more) := by
  refine ⟨h.1, h.2.trans ?_⟩
  rw [drop_append]
  exact prefix_append _ _

section

variable (h : live.Tails profile stream)
include h

lemma LiveSession.Tails.record :
    (live.record profile data).1.Tails profile (stream ++ (live.record profile data).2) := by
  obtain ⟨hbytes, hreplay, hstart⟩ := h
  have hlength : live.replay.length = min stream.length profile.replayLimitBytes := by
    rw [hreplay, length_drop]
    omega
  simp only [LiveSession.record]
  generalize data.take (live.remaining profile) = kept
  have htail : live.replay ++ kept =
      (stream ++ kept).drop (stream.length - profile.replayLimitBytes) := by
    rw [hreplay, drop_append_of_le_length (Nat.sub_le _ _)]
  split_ifs with htrim
  · refine ⟨by simp [hbytes], ?_, by simp [hbytes]⟩
    rw [length_append] at htrim
    dsimp only
    rw [htail, drop_drop]
    congr 1
    simp only [length_drop, length_append]
    omega
  · rw [length_append] at htrim
    refine ⟨by simp [hbytes], htail.trans ?_, ?_⟩
    · dsimp only
      rw [length_append]
      congr 1
      omega
    · simp only [hstart, length_append]
      omega

lemma LiveSession.Tails.drop_replay {start : ℕ}
    (hstart : live.replayStartOffset ≤ start) :
    live.replay.drop (start - live.replayStartOffset) = stream.drop start := by
  have hfirst : stream.length - profile.replayLimitBytes = live.replayStartOffset := by
    rw [h.start, h.replay, length_drop]
    omega
  rw [h.replay, drop_drop, hfirst, Nat.add_sub_cancel' hstart]

lemma LiveSession.Tails.read
    (hbound : stream.length ≤ profile.outputLimitBytes) (data : List UInt8) :
    (live.read profile data).1.Tails profile (stream ++ (live.read profile data).2) ∧
      (stream ++ (live.read profile data).2).length ≤ profile.outputLimitBytes := by
  rw [LiveSession.read]
  split_ifs
  · rw [append_nil]
    exact ⟨h, hbound⟩
  · refine ⟨h.record data, ?_⟩
    have hkept : (live.record profile data).2 = data.take (live.remaining profile) := by
      simp only [LiveSession.record]
      split_ifs <;> rfl
    rw [hkept, length_append, length_take, LiveSession.remaining, h.outputBytes]
    omega

end

/-- What one call preserves, and what it returns. -/
lemma Session.Exact.step (h : s.Exact) (call : Call) :
    (s.step call).2.Exact ∧ (∃ more, (s.step call).2.recorded = s.recorded ++ more) ∧
      ∀ frame ∈ (s.step call).1, frame.At (s.step call).2.recorded := by
  have hstay : s.Exact ∧ (∃ more, s.recorded = s.recorded ++ more) ∧
      ∀ frame ∈ (none : Option TerminalOutput), frame.At s.recorded :=
    ⟨h, ⟨[], (append_nil _).symm⟩, by simp⟩
  cases call with
  | finalize => exact ⟨⟨by simp [Session.step], h.bounded⟩, hstay.2⟩
  | replayOutput afterOffset maximumBytes admitted persists =>
    simp only [Session.step]
    cases hlive : s.live with
    | none => exact hstay
    | some live =>
      dsimp only
      split_ifs
      · exact hstay
      · refine ⟨h, hstay.2.1, ?_⟩
        rintro frame ⟨⟩
        rw [(h.tails live hlive).drop_replay (le_max_right _ _)]
        exact ⟨rfl, take_prefix _ _⟩
  | readOutput maximumBytes admitted exited persists reading =>
    simp only [Session.step]
    cases hlive : s.live with
    | none => exact hstay
    | some live =>
      have htails := h.tails live hlive
      obtain ⟨hnext, hbound⟩ := htails.read h.bounded reading.data
      dsimp only
      split_ifs
      · exact hstay
      · exact ⟨⟨by simp, hbound⟩, ⟨_, rfl⟩, by simp⟩
      all_goals
        refine ⟨⟨?_, hbound⟩, ⟨_, rfl⟩, ?_⟩
        · rintro _ ⟨⟩ <;> exact hnext
        · rintro _ ⟨⟩ <;> exact ⟨rfl, by rw [htails.outputBytes, drop_left]⟩

/-- The stream is what was read, cut at the limit; a session that is live has read no more. -/
structure Session.Records (profile : TerminalConnectionProfile) (s : Session)
    (bytes : List UInt8) : Prop where
  profile_eq : s.profile = profile
  recorded : s.recorded = bytes.take profile.outputLimitBytes
  within : s.live.isSome → bytes.length ≤ profile.outputLimitBytes

lemma LiveSession.read_snd : (live.read profile data).2 = data.take (live.remaining profile) := by
  rw [LiveSession.read]
  split_ifs with hdata
  · rw [hdata, take_nil]
  · simp only [LiveSession.record]
    split_ifs <;> rfl

lemma Session.Records.step {bytes : List UInt8} (hs : s.Exact) (h : s.Records profile bytes)
    (call : Call) : (s.step call).2.Records profile (bytes ++ s.bytesRead call) := by
  have hstay : s.Records profile (bytes ++ []) := (append_nil bytes).symm ▸ h
  cases call with
  | finalize => exact ⟨h.profile_eq, hstay.recorded, nofun⟩
  | replayOutput afterOffset maximumBytes admitted persists =>
    simp only [Session.step, Session.bytesRead]
    cases s.live with
    | none => exact hstay
    | some live => dsimp only; split_ifs <;> exact hstay
  | readOutput maximumBytes admitted exited persists reading =>
    simp only [Session.step, Session.bytesRead]
    cases hlive : s.live with
    | none => exact hstay
    | some live =>
      obtain ⟨rfl, hrecorded, hwithin⟩ := h
      replace hwithin := hwithin (by rw [hlive]; rfl)
      rw [take_of_length_le hwithin] at hrecorded
      have hremaining : live.remaining s.profile = s.profile.outputLimitBytes - bytes.length := by
        rw [LiveSession.remaining, (hs.tails live hlive).outputBytes, hrecorded]
      -- what is kept of the bytes that are read is what the limit leaves room for
      have hnext (live' : Option LiveSession)
          (hfits : live'.isSome → reading.data.length ≤ live.remaining s.profile) :
          Session.Records s.profile
            ⟨s.profile, live', s.recorded ++ (live.read s.profile reading.data).2⟩
            (bytes ++ reading.data) := by
        refine ⟨rfl, ?_, fun hsome => ?_⟩
        · rw [LiveSession.read_snd, hremaining, hrecorded, take_append, take_of_length_le hwithin]
        · have := hfits hsome
          rw [length_append]
          omega
      by_cases hread : (isFrameSize maximumBytes && admitted) = true
      · obtain ⟨hsize, rfl⟩ := Bool.and_eq_true_iff.mp hread
        simp only [hsize, Option.isSome_some, Bool.and_self, ↓reduceIte, Bool.not_true,
          Bool.false_or]
        split_ifs with hfailed hover
        · cases reading with
          | failed => exact hstay
          | _ => cases hfailed
        · exact hnext none nofun
        all_goals first
          | exact hnext none nofun
          | exact hnext (some _) fun _ => not_lt.mp hover
      · have hrefused : (!isFrameSize maximumBytes || !admitted) = true := by
          rw [← Bool.not_and, Bool.not_eq_true']
          exact Bool.not_eq_true _ ▸ hread
        simp only [hrefused, Option.isSome_some, Bool.true_and, hread, Bool.true_or, ↓reduceIte,
          Bool.false_eq_true]
        exact hstay

/-- What a run of calls preserves. -/
lemma Session.Records.foldl {bytes : List UInt8} {frames : List TerminalOutput} (hs : s.Exact)
    (h : s.Records profile bytes) (hframes : ∀ frame ∈ frames, frame.At s.recorded)
    (calls : List Call) :
    let r := calls.foldl
      (fun (frames, s) call => (frames ++ (s.step call).1.toList, (s.step call).2)) (frames, s)
    r.2.Exact ∧ (∀ frame ∈ r.1, frame.At r.2.recorded) ∧
      r.2.Records profile (bytes ++ s.allBytesRead calls) := by
  induction calls generalizing s bytes frames with
  | nil => exact ⟨hs, hframes, (append_nil bytes).symm ▸ h⟩
  | cons call calls ih =>
    obtain ⟨hnext, ⟨more, hmore⟩, hframe⟩ := hs.step call
    rw [Session.allBytesRead, ← append_assoc]
    refine ih hnext (h.step hs call) fun frame hmem => ?_
    obtain hmem | hmem := mem_append.mp hmem
    · rw [hmore]
      exact (hframes frame hmem).append more
    · exact hframe frame (by simpa using hmem)

/-- **Replay.** After any calls, what is recorded is what was read, cut at the output limit. The
buffer is the end of it, and every frame that was returned is a part of it. -/
theorem replay_exact (profile : TerminalConnectionProfile) (calls : List Call) :
    (after profile calls).2.recorded =
        ((Session.opened profile).allBytesRead calls).take profile.outputLimitBytes ∧
      (after profile calls).2.Exact ∧
      ∀ frame ∈ (after profile calls).1, frame.At (after profile calls).2.recorded := by
  have hopened : (Session.opened profile).Exact := by
    refine ⟨?_, Nat.zero_le _⟩
    rintro live ⟨⟩
    exact ⟨rfl, by simp [Session.opened], rfl⟩
  obtain ⟨hexact, hframes, hrecords⟩ := Session.Records.foldl hopened
    ⟨rfl, take_nil.symm, fun _ => Nat.zero_le _⟩ (forall_mem_nil _) calls
  exact ⟨hrecords.recorded, hexact, hframes⟩

end StatePort.TerminalBroker
