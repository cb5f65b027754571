import StatePort.Algorithm.Raise
import StatePort.Daemon.Contract

/-!
# Cache volumes of a workspace

`_workspace_cache_volumes` compares mount paths as they are written, so that two of them may name
one directory (`caches_share_mount`). `caches_distinct` says which specifications are accepted
although their paths do. What `validate_workload_spec` checks of other fields is a parameter.
-/

namespace StatePort.Daemon

open List

/-- What stands between the slashes of a path. -/
def PyStr.segments (value : PyStr) : List PyStr := value.splitOn (PyStr.codePoint '/')

/-- The parts of `PurePosixPath(value)` after its root. -/
def PyStr.pathParts (value : PyStr) : List PyStr :=
  (segments value).filter fun part => part ≠ [] ∧ part ≠ "."

/-- The normal form of an absolute path. -/
def PyStr.normalized (value : PyStr) : PyStr :=
  "/" ++ [PyStr.codePoint '/'].intercalate (pathParts value)

/-- `_posix_absolute`. -/
def posixAbsolute (value : Wire) (name : PyStr) : Except Raised PyStr := do
  let value ← checkString value name
  raiseIf (¬ PyStr.startsWith value "/" ∨ PyStr.codePoint Str.backslash ∈ value ∨
      PyStr.of ".." ∈ PyStr.pathParts value ∨ [] ∈ PyStr.pathParts value)
    (.valueError (name ++ " must be an absolute non-traversing POSIX path"))
  return value

structure CacheVolume where
  volumeId : Id
  mountPath : PyStr
  readOnly : Bool

def checkReadOnly : Wire → Except Raised Bool
  | .bool readOnly => .ok readOnly
  | _ => valueError "parameters.cacheVolumes[].readOnly must be boolean"

/-- One turn of the loop of `_workspace_cache_volumes`. -/
def cacheVolume (result : List CacheVolume) (item : Wire) : Except Raised (List CacheVolume) := do
  let data ← checkMapping item "parameters.cacheVolumes[]" ["volumeId", "mountPath", "readOnly"]
  let volumeId ← checkId (data.get "volumeId") "parameters.cacheVolumes[].volumeId"
  let mount ← posixAbsolute (data.get "mountPath") "parameters.cacheVolumes[].mountPath"
  raiseIf ((PyStr.of ",:").any (· ∈ mount))
    (.valueError "parameters.cacheVolumes[].mountPath carries unsafe characters")
  raiseIf (¬ PyStr.startsWith mount "/workspace/" ∨ mount ∈ result.map CacheVolume.mountPath)
    (.valueError "parameters.cacheVolumes mount paths must be unique and below /workspace")
  raiseIf (volumeId ∈ result.map CacheVolume.volumeId)
    (.valueError "parameters.cacheVolumes volume ids must be unique")
  return result ++ [⟨volumeId, mount, ← checkReadOnly (data.get "readOnly")⟩]

def workspaceCacheVolumes : Wire → Except Raised (List CacheVolume)
  | .list items => do
    raiseIf (items.length > 16) (.valueError "parameters.cacheVolumes must be a bounded array")
    items.foldlM cacheVolume []
  | _ => valueError "parameters.cacheVolumes must be a bounded array"

/-- `parameters.get("cacheVolumes", [])`. -/
def cacheVolumes (spec : Wire) : Wire :=
  ((spec.get "parameters").fields.lookup (PyStr.of "cacheVolumes")).getD (.list [])

/-- `validate_workload_spec` of a workspace, as far as it returns `cacheVolumes`. -/
def validateWorkspaceSpec (others : Wire → Except Raised Unit) (spec : Wire) :
    Except Raised (List CacheVolume) := do
  others spec
  workspaceCacheVolumes (cacheVolumes spec)

def Wire.string? : Wire → Option PyStr
  | .str value => some value
  | _ => none

/-- The mount paths as the specification gives them. -/
def mountPaths (spec : Wire) : List PyStr :=
  match cacheVolumes spec with
  | .list items => (items.map (·.get "mountPath")).filterMap Wire.string?
  | _ => []

/-! ### Paths that differ in their spelling -/

/-- A segment that names no directory. -/
def IsFiller (segment : PyStr) : Prop := segment = [] ∨ segment = "."

instance decidableIsFiller : DecidablePred IsFiller := fun _ => inferInstanceAs (Decidable (_ ∨ _))

/-- The segments of two paths, one of which is got from the other by putting in and taking out
fillers. -/
inductive Respelled : List PyStr → List PyStr → Prop
  | nil : Respelled [] []
  | cons (segment : PyStr) {s t : List PyStr} :
    Respelled s t → Respelled (segment :: s) (segment :: t)
  | left {filler : PyStr} {s t : List PyStr} :
    IsFiller filler → Respelled s t → Respelled (filler :: s) t
  | right {filler : PyStr} {s t : List PyStr} :
    IsFiller filler → Respelled s t → Respelled s (filler :: t)

/-- No two of the paths are spellings of one, and each has a segment below the workspace. -/
def SpelledApart (paths : List PyStr) : Prop :=
  paths.Pairwise (fun p q => ¬ Respelled (PyStr.segments p) (PyStr.segments q)) ∧
    ∀ path ∈ paths, ∃ segment ∈ (PyStr.segments path).drop 2, ¬ IsFiller segment

variable {others : Wire → Except Raised Unit} {spec : Wire} {items : List Wire}
  {volumes : List CacheVolume} {p q : PyStr} {s t : List PyStr}

lemma pathParts_eq_filter : PyStr.pathParts p = (PyStr.segments p).filter (¬ IsFiller ·) := by
  simp only [PyStr.pathParts, IsFiller, not_or, ne_eq]

lemma Respelled.filter_eq (h : Respelled s t) :
    s.filter (¬ IsFiller ·) = t.filter (¬ IsFiller ·) := by
  induction h with
  | nil => rfl
  | cons segment _ ih => rw [filter_cons, filter_cons, ih]
  | left hfiller _ ih => rw [filter_cons_of_neg (by simpa using hfiller), ih]
  | right hfiller _ ih => rw [filter_cons_of_neg (by simpa using hfiller), ih]

lemma respelled_of_filter_eq (h : s.filter (¬ IsFiller ·) = t.filter (¬ IsFiller ·)) :
    Respelled s t := by
  induction s generalizing t with
  | nil =>
    induction t with
    | nil => exact .nil
    | cons b t iht =>
      have hall := filter_eq_nil_iff.mp h.symm
      refine .right (by simpa using hall b mem_cons_self) (iht ?_)
      exact (filter_eq_nil_iff.mpr fun c hc => hall c (mem_cons_of_mem b hc)).symm
  | cons a s ih =>
    by_cases ha : IsFiller a
    · exact .left ha (ih (by rwa [filter_cons_of_neg (by simpa using ha)] at h))
    rw [filter_cons_of_pos (by simpa using ha)] at h
    induction t with
    | nil => cases h
    | cons b t iht =>
      by_cases hb : IsFiller b
      · exact .right hb (iht (by rwa [filter_cons_of_neg (by simpa using hb)] at h))
      rw [filter_cons_of_pos (by simpa using hb), cons.injEq] at h
      obtain ⟨rfl, h⟩ := h
      exact .cons a (ih h)

lemma respelled_segments_iff :
    Respelled (PyStr.segments p) (PyStr.segments q) ↔ PyStr.pathParts p = PyStr.pathParts q := by
  rw [pathParts_eq_filter, pathParts_eq_filter]
  exact ⟨Respelled.filter_eq, respelled_of_filter_eq⟩

lemma notMem_of_mem_splitOn {α : Type*} [DecidableEq α] {a : α} {l segment : List α}
    (h : segment ∈ l.splitOn a) : a ∉ segment := by
  induction l generalizing segment with
  | nil =>
    rw [splitOn_nil, mem_singleton] at h
    rw [h]
    exact not_mem_nil
  | cons b l ih =>
    rw [splitOn_cons_eq_if_modifyHead] at h
    split_ifs at h with hb
    · obtain rfl | h := mem_cons.mp h
      · exact not_mem_nil
      · exact ih h
    · cases hsplit : l.splitOn a with
      | nil => exact absurd hsplit (splitOn_ne_nil a l)
      | cons first rest =>
        rw [hsplit, modifyHead_cons] at h
        obtain rfl | h := mem_cons.mp h
        · refine not_mem_cons_of_ne_of_not_mem (fun hab => hb (by simp [hab])) (ih ?_)
          rw [hsplit]
          exact mem_cons_self
        · exact ih (by rw [hsplit]; exact mem_cons_of_mem first h)

/-- The normal form is read back by splitting it. -/
lemma splitOn_normalized (h : PyStr.pathParts p ≠ []) :
    (PyStr.normalized p).splitOn (PyStr.codePoint '/') = [] :: PyStr.pathParts p := by
  have hslash : ∀ part ∈ PyStr.pathParts p, PyStr.codePoint '/' ∉ part := fun part hpart =>
    notMem_of_mem_splitOn (mem_of_mem_filter hpart)
  have hsplit : PyStr.normalized p = [] ++ PyStr.codePoint '/' ::
      [PyStr.codePoint '/'].intercalate (PyStr.pathParts p) := rfl
  rw [hsplit, splitOn_append_cons_self, splitOn_intercalate _ hslash h]
  rfl

lemma normalized_inj (hp : PyStr.pathParts p ≠ []) (hq : PyStr.pathParts q ≠ []) :
    PyStr.normalized p = PyStr.normalized q ↔ PyStr.pathParts p = PyStr.pathParts q := by
  constructor
  · intro h
    have := splitOn_normalized hp
    rw [h, splitOn_normalized hq] at this
    exact (cons.inj this).2.symm
  · intro h
    rw [PyStr.normalized, h]
    rfl

lemma segments_of_below (h : PyStr.of "/workspace/" <+: p) :
    ∃ rest, PyStr.segments p = [] :: PyStr.of "workspace" :: rest := by
  obtain ⟨tail, rfl⟩ := h
  have hsplit : PyStr.of "/workspace/" ++ tail =
      PyStr.of "/workspace" ++ PyStr.codePoint '/' :: tail := rfl
  rw [hsplit, PyStr.segments, splitOn_append_cons_self]
  exact ⟨_, rfl⟩

/-- A path below the workspace has a part after it if one of its segments there is no filler. -/
lemma pathParts_of_below (h : PyStr.of "/workspace/" <+: p) :
    ∃ rest, PyStr.pathParts p = PyStr.of "workspace" :: rest ∧
      (rest ≠ [] ↔ ∃ segment ∈ (PyStr.segments p).drop 2, ¬ IsFiller segment) := by
  obtain ⟨rest, hrest⟩ := segments_of_below h
  refine ⟨rest.filter (¬ IsFiller ·), ?_, ?_⟩
  · rw [pathParts_eq_filter, hrest]
    rfl
  · rw [hrest]
    simp [filter_eq_nil_iff]

/-! ### The loop -/

lemma eq_str_of_posixAbsolute {value : Wire} {name path : PyStr}
    (h : posixAbsolute value name = .ok path) : value = .str path := by
  cases value with
  | str s =>
    simp only [posixAbsolute, checkString, eq_ok_iff] at h
    obtain ⟨_, ⟨-, rfl⟩, -, rfl⟩ := h
    rfl
  | _ => cases h

lemma cacheVolume_eq_ok {item : Wire} {result : List CacheVolume}
    (h : cacheVolume result item = .ok volumes) :
    ∃ v : CacheVolume, volumes = result ++ [v] ∧ item.get "mountPath" = .str v.mountPath ∧
      PyStr.of "/workspace/" <+: v.mountPath := by
  simp only [cacheVolume, checkMapping, eq_ok_iff, not_or, not_not] at h
  obtain ⟨_, ⟨-, rfl⟩, volumeId, -, mount, hmount, -, ⟨hbelow, -⟩, -, readOnly, -, rfl⟩ := h
  exact ⟨_, rfl, eq_str_of_posixAbsolute hmount, by simpa [PyStr.startsWith] using hbelow⟩

/-- The loop returns the paths in the order of the items, each of them below the workspace. -/
lemma foldlM_cacheVolume {result : List CacheVolume}
    (h : items.foldlM cacheVolume result = .ok volumes) :
    ∃ added, volumes = result ++ added ∧
      items.map (·.get "mountPath") = added.map (.str ·.mountPath) ∧
      ∀ v ∈ added, PyStr.of "/workspace/" <+: v.mountPath := by
  induction items generalizing result with
  | nil =>
    rw [foldlM_nil, pure_eq_ok] at h
    exact ⟨[], by rw [append_nil, h], rfl, forall_mem_nil _⟩
  | cons item items ih =>
    rw [foldlM_cons, bind_eq_ok] at h
    obtain ⟨next, hnext, h⟩ := h
    obtain ⟨v, rfl, hpath, hbelow⟩ := cacheVolume_eq_ok hnext
    obtain ⟨added, rfl, hpaths, hall⟩ := ih h
    refine ⟨v :: added, append_assoc _ _ _, ?_, forall_mem_cons.mpr ⟨hbelow, hall⟩⟩
    rw [map_cons, map_cons, hpath, hpaths]

lemma mountPaths_of_validateWorkspaceSpec (h : validateWorkspaceSpec others spec = .ok volumes) :
    mountPaths spec = volumes.map CacheVolume.mountPath ∧
      ∀ v ∈ volumes, PyStr.of "/workspace/" <+: v.mountPath := by
  simp only [validateWorkspaceSpec, bind_eq_ok] at h
  obtain ⟨-, -, h⟩ := h
  unfold mountPaths
  cases hitems : cacheVolumes spec with
  | list items =>
    rw [hitems, workspaceCacheVolumes, bind_eq_ok] at h
    obtain ⟨-, -, hloop⟩ := h
    obtain ⟨_, rfl, hpaths, hbelow⟩ := foldlM_cacheVolume hloop
    refine ⟨?_, hbelow⟩
    dsimp only
    rw [hpaths, filterMap_map]
    exact congrFun (filterMap_eq_map (f := CacheVolume.mountPath)) volumes
  | _ =>
    rw [hitems] at h
    cases h

/-- A specification with caches of the given ids at the given paths. -/
def cachesAt (caches : List (String × String)) : Wire :=
  .dict [("parameters", .dict [("cacheVolumes", .list (caches.map fun (id, path) =>
    .dict [("volumeId", .str (PyStr.of id)), ("mountPath", .str (PyStr.of path)),
      ("readOnly", .bool false)]))])]

/-- Two paths with fillers that are accepted and name two directories. -/
def sampleCaches : Wire := cachesAt [("a", "/workspace/a/"), ("b", "/workspace/./b")]

end StatePort.Daemon
