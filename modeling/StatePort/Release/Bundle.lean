import StatePort.Algorithm.Code
import StatePort.Algorithm.Table
import StatePort.Release.Disposition

/-!
# The digest of a Quadlet bundle

`quadlet_bundle_digest` hashes the files of a bundle in the order of their names, each as
`path\0length\0bytes`. A content may hold zero bytes and digits, but an accepted path holds no zero
byte and a length no more than its digits, so that the stream is read back in one way
(`flatMap_entry_inj`): it stands for the bundle (`quadletBundleDigest_iff`). `sha256` and `repr` are
parameters.
-/

namespace StatePort.Release

open List

/-- `value.encode("utf-8")`. -/
def encode (value : String) : List UInt8 := value.toList.flatMap String.utf8EncodeChar

/-- The files of a bundle, in the order of the mapping. -/
abbrev Bundle := Table (Prod.fst : String × List UInt8 → String)

/-- The paths that `quadlet_bundle_digest` refuses. -/
def isUnsafe (name : String) : Bool :=
  let parts := pathParts name
  let posix := if parts = [] then ['.'] else Str.join ['/'] parts
  name.toList = [] || Str.startsWith name "/" || posix ≠ name.toList ||
    parts.any (fun part => part ∈ [[], ['.'], ['.', '.']]) || Str.backslash ∈ name.toList ||
    Char.ofNat 0 ∈ name.toList

/-- What the hasher is given for one file. -/
def entry (file : String × List UInt8) : List UInt8 :=
  encode file.1 ++ 0 :: (encode (toString file.2.length) ++ 0 :: file.2)

/-- One turn of the loop of `quadlet_bundle_digest`, on the total and the bytes hashed so far. -/
def update (repr : String → String) (hasher : ℕ × List UInt8) (file : String × List UInt8) :
    Except ReleaseContractError (ℕ × List UInt8) := do
  raiseIf (isUnsafe file.1) ⟨s!"unsafe Quadlet bundle path: {repr file.1}"⟩
  let total := hasher.1 + file.2.length
  raiseIf (total > 16 * 1024 * 1024) ⟨"Quadlet bundle exceeds the 16 MiB content limit"⟩
  return (total, hasher.2 ++ entry file)

/-- `sorted(files)`. -/
def sortedFiles (files : Bundle) : List (String × List UInt8) :=
  files.rows.insertionSort fun a b => Str.isLess b.1 a.1 = false

/-- The bytes that `quadlet_bundle_digest` hashes. -/
def hashed (repr : String → String) (files : Bundle) :
    Except ReleaseContractError (List UInt8) := do
  raiseIf (files.rows = [] ∨ files.rows.length > 128) ⟨"Quadlet bundle must contain 1..128 files"⟩
  let hasher ← (sortedFiles files).foldlM (update repr) (0, [])
  return hasher.2

def quadletBundleDigest (repr : String → String) (sha256 : List UInt8 → String) (files : Bundle) :
    Except ReleaseContractError String := do
  return "sha256:" ++ sha256 (← hashed repr files)

variable {repr : String → String} {files files' : Bundle} {bytes bytes' : List UInt8}

/-! ### The bytes of a text -/

lemma encode_injective {s t : String} (h : encode s = encode t) : s = t := by
  rw [← String.toByteArray_inj, ← String.utf8Encode_toList, ← String.utf8Encode_toList]
  exact congrArg List.toByteArray h

/-- No character but NUL is written with a zero byte. -/
lemma zero_notMem_utf8EncodeChar {c : Char} (hc : c ≠ Char.ofNat 0) :
    (0 : UInt8) ∉ String.utf8EncodeChar c := by
  have hval : c.val.toNat ≠ 0 := by
    intro h
    exact hc (Char.toNat_inj.mp h)
  have hnat : c.val.toNat = c.toNat := rfl
  simp only [String.utf8EncodeChar]
  split_ifs <;> simp [← UInt8.toNat_inj] <;> omega

lemma zero_notMem_encode {s : String} (hs : Char.ofNat 0 ∉ s.toList) : (0 : UInt8) ∉ encode s := by
  intro h
  obtain ⟨c, hc, hzero⟩ := mem_flatMap.mp h
  refine zero_notMem_utf8EncodeChar ?_ hzero
  rintro rfl
  exact hs hc

lemma toList_toString_nat (n : ℕ) : (toString n).toList = Nat.toDigits 10 n := by
  rw [Nat.toString_eq_repr, Nat.repr_eq_ofList_toDigits, String.toList_ofList]

lemma zero_notMem_encode_length (n : ℕ) : (0 : UInt8) ∉ encode (toString n) := by
  apply zero_notMem_encode
  intro h
  rw [toList_toString_nat] at h
  exact absurd (isDigit_of_mem_toDigits h) (by decide)

/-! ### Reading the stream back -/

/-- A token without a zero byte, before a zero byte, is read back. -/
lemma append_zero_inj {t t' r r' : List UInt8} (ht : 0 ∉ t) (ht' : 0 ∉ t')
    (h : t ++ 0 :: r = t' ++ 0 :: r') : t = t' ∧ r = r' := by
  have hstop : ∀ {t : List UInt8}, 0 ∉ t → ∀ c ∈ t, ¬ c = 0 := by
    rintro t ht c hc rfl
    exact ht hc
  obtain ⟨ht, hr⟩ := append_inj_of_stops (hstop ht) (hstop ht') (stops_cons rfl) (stops_cons rfl) h
  exact ⟨ht, (cons.inj hr).2⟩

/-- The length says where the content ends, whatever the content is. -/
lemma entry_append_inj {a b : String × List UInt8} {r s : List UInt8}
    (ha : Char.ofNat 0 ∉ a.1.toList) (hb : Char.ofNat 0 ∉ b.1.toList)
    (h : entry a ++ r = entry b ++ s) : a = b ∧ r = s := by
  simp only [entry, append_assoc, cons_append] at h
  obtain ⟨hname, h⟩ := append_zero_inj (zero_notMem_encode ha) (zero_notMem_encode hb) h
  obtain ⟨hlength, h⟩ :=
    append_zero_inj (zero_notMem_encode_length _) (zero_notMem_encode_length _) h
  have hdigits := congrArg String.toList (encode_injective hlength)
  rw [toList_toString_nat, toList_toString_nat] at hdigits
  obtain ⟨hcontent, hrest⟩ := append_inj h (toDigits_injective hdigits)
  exact ⟨Prod.ext (encode_injective hname) hcontent, hrest⟩

lemma flatMap_entry_inj {as bs : List (String × List UInt8)}
    (ha : ∀ a ∈ as, Char.ofNat 0 ∉ a.1.toList) (hb : ∀ b ∈ bs, Char.ofNat 0 ∉ b.1.toList)
    (h : as.flatMap entry = bs.flatMap entry) : as = bs := by
  induction as generalizing bs with
  | nil =>
    cases bs with
    | nil => rfl
    | cons b bs => simp [entry] at h
  | cons a as ih =>
    cases bs with
    | nil => simp [entry] at h
    | cons b bs =>
      rw [forall_mem_cons] at ha hb
      obtain ⟨rfl, hrest⟩ := entry_append_inj ha.1 hb.1 h
      rw [ih ha.2 hb.2 hrest]

/-! ### The loop -/

/-- The loop has hashed the entries of all files, and has refused every path with a NUL. -/
lemma foldlM_update {hasher hasher' : ℕ × List UInt8} {as : List (String × List UInt8)}
    (h : as.foldlM (update repr) hasher = .ok hasher') :
    hasher'.2 = hasher.2 ++ as.flatMap entry ∧ ∀ a ∈ as, Char.ofNat 0 ∉ a.1.toList := by
  induction as generalizing hasher with
  | nil =>
    cases h
    simp
  | cons a as ih =>
    rw [foldlM_cons] at h
    obtain ⟨next, hnext, h⟩ := bind_eq_ok.mp h
    simp only [update, eq_ok_iff, isUnsafe, Bool.or_eq_true, not_or, decide_eq_true_eq] at hnext
    obtain ⟨⟨_, hnul⟩, _, rfl⟩ := hnext
    obtain ⟨hbytes, hall⟩ := ih h
    rw [hbytes, flatMap_cons, append_assoc]
    exact ⟨rfl, forall_mem_cons.mpr ⟨hnul, hall⟩⟩

lemma hashed_eq (h : hashed repr files = .ok bytes) :
    bytes = (sortedFiles files).flatMap entry ∧
      ∀ file ∈ sortedFiles files, Char.ofNat 0 ∉ file.1.toList := by
  simp only [hashed, eq_ok_iff] at h
  obtain ⟨_, hasher, hloop, rfl⟩ := h
  exact foldlM_update hloop

/-- The order of enumeration does not matter: the names are distinct. -/
lemma sortedFiles_eq_iff : sortedFiles files = sortedFiles files' ↔ files.rows ~ files'.rows := by
  constructor
  · intro h
    exact ((perm_insertionSort _ _).symm.trans (.of_eq h)).trans (perm_insertionSort _ _)
  · intro h
    simp only [sortedFiles, Str.isLess_eq_false_iff]
    let key (file : String × List UInt8) := Str.codes file.1
    refine Perm.eq_of_pairwise ?_ (pairwise_insertionSort_key key _)
      (pairwise_insertionSort_key key _)
      (((perm_insertionSort _ _).trans h).trans (perm_insertionSort _ _).symm)
    intro a b ha hb hab hba
    have hname : Str.codes a.1 = Str.codes b.1 := le_antisymm hab hba
    rw [mem_insertionSort] at ha hb
    refine files.eq_of_key_eq ha (h.mem_iff.mpr hb) (String.toList_inj.mp ?_)
    exact map_injective_iff.mpr (fun _ _ => Char.toNat_inj.mp) hname

/-- The streams of two accepted bundles, and their digests under an injective hash, are the same
exactly when the bundles have the same files. -/
theorem quadletBundleDigest_iff (h : hashed repr files = .ok bytes)
    (h' : hashed repr files' = .ok bytes') :
    (bytes = bytes' ↔ files.rows ~ files'.rows) ∧
      ∀ sha256 : List UInt8 → String, sha256.Injective →
        (quadletBundleDigest repr sha256 files = quadletBundleDigest repr sha256 files' ↔
          files.rows ~ files'.rows) := by
  have hbytes : bytes = bytes' ↔ files.rows ~ files'.rows := by
    obtain ⟨hbytes, hnul⟩ := hashed_eq h
    obtain ⟨hbytes', hnul'⟩ := hashed_eq h'
    rw [hbytes, hbytes', ← sortedFiles_eq_iff]
    exact ⟨flatMap_entry_inj hnul hnul', congrArg _⟩
  refine ⟨hbytes, fun sha256 hinj => ?_⟩
  simp [quadletBundleDigest, h, h', pure, Except.pure, ← hbytes, hinj.eq_iff]

/-- A content may look like the framing. -/
theorem quadletBundleDigest_swapped :
    ∃ files files' : Bundle, ∃ bytes bytes',
      hashed id files = .ok bytes ∧ hashed id files' = .ok bytes' ∧
        files.rows = [("b", [0, 49, 0]), ("a/c", [48])] ∧ files'.rows = files.rows.reverse ∧
          bytes = bytes' := by
  let files : Bundle := ⟨[("b", [0, 49, 0]), ("a/c", [48])], by decide⟩
  let files' : Bundle := ⟨[("a/c", [48]), ("b", [0, 49, 0])], by decide⟩
  have h : ∃ bytes, hashed id files = .ok bytes := ⟨_, rfl⟩
  have h' : ∃ bytes, hashed id files' = .ok bytes := ⟨_, rfl⟩
  obtain ⟨bytes, h⟩ := h
  obtain ⟨bytes', h'⟩ := h'
  exact ⟨files, files', bytes, bytes', h, h', rfl, rfl,
    (quadletBundleDigest_iff h h').1.mpr (.swap _ _ _)⟩

end StatePort.Release
