import Mathlib.Data.List.Basic

/-!
# Chains of digests

Each entry of a chain names the digest of the entry before it (`Linked`); `tip` is the digest of the
last one. Where a digest determines its entry, the tip and the length determine the whole chain and
what it starts from (`Linked.eq_of_tip_eq`).
-/

namespace StatePort

variable {ε κ : Type*} (digest previous : ε → κ)

/-- The entries name their predecessors, the first one `p`. -/
def Linked : κ → List ε → Prop
  | _, [] => True
  | p, e :: es => previous e = p ∧ Linked (digest e) es

/-- The digest of the last entry, `p` if there is none. -/
def tip : κ → List ε → κ
  | p, [] => p
  | _, e :: es => tip (digest e) es

variable {digest previous} {p q : κ} {e : ε} {es fs : List ε}

lemma tip_append_singleton : tip digest p (es ++ [e]) = digest e := by
  induction es generalizing p with
  | nil => rfl
  | cons f es ih => exact ih

lemma linked_append_singleton : Linked digest previous p (es ++ [e]) ↔
    Linked digest previous p es ∧ previous e = tip digest p es := by
  induction es generalizing p with
  | nil => simp [Linked, tip]
  | cons f es ih => simp only [List.cons_append, Linked, tip, ih, and_assoc]

/-- **Commitment.** Two chains of one length with one tip are the same chain. -/
theorem Linked.eq_of_tip_eq (hes : Linked digest previous p es) (hfs : Linked digest previous q fs)
    (hinj : ∀ e ∈ es, ∀ f ∈ fs, digest e = digest f → e = f) (hlength : es.length = fs.length)
    (htip : tip digest p es = tip digest q fs) : es = fs ∧ p = q := by
  induction es generalizing p q fs with
  | nil =>
    cases fs with
    | nil => exact ⟨rfl, htip⟩
    | cons f fs => simp at hlength
  | cons e es ih =>
    cases fs with
    | nil => simp at hlength
    | cons f fs =>
      -- the rest of the chains determines the digests of the first entries
      have hrest : es = fs ∧ digest e = digest f :=
        ih hes.2 hfs.2 (fun e he f hf => hinj e (List.mem_cons_of_mem _ he) f
          (List.mem_cons_of_mem _ hf)) (by simpa using hlength) htip
      have hfirst : e = f := hinj e List.mem_cons_self f List.mem_cons_self hrest.2
      rw [← hes.1, ← hfs.1, hfirst, hrest.1]
      exact ⟨rfl, rfl⟩

end StatePort
