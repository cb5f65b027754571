import Mathlib.Algebra.Order.BigOperators.Group.List
import Mathlib.Data.List.Nodup
import Mathlib.Data.List.Sort

/-!
# Tables with a unique key

`Table key` is a list of rows no two of which have the same `key`: a directory of records whose file
names are computed from the records, or a relation with a primary key. Rows are looked up by key
(`find?`), added when their key is new (`insert`), removed (`erase`) and rewritten in place
(`update`).

A quantity accounted over a table is a sum of row weights `(t.rows.map w).sum`; `sum_insert` and
`sum_update_le` say what the two writes do to it.
-/

namespace StatePort

open List

variable {α κ : Type*} {key : α → κ} {a b : α}

/-- Rows with pairwise distinct keys, oldest first. -/
structure Table {α κ : Type*} (key : α → κ) where
  rows : List α
  nodup : (rows.map key).Nodup

namespace Table

def empty (key : α → κ) : Table key := ⟨[], nodup_nil⟩

@[simp] lemma rows_empty : (empty key).rows = [] := rfl

lemma eq_of_key_eq (t : Table key) (ha : a ∈ t.rows) (hb : b ∈ t.rows) (h : key a = key b) :
    a = b :=
  inj_on_of_nodup_map t.nodup ha hb h

section

variable [DecidableEq κ] (t : Table key)

/-- The row with key `k`. -/
def find? (k : κ) : Option α := t.rows.find? fun a => key a = k

/-- Whether some row has key `k`. -/
def contains (k : κ) : Bool := t.rows.any fun a => key a = k

lemma find?_eq_some_iff : t.find? k = some a ↔ a ∈ t.rows ∧ key a = k := by
  constructor
  · intro h
    exact ⟨mem_of_find?_eq_some h, by simpa using find?_some h⟩
  · rintro ⟨ha, rfl⟩
    cases h : t.find? (key a) with
    | none =>
      have := find?_eq_none.mp h a ha
      simp at this
    | some b =>
      have hb := mem_of_find?_eq_some h
      have hk : key b = key a := by simpa using find?_some h
      rw [t.eq_of_key_eq hb ha hk]

lemma find?_eq_none_iff : t.find? k = none ↔ ∀ a ∈ t.rows, key a ≠ k := by
  simp [find?]

@[simp] lemma contains_iff : t.contains k ↔ ∃ a ∈ t.rows, key a = k := by
  simp [contains]

lemma contains_eq_false_iff : t.contains k = false ↔ ∀ a ∈ t.rows, key a ≠ k := by
  simp [contains]

end

variable {t : Table key} {M : Type*}

section

variable [DecidableEq κ]

/-- Add a row; a row whose key is taken is not added. -/
def insert (t : Table key) (a : α) : Table key :=
  if h : key a ∈ t.rows.map key then t
  else ⟨t.rows ++ [a], by
    rw [map_append, nodup_append]
    refine ⟨t.nodup, by simp, ?_⟩
    intro x hx y hy
    simp only [map_cons, map_nil, mem_singleton] at hy
    rw [hy]
    rintro rfl
    exact h hx⟩

lemma rows_insert (h : ∀ b ∈ t.rows, key b ≠ key a) : (t.insert a).rows = t.rows ++ [a] := by
  unfold insert
  split_ifs with hm
  · obtain ⟨b, hb, hk⟩ := mem_map.mp hm
    exact absurd hk (h b hb)
  · rfl

lemma mem_insert (h : ∀ b ∈ t.rows, key b ≠ key a) :
    b ∈ (t.insert a).rows ↔ b ∈ t.rows ∨ b = a := by
  rw [rows_insert h]
  simp

/-- Rows survive an insertion, whether or not it takes place. -/
lemma mem_insert_of_mem (a : α) (hb : b ∈ t.rows) : b ∈ (t.insert a).rows := by
  unfold insert
  split_ifs with hm
  · exact hb
  · exact mem_append_left _ hb

/-- A row that differs in `f` from all others keeps `f` a key among the rows with `P`. -/
lemma injOn_insert {β : Type*} {f : α → β} {P : α → Prop} (h : ∀ b ∈ t.rows, key b ≠ key a)
    (hinj : ∀ b ∈ t.rows, ∀ c ∈ t.rows, P b → P c → f b = f c → b = c)
    (hnew : ∀ b ∈ t.rows, f b ≠ f a) :
    ∀ b ∈ (t.insert a).rows, ∀ c ∈ (t.insert a).rows, P b → P c → f b = f c → b = c := by
  intro b hb c hc hPb hPc hf
  obtain hb | hb := (mem_insert h).mp hb
  · obtain hc | hc := (mem_insert h).mp hc
    · exact hinj b hb c hc hPb hPc hf
    · rw [hc] at hf
      exact absurd hf (hnew b hb)
  · obtain hc | hc := (mem_insert h).mp hc
    · rw [hb] at hf
      exact absurd hf.symm (hnew c hc)
    · rw [hb, hc]

lemma sum_insert [AddCommMonoid M] (w : α → M) (h : ∀ b ∈ t.rows, key b ≠ key a) :
    ((t.insert a).rows.map w).sum = (t.rows.map w).sum + w a := by
  rw [rows_insert h]
  simp

end

section

variable [DecidableEq κ]

/-- Remove the row with key `k`. -/
def erase (t : Table key) (k : κ) : Table key :=
  ⟨t.rows.filter fun a => key a ≠ k, t.nodup.sublist (filter_sublist.map _)⟩

variable (t : Table key) {k l : κ}

@[simp] lemma find?_erase_self : (t.erase k).find? k = none := by
  rw [find?_eq_none_iff]
  intro a ha
  simpa using (List.mem_filter.mp ha).2

lemma find?_erase_of_ne (h : l ≠ k) : (t.erase k).find? l = t.find? l := by
  cases hl : t.find? l with
  | none =>
    rw [find?_eq_none_iff] at hl ⊢
    exact fun a ha => hl a (List.mem_filter.mp ha).1
  | some a =>
    obtain ⟨ha, hkey⟩ := t.find?_eq_some_iff.mp hl
    rw [find?_eq_some_iff]
    exact ⟨List.mem_filter.mpr ⟨ha, by simpa [hkey] using h⟩, hkey⟩

/-- Erasing a key makes room for a row with it. -/
lemma find?_insert_erase (a : α) :
    ((t.erase (key a)).insert a).find? k = if key a = k then some a else t.find? k := by
  have hfree : ∀ b ∈ (t.erase (key a)).rows, key b ≠ key a :=
    (find?_eq_none_iff _).mp t.find?_erase_self
  split_ifs with hk
  · rw [find?_eq_some_iff, mem_insert hfree]
    exact ⟨Or.inr rfl, hk⟩
  · rw [← t.find?_erase_of_ne (Ne.symm hk), find?, rows_insert hfree, find?_append, find?]
    simp [hk]

/-- `table[key a] = a`: replace the row with the key of `a`, or add one. -/
def put (a : α) : Table key := (t.erase (key a)).insert a

@[simp] lemma find?_put (a : α) : (t.put a).find? k = if key a = k then some a else t.find? k :=
  t.find?_insert_erase a

lemma mem_put : b ∈ (t.put a).rows ↔ b = a ∨ (b ∈ t.rows ∧ key b ≠ key a) := by
  have hfree : ∀ b ∈ (t.erase (key a)).rows, key b ≠ key a :=
    (find?_eq_none_iff _).mp t.find?_erase_self
  have herase : b ∈ (t.erase (key a)).rows ↔ b ∈ t.rows ∧ key b ≠ key a := by
    simp [erase]
  rw [put, mem_insert hfree, herase, or_comm]

lemma rows_put (a : α) : (t.put a).rows = t.rows.filter (fun b => key b ≠ key a) ++ [a] :=
  rows_insert ((find?_eq_none_iff _).mp t.find?_erase_self)

lemma countP_put_le_succ (p : α → Bool) (a : α) :
    (t.put a).rows.countP p ≤ t.rows.countP p + 1 := by
  rw [rows_put, countP_append]
  have hkept := List.Sublist.countP_le (p := p)
    (filter_sublist (p := fun b => decide (key b ≠ key a)) (l := t.rows))
  have hnew : [a].countP p ≤ 1 := countP_le_length
  omega

/-- A row that is replaced by one that counts only if it counted. -/
lemma countP_put_le {p : α → Bool} {old : α} (hfind : t.find? (key a) = some old)
    (hp : p a → p old) : (t.put a).rows.countP p ≤ t.rows.countP p := by
  obtain ⟨hmem, hkey⟩ := t.find?_eq_some_iff.mp hfind
  obtain ⟨before, after, hrows⟩ := append_of_mem hmem
  have hbefore := List.Sublist.countP_le (p := p)
    (filter_sublist (p := fun b => decide (key b ≠ key a)) (l := before))
  have hafter := List.Sublist.countP_le (p := p)
    (filter_sublist (p := fun b => decide (key b ≠ key a)) (l := after))
  have hnew : (if p a then 1 else 0) ≤ if p old then 1 else 0 := by
    split_ifs with ha hold
    · exact le_refl 1
    · exact absurd (hp ha) hold
    · exact Nat.zero_le 1
    · exact le_refl 0
  have hdropped : (old :: after).filter (fun b => decide (key b ≠ key a)) =
      after.filter fun b => decide (key b ≠ key a) := filter_cons_of_neg (by simp [hkey])
  simp only [rows_put, hrows, filter_append, hdropped, countP_append, countP_cons, countP_nil]
  omega

end

section

/-- The rows with `p`. -/
def filter (t : Table key) (p : α → Bool) : Table key :=
  ⟨t.rows.filter p, t.nodup.sublist (filter_sublist.map _)⟩

@[simp] lemma mem_filter {p : α → Bool} :
    a ∈ (t.filter p).rows ↔ a ∈ t.rows ∧ p a :=
  List.mem_filter

end

section

variable [DecidableEq κ]

/-- `t.update(u)`: the rows of `u`, and those of `t` whose key `u` does not have. -/
def merge (t u : Table key) : Table key :=
  ⟨(t.filter fun a => !u.contains (key a)).rows ++ u.rows, by
    rw [map_append, nodup_append]
    refine ⟨(t.filter _).nodup, u.nodup, ?_⟩
    rintro k hk l hl rfl
    obtain ⟨a, ha, rfl⟩ := mem_map.mp hk
    obtain ⟨b, hb, hkey⟩ := mem_map.mp hl
    have hfree := (mem_filter.mp ha).2
    simp only [Bool.not_eq_true', contains_eq_false_iff] at hfree
    exact hfree b hb hkey⟩

lemma find?_merge (t u : Table key) (k : κ) :
    (t.merge u).find? k = (u.find? k).or (t.find? k) := by
  cases hu : u.find? k with
  | some a =>
    obtain ⟨ha, hkey⟩ := u.find?_eq_some_iff.mp hu
    rw [Option.some_or, find?_eq_some_iff]
    exact ⟨mem_append_right _ ha, hkey⟩
  | none =>
    have hfree := u.find?_eq_none_iff.mp hu
    cases ht : t.find? k with
    | none =>
      rw [Option.none_or, find?_eq_none_iff]
      intro a ha
      obtain ha | ha := mem_append.mp ha
      · exact t.find?_eq_none_iff.mp ht a (mem_filter.mp ha).1
      · exact hfree a ha
    | some a =>
      obtain ⟨ha, hkey⟩ := t.find?_eq_some_iff.mp ht
      rw [Option.none_or, find?_eq_some_iff]
      refine ⟨mem_append_left _ (mem_filter.mpr ⟨ha, ?_⟩), hkey⟩
      rw [hkey, Bool.not_eq_true', contains_eq_false_iff]
      exact hfree

end

section

variable [DecidableEq κ]

/-- Rewrite the row with key `k` by `f`, which keeps keys. -/
def update (t : Table key) (k : κ) (f : α → α) (hf : ∀ a, key (f a) = key a) : Table key :=
  ⟨t.rows.map fun a => if key a = k then f a else a, by
    have hkeys : (t.rows.map fun a => if key a = k then f a else a).map key = t.rows.map key := by
      rw [map_map]
      refine map_congr_left fun a _ => ?_
      simp only [Function.comp_apply]
      split_ifs
      · exact hf a
      · rfl
    rw [hkeys]
    exact t.nodup⟩

variable {t : Table key} {k : κ} {f : α → α} {hf : ∀ a, key (f a) = key a}

lemma mem_update :
    b ∈ (t.update k f hf).rows ↔ ∃ a ∈ t.rows, (if key a = k then f a else a) = b := by
  simp [update]

/-- A rewriting that lowers no weight of the row it hits raises no total. -/
lemma sum_update_le [AddCommMonoid M] [PartialOrder M] [IsOrderedAddMonoid M]
    (w : α → M) (h : ∀ a ∈ t.rows, key a = k → w (f a) ≤ w a) :
    ((t.update k f hf).rows.map w).sum ≤ (t.rows.map w).sum := by
  simp only [update, map_map]
  refine sum_le_sum fun a ha => ?_
  simp only [Function.comp_apply]
  split_ifs with hk
  · exact h a ha hk
  · exact le_rfl

end

end Table

lemma pairwise_insertionSort_key [LinearOrder κ] (key : α → κ)
    [DecidableRel fun a b => key a ≤ key b] (l : List α) :
    (l.insertionSort fun a b => key a ≤ key b).Pairwise fun a b => key a ≤ key b := by
  have : Std.Total fun a b => key a ≤ key b := ⟨fun _ _ => le_total _ _⟩
  have : IsTrans α fun a b => key a ≤ key b := ⟨fun _ _ _ => le_trans⟩
  exact pairwise_insertionSort _ _

end StatePort
