import StatePort.Document.Dumps

/-!
# Equality of Python data

`v == w` on data that `json.dumps` can write: numbers are compared by value, and a dictionary equals
another if both have the same keys with equal values, in any order. `isWellFormed` says that no
dictionary has two keys that Python takes for one, and `isWritable` that every number in the data is
one that `json.dumps(data, allow_nan=False)` writes. Such data equals itself (`pyEq_refl`).
-/

namespace StatePort

/-- What Python tells keys apart by. -/
inductive KeyId where
  | none
  | number (value : Number)
  | str (value : String)
deriving DecidableEq

/-- Whether `str` writes an integer: one of more than 4300 digits raises `ValueError`. -/
def isShortInt (n : ℤ) : Bool := (Nat.toDigits 10 n.natAbs).length ≤ 4300

def Number.isFinite : Number → Bool
  | .finite _ => true
  | _ => false

namespace PyKey

variable (valueOf : FloatText → Number)

def keyId : PyKey → KeyId
  | .none => .none
  | .bool b => .number (.finite (if b then 1 else 0))
  | .int n => .number (.finite n)
  | .float x _ => .number (valueOf x)
  | .str s => .str s

/-- Whether `json.dumps(..., allow_nan=False)` writes the key. -/
def isWritable : PyKey → Bool
  | .int n => isShortInt n
  | .float x _ => (valueOf x).isFinite
  | _ => true

end PyKey

namespace PyData

variable (valueOf : FloatText → Number)

/-- The value of a number; booleans are numbers. -/
def number? : PyData → Option Number
  | .bool b => some (.finite (if b then 1 else 0))
  | .int n => some (.finite n)
  | .float x => some (valueOf x)
  | _ => Option.none

/-- `v == w` for two numbers. -/
def sameNumber (v w : PyData) : Bool :=
  match v.number? valueOf, w.number? valueOf with
  | some x, some y => x = y && x ≠ .nan
  | _, _ => false

/-- The field with a key that equals `key`. -/
def findKey (fields : List (PyKey × PyData)) (key : PyKey) : Option (PyKey × PyData) :=
  fields.find? fun field => field.1.keyId valueOf = key.keyId valueOf

mutual

/-- `v == w`. -/
def pyEq : PyData → PyData → Bool
  | .none, .none => true
  | .str a, .str b => a = b
  | .list a, .list b => pyEqItems a b
  | .dict a, .dict b => a.length = b.length && pyEqFields a b
  | v, w => sameNumber valueOf v w

def pyEqItems : List PyData → List PyData → Bool
  | [], [] => true
  | v :: vs, w :: ws => v.pyEq w && pyEqItems vs ws
  | _, _ => false

/-- Every field of the first dictionary is in the second. -/
def pyEqFields : List (PyKey × PyData) → List (PyKey × PyData) → Bool
  | [], _ => true
  | (k, v) :: vs, ws =>
    (match findKey valueOf ws k with
      | some field => v.pyEq field.2
      | Option.none => false) && pyEqFields vs ws

end

mutual

/-- No dictionary has two keys that are equal. -/
def isWellFormed : PyData → Bool
  | .list items => isWellFormedItems items
  | .dict fields =>
    decide (fields.map fun field => field.1.keyId valueOf).Nodup && isWellFormedFields fields
  | _ => true

def isWellFormedItems : List PyData → Bool
  | [] => true
  | v :: vs => v.isWellFormed && isWellFormedItems vs

def isWellFormedFields : List (PyKey × PyData) → Bool
  | [] => true
  | (_, v) :: vs => v.isWellFormed && isWellFormedFields vs

end

mutual

/-- `json.dumps(..., allow_nan=False)` writes every number in the data. -/
def isWritable : PyData → Bool
  | .int n => isShortInt n
  | .float x => (valueOf x).isFinite
  | .list items => isWritableItems items
  | .dict fields => isWritableFields fields
  | .object => false
  | _ => true

def isWritableItems : List PyData → Bool
  | [] => true
  | v :: vs => v.isWritable && isWritableItems vs

def isWritableFields : List (PyKey × PyData) → Bool
  | [] => true
  | (k, v) :: vs => k.isWritable valueOf && v.isWritable && isWritableFields vs

end

variable {valueOf}

lemma sameNumber_self {v : PyData} {x : Number} (h : v.number? valueOf = some x)
    (hx : x ≠ .nan) : sameNumber valueOf v v := by
  simp [sameNumber, h, hx]

/-- Among fields with distinct keys, each is found under its own key. -/
lemma findKey_of_mem {fields : List (PyKey × PyData)}
    (h : (fields.map fun field => field.1.keyId valueOf).Nodup) {field : PyKey × PyData}
    (hmem : field ∈ fields) : findKey valueOf fields field.1 = some field := by
  cases hfind : findKey valueOf fields field.1 with
  | none =>
    have hnot := List.find?_eq_none.mp hfind field hmem
    simp at hnot
  | some other =>
    have hid : other.1.keyId valueOf = field.1.keyId valueOf := by simpa using List.find?_some hfind
    rw [List.inj_on_of_nodup_map h (List.mem_of_find?_eq_some hfind) hmem hid]

mutual

/-- Data that `json.dumps` writes equals itself. -/
theorem pyEq_refl : ∀ v : PyData, v.isWellFormed valueOf → v.isWritable valueOf →
    v.pyEq valueOf v
  | .none, _, _ => rfl
  | .bool b, _, _ => by
    rw [pyEq]
    · exact sameNumber_self (v := .bool b) rfl (by simp)
    all_goals simp
  | .int n, _, _ => by
    rw [pyEq]
    · exact sameNumber_self (v := .int n) rfl (by simp)
    all_goals simp
  | .float x, _, hwritable => by
    rw [pyEq]
    · refine sameNumber_self (v := .float x) rfl ?_
      intro hnan
      simp [isWritable, hnan, Number.isFinite] at hwritable
    all_goals simp
  | .str s, _, _ => by simp [pyEq]
  | .list items, hwf, hwritable => by
    rw [isWellFormed] at hwf
    rw [isWritable] at hwritable
    rw [pyEq]
    exact pyEqItems_refl items hwf hwritable
  | .dict fields, hwf, hwritable => by
    simp only [isWellFormed, Bool.and_eq_true, decide_eq_true_eq] at hwf
    have hfields := pyEqFields_refl fields hwf.2 hwritable fields fun field hmem =>
      findKey_of_mem hwf.1 hmem
    simp [pyEq, hfields]
  | .object, _, hwritable => by simp [isWritable] at hwritable

theorem pyEqItems_refl : ∀ items : List PyData, isWellFormedItems valueOf items →
    isWritableItems valueOf items → pyEqItems valueOf items items
  | [], _, _ => rfl
  | v :: vs, hwf, hwritable => by
    simp only [isWellFormedItems, Bool.and_eq_true] at hwf
    simp only [isWritableItems, Bool.and_eq_true] at hwritable
    simp only [pyEqItems, Bool.and_eq_true]
    exact ⟨pyEq_refl v hwf.1 hwritable.1, pyEqItems_refl vs hwf.2 hwritable.2⟩

/-- The second list is fixed while the recursion goes down the first. -/
theorem pyEqFields_refl : ∀ fields : List (PyKey × PyData),
    isWellFormedFields valueOf fields → isWritableFields valueOf fields →
    ∀ others : List (PyKey × PyData),
      (∀ field ∈ fields, findKey valueOf others field.1 = some field) →
      pyEqFields valueOf fields others
  | [], _, _, _, _ => rfl
  | (k, v) :: vs, hwf, hwritable, others, hfound => by
    simp only [isWellFormedFields, Bool.and_eq_true] at hwf
    simp only [isWritableFields, Bool.and_eq_true] at hwritable
    have hhead : findKey valueOf others k = some (k, v) := hfound (k, v) List.mem_cons_self
    simp only [pyEqFields, hhead, Bool.and_eq_true]
    exact ⟨pyEq_refl v hwf.1 hwritable.1.2,
      pyEqFields_refl vs hwf.2 hwritable.2 others fun field hmem =>
        hfound field (List.mem_cons_of_mem _ hmem)⟩

end

end PyData

end StatePort
