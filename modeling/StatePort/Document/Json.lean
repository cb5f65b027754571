import StatePort.Document.Escape

/-!
# JSON documents

`Json` is what `json.loads` returns: `Value` with floats. The fields of an object are kept in the
order of their keys, so two objects that Python finds equal are the same value. A float is given
by the text that `json.dumps` writes for it, which tells floats apart.

`Json.text` is the text of a document under `sort_keys=True, separators=(",", ":")`.
-/

namespace StatePort

/-! ### Documents -/

def isNumberChar (c : Char) : Bool := c.isDigit || c ∈ ['-', '+', '.', 'e']

/-- The texts that `json.dumps` writes for floats: they do not look like integers. -/
def isFloatText (cs : List Char) : Bool :=
  cs ∈ ["NaN".toList, "Infinity".toList, "-Infinity".toList] ||
    (cs.all isNumberChar && cs.head?.any (fun c => c.isDigit || c = '-') &&
      cs.any fun c => c = '.' || c = 'e')

/-- A float, by the text that `json.dumps` writes for it. -/
structure FloatText where
  text : List Char
  valid : isFloatText text
deriving DecidableEq

inductive Json where
  | null
  | bool (value : Bool)
  | int (value : ℤ)
  | float (value : FloatText)
  | str (value : String)
  | list (items : List Json)
  | dict (fields : List (String × Json))

namespace Json

mutual

def same : Json → Json → Bool
  | .null, .null => true
  | .bool a, .bool b => a == b
  | .int a, .int b => a == b
  | .float a, .float b => decide (a = b)
  | .str a, .str b => a == b
  | .list a, .list b => sameItems a b
  | .dict a, .dict b => sameFields a b
  | _, _ => false

def sameItems : List Json → List Json → Bool
  | [], [] => true
  | v :: vs, w :: ws => same v w && sameItems vs ws
  | _, _ => false

def sameFields : List (String × Json) → List (String × Json) → Bool
  | [], [] => true
  | (k, v) :: vs, (l, w) :: ws => k == l && same v w && sameFields vs ws
  | _, _ => false

end

mutual

theorem same_iff : ∀ v w : Json, same v w ↔ v = w
  | .null, w | .bool a, w | .int a, w | .float a, w | .str a, w => by cases w <;> simp [same]
  | .list a, w => by cases w <;> simp [same, sameItems_iff a]
  | .dict a, w => by cases w <;> simp [same, sameFields_iff a]

theorem sameItems_iff : ∀ vs ws : List Json, sameItems vs ws ↔ vs = ws
  | [], ws => by cases ws <;> simp [sameItems]
  | v :: vs, ws => by cases ws <;> simp [sameItems, same_iff v, sameItems_iff vs]

theorem sameFields_iff : ∀ vs ws : List (String × Json), sameFields vs ws ↔ vs = ws
  | [], ws => by cases ws <;> simp [sameFields]
  | (k, v) :: vs, ws => by
    cases ws <;> simp [sameFields, same_iff v, sameFields_iff vs, Prod.ext_iff]

end

instance : DecidableEq Json := fun v w => decidable_of_iff _ (same_iff v w)

/-! ### Objects -/

/-- The order of fields in an object. -/
def fieldLE (a b : String × Json) : Bool := !Str.isLess b.1 a.1

/-- The object with these fields, whose keys are distinct. -/
def ofFields (fields : List (String × Json)) : Json :=
  .dict (fields.insertionSort fun a b => fieldLE a b)

def isDict : Json → Bool
  | .dict _ => true
  | _ => false

def fields : Json → List (String × Json)
  | .dict fields => fields
  | _ => []

variable (v : Json) (key : String)

/-- The value under `key`, if the object has one. -/
def get? : Option Json := v.fields.lookup key

/-- `v.get(key)`, for which a missing field and `None` are the same. -/
def get : Json := (v.get? key).getD .null

/-- The object without `key`. -/
def without : Json := .dict (v.fields.filter fun field => field.1 ≠ key)

/-! ### Python's equality -/

section

variable (valueOf : FloatText → Number)

/-- The value of a number; booleans are numbers. -/
def number? : Json → Option Number
  | .bool b => some (.finite (if b then 1 else 0))
  | .int n => some (.finite n)
  | .float x => some (valueOf x)
  | _ => none

/-- `x == y` for two numbers. -/
def sameNumber (v w : Json) : Bool :=
  match v.number? valueOf, w.number? valueOf with
  | some x, some y => x = y && x ≠ .nan
  | _, _ => false

mutual

/-- `v == w`: numbers are compared by value. -/
def pyEq : Json → Json → Bool
  | .null, .null => true
  | .str a, .str b => a = b
  | .list a, .list b => pyEqItems a b
  | .dict a, .dict b => pyEqFields a b
  | v, w => sameNumber valueOf v w

def pyEqItems : List Json → List Json → Bool
  | [], [] => true
  | v :: vs, w :: ws => pyEq v w && pyEqItems vs ws
  | _, _ => false

def pyEqFields : List (String × Json) → List (String × Json) → Bool
  | [], [] => true
  | (k, v) :: vs, (l, w) :: ws => k = l && pyEq v w && pyEqFields vs ws
  | _, _ => false

end

end

/-! ### Size -/

mutual

/-- The number of values and keys in a document. -/
def nodes : Json → ℕ
  | .list items => 1 + nodesItems items
  | .dict fields => 1 + nodesFields fields
  | _ => 1

def nodesItems : List Json → ℕ
  | [] => 0
  | v :: vs => v.nodes + nodesItems vs

def nodesFields : List (String × Json) → ℕ
  | [] => 0
  | (_, v) :: vs => 1 + v.nodes + nodesFields vs

end

mutual

/-- How deep a document is nested. -/
def depth : Json → ℕ
  | .list items => depthItems items
  | .dict fields => depthFields fields
  | _ => 0

def depthItems : List Json → ℕ
  | [] => 0
  | v :: vs => max (1 + v.depth) (depthItems vs)

def depthFields : List (String × Json) → ℕ
  | [] => 0
  | (_, v) :: vs => max (1 + v.depth) (depthFields vs)

end

mutual

/-- No number in the document is `NaN` or infinite, as `allow_nan=False` requires. -/
def isFinite : Json → Bool
  | .float x => x.text ∉ ["NaN".toList, "Infinity".toList, "-Infinity".toList]
  | .list items => isFiniteItems items
  | .dict fields => isFiniteFields fields
  | _ => true

def isFiniteItems : List Json → Bool
  | [] => true
  | v :: vs => v.isFinite && isFiniteItems vs

def isFiniteFields : List (String × Json) → Bool
  | [] => true
  | (_, v) :: vs => v.isFinite && isFiniteFields vs

end

/-! ### Text -/

variable (esc : Escape)

mutual

/-- `json.dumps(v, sort_keys=True, separators=(",", ":"))`. -/
def text : Json → List Char
  | .null => "null".toList
  | .bool true => "true".toList
  | .bool false => "false".toList
  | .int n => (toString n).toList
  | .float x => x.text
  | .str s => esc.string s
  | .list items => '[' :: Str.join [','] (textItems items) ++ [']']
  | .dict fields => Char.ofNat 123 :: Str.join [','] (textFields fields) ++ [Char.ofNat 125]

def textItems : List Json → List (List Char)
  | [] => []
  | v :: vs => v.text :: textItems vs

def textFields : List (String × Json) → List (List Char)
  | [] => []
  | (k, v) :: vs => (esc.string k ++ ':' :: v.text) :: textFields vs

end

end Json

end StatePort
