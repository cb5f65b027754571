import StatePort.Python.Basic

/-!
# Documents

`Value` is what the YAML parser returns and `json.dumps` accepts: scalars, lists and mappings with
string keys. The fields of a mapping are kept in the order of their keys (`ofFields`, `set`), so
two mappings that Python finds equal are the same value. `json` is the canonical JSON text of a
document, over which its digest is taken.
-/

namespace StatePort

open Str

/-- A parsed document. -/
inductive Value where
  | null
  | bool (value : Bool)
  | int (value : ℤ)
  | str (value : String)
  | list (items : List Value)
  | dict (fields : List (String × Value))

namespace Value

/-! ### Equality

The recursion goes through lists of documents and of fields, so equality is decided by three
functions, one for each. -/

mutual

def same : Value → Value → Bool
  | .null, .null => true
  | .bool a, .bool b => a == b
  | .int a, .int b => a == b
  | .str a, .str b => a == b
  | .list a, .list b => sameItems a b
  | .dict a, .dict b => sameFields a b
  | _, _ => false

def sameItems : List Value → List Value → Bool
  | [], [] => true
  | v :: vs, w :: ws => same v w && sameItems vs ws
  | _, _ => false

def sameFields : List (String × Value) → List (String × Value) → Bool
  | [], [] => true
  | (k, v) :: vs, (l, w) :: ws => k == l && same v w && sameFields vs ws
  | _, _ => false

end

mutual

theorem same_iff : ∀ v w : Value, same v w ↔ v = w
  | .null, w | .bool a, w | .int a, w | .str a, w => by cases w <;> simp [same]
  | .list a, w => by cases w <;> simp [same, sameItems_iff a]
  | .dict a, w => by cases w <;> simp [same, sameFields_iff a]

theorem sameItems_iff : ∀ vs ws : List Value, sameItems vs ws ↔ vs = ws
  | [], ws => by cases ws <;> simp [sameItems]
  | v :: vs, ws => by cases ws <;> simp [sameItems, same_iff v, sameItems_iff vs]

theorem sameFields_iff : ∀ vs ws : List (String × Value), sameFields vs ws ↔ vs = ws
  | [], ws => by cases ws <;> simp [sameFields]
  | (k, v) :: vs, ws => by
    cases ws <;> simp [sameFields, same_iff v, sameFields_iff vs, Prod.ext_iff]

end

instance : DecidableEq Value := fun v w => decidable_of_iff _ (same_iff v w)

/-! ### Mappings -/

/-- The order of fields in a mapping. -/
def fieldLE (a b : String × Value) : Bool := !isLess b.1 a.1

/-- The mapping with these fields, whose keys are distinct. -/
def ofFields (fields : List (String × Value)) : Value :=
  .dict (fields.insertionSort fun a b => fieldLE a b)

def isDict : Value → Bool
  | .dict _ => true
  | _ => false

def fields : Value → List (String × Value)
  | .dict fields => fields
  | _ => []

variable (v : Value) (key : String)

/-- The value under `key`, if the mapping has one. -/
def get? : Option Value := v.fields.lookup key

/-- `v.get(key)`, for which a missing field and `None` are the same. -/
def get : Value := (v.get? key).getD .null

/-- The mapping without `key`. -/
def without : Value := .dict (v.fields.filter fun field => field.1 ≠ key)

/-- `v[key] = value`. -/
def set (value : Value) : Value :=
  .dict (List.orderedInsert (fun a b => fieldLE a b) (key, value) (v.without key).fields)

def items : Value → List Value
  | .list items => items
  | _ => []

def str? : Value → Option String
  | .str s => some s
  | _ => none

/-! ### Canonical JSON -/

/-- The four hexadecimal digits of a UTF-16 unit. -/
def hex4 (n : ℕ) : List Char :=
  [n / 4096 % 16, n / 256 % 16, n / 16 % 16, n % 16].map Nat.digitChar

/-- `\uXXXX`. -/
def unicodeEscape (n : ℕ) : List Char := backslash :: 'u' :: hex4 n

/-- One character of a JSON string under `ensure_ascii`. -/
def jsonChar (c : Char) : List Char :=
  let n := c.toNat
  if c = doubleQuote then [backslash, doubleQuote]
  else if c = backslash then [backslash, backslash]
  else if n = 10 then [backslash, 'n']
  else if n = 13 then [backslash, 'r']
  else if n = 9 then [backslash, 't']
  else if n = 12 then [backslash, 'f']
  else if n = 8 then [backslash, 'b']
  else if 32 ≤ n ∧ n < 127 then [c]
  else if n < 0x10000 then unicodeEscape n
  else unicodeEscape (0xd800 + (n - 0x10000) / 1024) ++
    unicodeEscape (0xdc00 + (n - 0x10000) % 1024)

def jsonString (s : String) : List Char :=
  doubleQuote :: s.toList.flatMap jsonChar ++ [doubleQuote]

mutual

/-- `json.dumps(v, sort_keys=True, separators=(",", ":"), ensure_ascii=True)`. -/
def json : Value → List Char
  | .null => "null".toList
  | .bool true => "true".toList
  | .bool false => "false".toList
  | .int n => (toString n).toList
  | .str s => jsonString s
  | .list items => '[' :: join [','] (jsonItems items) ++ [']']
  | .dict fields => Char.ofNat 123 :: join [','] (jsonFields fields) ++ [Char.ofNat 125]

def jsonItems : List Value → List (List Char)
  | [] => []
  | v :: vs => v.json :: jsonItems vs

def jsonFields : List (String × Value) → List (List Char)
  | [] => []
  | (k, v) :: vs => (jsonString k ++ ':' :: v.json) :: jsonFields vs

end

end Value

end StatePort
