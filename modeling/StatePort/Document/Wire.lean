import StatePort.Document.Json

/-!
# JSON values as they arrive

`Wire` is what `json.loads` returns for a line that another process wrote. Its strings are sequences
of code points, among which there may be lone surrogates: `json.loads` reads them from escapes, and
no UTF-8 text has them. Objects keep the order of their fields.

`Wire.text` is the text under `sort_keys=True, separators=(",", ":"), ensure_ascii=False`, and
`Wire.pyEq` is Python's `==`.
-/

namespace StatePort

/-- A code point, which need not be a character. -/
abbrev CodePoint := Fin 0x110000

abbrev PyStr := List CodePoint

instance neZeroCodePoints : NeZero 0x110000 := ⟨by decide⟩

instance : LawfulBEq CodePoint := inferInstance

instance : LawfulBEq PyStr := inferInstance

variable (s : PyStr) (c : CodePoint)

namespace PyStr

def codePoint (c : Char) : CodePoint := ⟨c.toNat, by
  rcases c.valid with h | h
  · exact Nat.lt_trans h (by decide)
  · exact h.2⟩

def of (s : String) : PyStr := s.toList.map codePoint

instance : Coe String PyStr := ⟨of⟩

/-- A code point that UTF-8 does not encode. -/
def isSurrogate : Bool := 0xd800 ≤ c.val && c.val ≤ 0xdfff

/-- Whether `s.encode("utf-8")` succeeds. -/
def isEncodable : Bool := s.all fun c => !isSurrogate c

/-- The length of `s.encode("utf-8")`. -/
def utf8Length : ℕ :=
  (s.map fun c => if c.val < 0x80 then 1 else if c.val < 0x800 then 2
    else if c.val < 0x10000 then 3 else 4).sum

/-- `c.isspace()`. -/
def isSpace : Bool :=
  let n := c.val
  (9 ≤ n && n ≤ 13) || (28 ≤ n && n ≤ 32) || n == 0x85 || n == 0xa0 || n == 0x1680 ||
    (0x2000 ≤ n && n ≤ 0x200a) || n == 0x2028 || n == 0x2029 || n == 0x202f || n == 0x205f ||
    n == 0x3000

/-- `not s.strip()`. -/
def isBlank : Bool := s.all isSpace

/-- `s.strip()`. -/
def strip : PyStr := ((s.dropWhile isSpace).reverse.dropWhile isSpace).reverse

/-- `s.startswith(p)`. -/
def startsWith (s p : PyStr) : Bool := p.isPrefixOf s

/-- `p in s`. -/
def hasSubstring (s p : PyStr) : Bool := s.tails.any fun t => p.isPrefixOf t

/-- `s < t`. -/
def isLess (s t : PyStr) : Bool := Str.lexLT (fun c d => decide (c < d)) s t

/-- A decimal numeral. -/
def ofNat (n : ℕ) : PyStr := of (toString n)

end PyStr

/-- A JSON value as it arrives. -/
inductive Wire where
  | null
  | bool (value : Bool)
  | int (value : ℤ)
  | float (value : FloatText)
  | str (value : PyStr)
  | list (items : List Wire)
  | dict (fields : List (PyStr × Wire))

namespace Wire

def fields : Wire → List (PyStr × Wire)
  | .dict fields => fields
  | _ => []

def isDict : Wire → Bool
  | .dict _ => true
  | _ => false

def isNull : Wire → Bool
  | .null => true
  | _ => false

/-- `key in v`, for an object. -/
def has (v : Wire) (key : PyStr) : Bool := v.fields.any fun field => field.1 = key

/-- `v[key]`, for an object that has the key; `v.get(key)` otherwise. -/
def get (v : Wire) (key : PyStr) : Wire := (v.fields.lookup key).getD .null

/-- `v == s`, for a string. -/
def isStr (v : Wire) (s : PyStr) : Bool :=
  match v with
  | .str t => t = s
  | _ => false

/-- A list or an object, which no set can hold. -/
def isUnhashable : Wire → Bool
  | .list _ | .dict _ => true
  | _ => false

/-! ### Equality -/

section

variable (valueOf : FloatText → Number)

/-- The value of a number; booleans are numbers. -/
def number? : Wire → Option Number
  | .bool b => some (.finite (if b then 1 else 0))
  | .int n => some (.finite n)
  | .float x => some (valueOf x)
  | _ => none

/-- `v == w` for two numbers. -/
def sameNumber (v w : Wire) : Bool :=
  match v.number? valueOf, w.number? valueOf with
  | some x, some y => x = y && x ≠ .nan
  | _, _ => false

mutual

/-- `v == w`. -/
def pyEq : Wire → Wire → Bool
  | .null, .null => true
  | .str a, .str b => a = b
  | .list a, .list b => pyEqItems a b
  | .dict a, .dict b => a.length = b.length && pyEqFields a b
  | v, w => sameNumber valueOf v w

def pyEqItems : List Wire → List Wire → Bool
  | [], [] => true
  | v :: vs, w :: ws => pyEq v w && pyEqItems vs ws
  | _, _ => false

/-- Every field of the first object is in the second. -/
def pyEqFields : List (PyStr × Wire) → List (PyStr × Wire) → Bool
  | [], _ => true
  | (k, v) :: vs, ws =>
    (match ws.lookup k with
      | some w => pyEq v w
      | none => false) && pyEqFields vs ws

end

end

/-! ### Text -/

/-- One code point of a JSON string without `ensure_ascii`. -/
def textChar : PyStr :=
  if c = 34 then "\\\""
  else if c = 92 then "\\\\"
  else if c = 10 then "\\n"
  else if c = 13 then "\\r"
  else if c = 9 then "\\t"
  else if c = 12 then "\\f"
  else if c = 8 then "\\b"
  else if c < 32 then (Value.unicodeEscape c.val).map PyStr.codePoint
  else [c]

def textString : PyStr := 34 :: s.flatMap textChar ++ [34]

/-- The order of fields under `sort_keys`. -/
def fieldLE (a b : PyStr × PyStr) : Bool := !PyStr.isLess b.1 a.1

/-- `key: value` pairs in the order of their keys, separated by commas. -/
def textObject (fields : List (PyStr × PyStr)) : PyStr :=
  let sorted := fields.insertionSort fun a b => fieldLE a b
  123 :: List.intercalate [44] (sorted.map fun field => textString field.1 ++ 58 :: field.2)
    ++ [125]

mutual

/-- `json.dumps(v, sort_keys=True, separators=(",", ":"), ensure_ascii=False)`. -/
def text : Wire → PyStr
  | .null => "null"
  | .bool true => "true"
  | .bool false => "false"
  | .int n => PyStr.of (toString n)
  | .float x => x.text.map PyStr.codePoint
  | .str s => textString s
  | .list items => 91 :: List.intercalate [44] (textItems items) ++ [93]
  | .dict fields => textObject (textFields fields)

def textItems : List Wire → List PyStr
  | [] => []
  | v :: vs => v.text :: textItems vs

def textFields : List (PyStr × Wire) → List (PyStr × PyStr)
  | [] => []
  | (k, v) :: vs => (k, v.text) :: textFields vs

end

end Wire

end StatePort
