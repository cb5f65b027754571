import StatePort.Document.Json

/-!
# Writing Python data as JSON

`json.dumps(data, sort_keys=True)` and `json.loads` on data whose objects may have keys of other types
than strings. `dumps` is the document whose text is written: keys are compared as Python compares
them, and then become strings. `loads` is the document that is read from the text of another one;
there the keys are strings, and their order is the order of strings.

Data that `json` cannot write is `PyData.object`. `valueOf` gives the values of floats. A float key
is not `NaN`.
-/

namespace StatePort

inductive PyKey where
  | none
  | bool (value : Bool)
  | int (value : ℤ)
  | float (value : FloatText) (ordered : value.text ≠ "NaN".toList)
  | str (value : String)
deriving DecidableEq

inductive PyData where
  | none
  | bool (value : Bool)
  | int (value : ℤ)
  | float (value : FloatText)
  | str (value : String)
  | list (items : List PyData)
  | dict (fields : List (PyKey × PyData))
  | object

/-- `x < y` for two numbers. -/
def Number.isLess : Number → Number → Bool
  | .finite a, .finite b => a < b
  | .negInfinity, .finite _ | .negInfinity, .infinity | .finite _, .infinity => true
  | _, _ => false

namespace PyKey

variable (valueOf : FloatText → Number)

def text : PyKey → String
  | .none => "null"
  | .bool true => "true"
  | .bool false => "false"
  | .int n => toString n
  | .float x _ => String.ofList x.text
  | .str s => s

def number? : PyKey → Option Number
  | .bool b => some (.finite (if b then 1 else 0))
  | .int n => some (.finite n)
  | .float x _ => some (valueOf x)
  | .none | .str _ => Option.none

def isStr : PyKey → Bool
  | .str _ => true
  | _ => false

/-- `a < b`, for keys that can be compared. -/
def isLess (a b : PyKey) : Bool :=
  match a, b with
  | .str s, .str t => Str.isLess s t
  | a, b =>
    match a.number? valueOf, b.number? valueOf with
    | some x, some y => x.isLess y
    | _, _ => false

/-- Whether Python can sort the keys: a sort compares keys of every kind that occurs. -/
def sortable (keys : List PyKey) : Bool :=
  keys.length ≤ 1 || keys.all isStr || keys.all fun key => (key.number? valueOf).isSome

end PyKey

namespace PyData

variable (valueOf : FloatText → Number)

/-- The fields in the order of their keys, and then with the texts of their keys. -/
def sortFields (fields : List (PyKey × Json)) : List (String × Json) :=
  (fields.insertionSort fun a b => !PyKey.isLess valueOf b.1 a.1).map fun field =>
    (field.1.text, field.2)

mutual

/-- The document that `json.dumps(data, sort_keys=True)` writes. -/
def dumps : PyData → Option Json
  | .none => some .null
  | .bool b => some (.bool b)
  | .int n => some (.int n)
  | .float x => some (.float x)
  | .str s => some (.str s)
  | .list items => (dumpsItems items).map .list
  | .dict fields =>
    if PyKey.sortable valueOf (fields.map Prod.fst) then
      (dumpsFields fields).map fun fields => .dict (sortFields valueOf fields)
    else Option.none
  | .object => Option.none

def dumpsItems : List PyData → Option (List Json)
  | [] => some []
  | v :: vs => do
    let doc ← v.dumps
    let docs ← dumpsItems vs
    return doc :: docs

def dumpsFields : List (PyKey × PyData) → Option (List (PyKey × Json))
  | [] => some []
  | (k, v) :: vs => do
    let doc ← v.dumps
    let docs ← dumpsFields vs
    return (k, doc) :: docs

end

mutual

/-- Every key is a string, and no object has a key twice. -/
def isStrKeyed : PyData → Bool
  | .list items => isStrKeyedItems items
  | .dict fields => (fields.map Prod.fst).all PyKey.isStr && decide (fields.map Prod.fst).Nodup &&
    isStrKeyedFields fields
  | _ => true

def isStrKeyedItems : List PyData → Bool
  | [] => true
  | v :: vs => v.isStrKeyed && isStrKeyedItems vs

def isStrKeyedFields : List (PyKey × PyData) → Bool
  | [] => true
  | (_, v) :: vs => v.isStrKeyed && isStrKeyedFields vs

end

end PyData

namespace Json

/-- Of the fields with one key, the last one. -/
def lastWins : List (String × Json) → List (String × Json)
  | [] => []
  | field :: fields =>
    if field.1 ∈ fields.map Prod.fst then lastWins fields else field :: lastWins fields

mutual

/-- The document that `json.loads` reads from the text of a document. -/
def loads : Json → Json
  | .list items => .list (loadsItems items)
  | .dict fields => ofFields (lastWins (loadsFields fields))
  | v => v

def loadsItems : List Json → List Json
  | [] => []
  | v :: vs => v.loads :: loadsItems vs

def loadsFields : List (String × Json) → List (String × Json)
  | [] => []
  | (k, v) :: vs => (k, v.loads) :: loadsFields vs

end

end Json

end StatePort
