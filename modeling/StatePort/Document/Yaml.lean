import StatePort.Algorithm.Raise
import StatePort.Document.Value

/-!
# The YAML subset

`packages/statedd-core/src/statedd_core/yaml.py`: a line is preprocessed into its indentation and
content, and blocks are parsed by recursive descent.

A parsing function takes the lines that are left and returns the lines it leaves, where the source
passes an index. `parse_block` calls itself through `parse_sequence` and `parse_mapping` with a
smaller `max_depth`; here the two take the parser of nested blocks as an argument and
`parseBlock` ties the knot by recursion on the depth. Each turn of a loop consumes a line, so the
number of lines bounds the turns (`fuel`).
-/

namespace StatePort.Yaml

open Str String

/-- `StateDDYamlError`, with what its message names. -/
inductive YamlError where
  | floatScalar (value : List Char)
  | positiveSign (value : List Char)
  | booleanScalar (value : List Char)
  | specialScalar (value : List Char)
  | tabIndentation (lineno : ℕ)
  | unexpectedContent (lineno : ℕ) (content : List Char)
  | tooDeep
  | duplicateKey (lineno : ℕ) (key : List Char)
  | expectedKeyValue (lineno : ℕ)
  | emptyKey (lineno : ℕ)
deriving DecidableEq

/-! ### Scalars -/

/-- The part of a value before its comment. A `#` starts a comment at the start of the value or
after white space, outside quotes; a backslash hides the next character. -/
def beforeComment (inQuote : Option Char) (escaped : Bool) (previous : Option Char) :
    List Char → List Char
  | [] => []
  | c :: cs =>
    if escaped then c :: beforeComment inQuote false (some c) cs
    else if c = backslash then c :: beforeComment inQuote true (some c) cs
    else if c = apostrophe ∨ c = doubleQuote then
      let inQuote := if inQuote = some c then none else if inQuote = none then some c else inQuote
      c :: beforeComment inQuote false (some c) cs
    else if c = '#' ∧ inQuote = none ∧ previous.all isSpace then []
    else c :: beforeComment inQuote false (some c) cs

variable (value : List Char)

def stripInlineComment : List Char :=
  rstrip (beforeComment none false none value)

/-- Whether a value starts and ends with `quote`, as `value.startswith` and `value.endswith` do. -/
def isQuotedBy (quote : Char) (value : List Char) : Bool :=
  value.head? = some quote && value.getLast? = some quote

/-- A value without the signs `+` and `-` that may start it. -/
def unsigned (signs : List Char) : List Char → List Char
  | [] => []
  | c :: cs => if c ∈ signs then cs else c :: cs

/-- `re.fullmatch(r"-?\d+", value)`. -/
def isInteger : Bool := isDigits (unsigned ['-'] value)

/-- `re.fullmatch(r"[+-]?\d+\.\d*|\.\d+|[+-]?\.\d+", value)`. -/
def isFloat : Bool :=
  match (unsigned ['+', '-'] value).span fun c => (digit? c).isSome with
  | (whole, '.' :: fraction) =>
    fraction.all (fun c => (digit? c).isSome) && (whole ≠ [] || fraction ≠ [])
  | _ => false

/-- `int(value)` for a value that `isInteger` accepts; a number of more than 4300 digits is
refused. -/
def int? : Option ℤ :=
  let digits := unsigned ['-'] value
  if 4300 < digits.length then none
  else if value.head? = some '-' then some (-(ofDigits digits : ℤ))
  else some (ofDigits digits)

/-- The scalar forms that are rejected, then the plain string. -/
def plainScalar : Except YamlError Value := do
  raiseIf (isFloat value) (.floatScalar value)
  raiseIf (value.head? = some '+' ∧ isDigits (value.drop 1)) (.positiveSign value)
  raiseIf (lower value ∈ ["yes", "no", "on", "off", "y", "n"].map toList)
    (.booleanScalar value)
  raiseIf (lower value ∈ [".inf", "-.inf", "+.inf", ".nan", "nan", "~"].map toList)
    (.specialScalar value)
  return .str (ofList value)

/-- `scalar`, for a value whose comment is stripped. -/
def scalarOf : Except YamlError Value :=
  if value = [] then .ok (.str "")
  else if value = ['[', ']'] ∨ value = ['[', ' ', ']'] then .ok (.list [])
  else if value = [Char.ofNat 123, Char.ofNat 125] ∨
    value = [Char.ofNat 123, ' ', Char.ofNat 125] then .ok (.dict [])
  else if lower value = "null".toList then .ok .null
  else if lower value = "true".toList then .ok (.bool true)
  else if lower value = "false".toList then .ok (.bool false)
  else if isQuotedBy doubleQuote value ∨ isQuotedBy apostrophe value then
    .ok (.str (ofList (value.drop 1).dropLast))
  else if isInteger value then
    match int? value with
    | some n => .ok (.int n)
    | none => plainScalar value
  else plainScalar value

def scalar : Except YamlError Value :=
  scalarOf (stripInlineComment (rstrip (lstrip value)))

/-! ### Lines -/

/-- `(indent, content, lineno)`. -/
structure Line where
  indent : ℕ
  content : List Char
  lineno : ℕ

/-- The number of spaces that start a line. -/
def indentOf (raw : List Char) : ℕ := (raw.takeWhile (· = ' ')).length

/-- What `preprocess_yaml` keeps of one line: nothing of a comment line, no content of a blank
one. -/
def preprocessLine (raw : List Char) (lineno : ℕ) : Except YamlError (Option Line) :=
  let stripped := rstrip (lstrip raw)
  if stripped.head? = some '#' then .ok none
  else if stripped = [] then .ok (some ⟨indentOf raw, [], lineno⟩)
  else if '\t' ∈ raw.take (indentOf raw) then .error (.tabIndentation lineno)
  else .ok (some ⟨indentOf raw, rstrip (raw.drop (indentOf raw)), lineno⟩)

/-- `preprocess_yaml` from line `lineno` on. -/
def preprocessFrom (lineno : ℕ) : List (List Char) → Except YamlError (List Line)
  | [] => .ok []
  | raw :: rest => do
    let line ← preprocessLine raw lineno
    let lines ← preprocessFrom (lineno + 1) rest
    return line.toList ++ lines

variable (text : List Char)

def preprocessYaml : Except YamlError (List Line) :=
  preprocessFrom 1 (splitlines text)

/-! ### Block scalars -/

/-- `content.startswith("- ")`. -/
def isItem (content : List Char) : Bool := ['-', ' '].isPrefixOf content

/-- The lines of a block scalar, without its indentation, and the lines after it. -/
def blockScalarParts (minIndent : ℕ) (blockIndent : Option ℕ) :
    List Line → List (List Char) × List Line
  | [] => ([], [])
  | line :: rest =>
    if line.content ≠ [] ∧ line.indent < minIndent then ([], line :: rest)
    else
      let blockIndent :=
        if blockIndent = none ∧ line.content ≠ [] then some line.indent else blockIndent
      -- `block_indent or indent`: a block indentation of zero counts as none
      let base := if blockIndent = some 0 then line.indent else blockIndent.getD line.indent
      let (parts, after) := blockScalarParts minIndent blockIndent rest
      ((List.replicate (line.indent - base) ' ' ++ line.content) :: parts, after)

/-- The paragraphs of `_format_folded`; `current` holds the lines of the open one. -/
def foldedParagraphs (current : List (List Char)) : List (List Char) → List (List Char)
  | [] => if current = [] then [] else [join [' '] current]
  | line :: rest =>
    if line = [] then
      (if current = [] then [] else [join [' '] current]) ++ [] :: foldedParagraphs [] rest
    else foldedParagraphs (current ++ [line]) rest

def formatFolded (lines : List (List Char)) : List Char :=
  join ['\n'] (foldedParagraphs [] lines)

def parseBlockScalar (lines : List Line) (minIndent : ℕ) (folded : Bool) : Value × List Line :=
  let (parts, rest) := blockScalarParts minIndent none lines
  (.str (ofList (if folded then formatFolded parts else join ['\n'] parts)), rest)

/-! ### Blocks -/

/-- A parser of the block that starts with the given lines, at the given indentation. -/
abbrev BlockParser := List Line → ℕ → Except YamlError (Value × List Line)

def splitKeyValue (content : List Char) (lineno : ℕ) :
    Except YamlError (List Char × List Char) := do
  raiseIf (':' ∉ content) (.expectedKeyValue lineno)
  let (key, value) := content.span (· ≠ ':')
  let key := rstrip (lstrip key)
  raiseIf (key = []) (.emptyKey lineno)
  return (key, rstrip (lstrip (value.drop 1)))

variable (block : BlockParser) (lines : List Line) (indent : ℕ)

/-- The nested block under a key or a dash, if the next line is indented further. -/
def parseNested (default : Value) : Except YamlError (Value × List Line) :=
  match lines with
  | [] => .ok (default, [])
  | line :: _ => if indent < line.indent then block lines line.indent else .ok (default, lines)

/-- The value of a field whose text after the colon is `valueText`. -/
def parseFieldValue (valueText : List Char) : Except YamlError (Value × List Line) :=
  if valueText = ['|'] ∨ valueText = ['>'] then
    .ok (parseBlockScalar lines (indent + 2) (valueText = ['>']))
  else if valueText = [] then parseNested block lines indent (.dict [])
  else do
    let value ← scalar valueText
    return (value, lines)

/-- The loop of `parse_mapping`; `mapping` holds the fields so far, in the order of the text. -/
def mappingLoop (block : BlockParser) (indent : ℕ) :
    ℕ → List (String × Value) → List Line → Except YamlError (List (String × Value) × List Line)
  | 0, mapping, lines => .ok (mapping, lines)
  | _ + 1, mapping, [] => .ok (mapping, [])
  | fuel + 1, mapping, line :: rest =>
    if line.content = [] then mappingLoop block indent fuel mapping rest
    else if line.indent ≠ indent ∨ isItem line.content then .ok (mapping, line :: rest)
    else do
      let (key, valueText) ← splitKeyValue line.content line.lineno
      raiseIf (ofList key ∈ mapping.map Prod.fst) (.duplicateKey line.lineno key)
      let (value, rest) ← parseFieldValue block rest indent valueText
      mappingLoop block indent fuel (mapping ++ [(ofList key, value)]) rest

/-- `parse_mapping`, with its fields in the order of the text. -/
def parseMapping : Except YamlError (List (String × Value) × List Line) :=
  mappingLoop block indent lines.length [] lines

/-- `re.match(r"^[A-Za-z0-9_.-]+:\s*", text)`. -/
def startsWithKey : Bool :=
  match text.span fun c => c.isAlphanum || c = '_' || c = '.' || c = '-' with
  | (key, ':' :: _) => key ≠ []
  | _ => false

/-- The number of the line before `rest`. -/
def linenoBefore (lines rest : List Line) (lineno : ℕ) : ℕ :=
  ((lines.take (lines.length - rest.length)).getLast?.map Line.lineno).getD lineno

/-- The fields that follow the first one of a mapping in a sequence. `inner` parses blocks two
levels below the sequence. -/
def parseExtra (inner : BlockParser) (key : List Char) (lines : List Line) (indent lineno : ℕ) :
    Except YamlError (List (String × Value) × List Line) :=
  match lines with
  | [] => .ok ([], [])
  | line :: _ =>
    if indent < line.indent then do
      let (extra, rest) ← parseMapping inner lines line.indent
      raiseIf (ofList key ∈ extra.map Prod.fst)
        (.duplicateKey (linenoBefore lines rest lineno) key)
      return (extra, rest)
    else .ok ([], lines)

variable (block inner : BlockParser)

/-- One item of a sequence, whose text follows the dash. -/
def parseItem (itemText : List Char) (rest : List Line)
    (indent lineno : ℕ) : Except YamlError (Value × List Line) :=
  if itemText = [] then parseNested block rest indent .null
  else if startsWithKey itemText then do
    let (key, valueText) ← splitKeyValue itemText lineno
    let (value, rest) ← parseFieldValue block rest indent valueText
    let (extra, rest) ← parseExtra inner key rest indent lineno
    return (Value.ofFields ((ofList key, value) :: extra), rest)
  else do
    let value ← scalar itemText
    return (value, rest)

/-- The loop of `parse_sequence`. -/
def sequenceLoop (block inner : BlockParser) (indent : ℕ) :
    ℕ → List Value → List Line → Except YamlError (List Value × List Line)
  | 0, items, lines => .ok (items, lines)
  | _ + 1, items, [] => .ok (items, [])
  | fuel + 1, items, line :: rest =>
    if line.content = [] then sequenceLoop block inner indent fuel items rest
    else if line.indent ≠ indent ∨ isItem line.content = false then .ok (items, line :: rest)
    else do
      let itemText := rstrip (lstrip (line.content.drop 2))
      let (item, rest) ← parseItem block inner itemText rest indent line.lineno
      sequenceLoop block inner indent fuel (items ++ [item]) rest

def parseSequence (lines : List Line) (indent : ℕ) : Except YamlError (Value × List Line) := do
  let (items, rest) ← sequenceLoop block inner indent lines.length [] lines
  return (.list items, rest)

/-- The body of `parse_block`: `block` parses blocks one level below, `inner` two levels below. -/
def parseBlockWith : BlockParser
  | [], _ => .ok (.dict [], [])
  | line :: rest, indent =>
    if line.indent < indent then .ok (.dict [], line :: rest)
    else if isItem line.content then parseSequence block inner (line :: rest) line.indent
    else do
      let (mapping, rest) ← parseMapping block (line :: rest) line.indent
      return (Value.ofFields mapping, rest)

/-- `parse_block`, by recursion on `max_depth`. -/
def parseBlock : ℕ → BlockParser
  | 0 => fun _ _ => .error .tooDeep
  | 1 => parseBlockWith (fun _ _ => .error .tooDeep) fun _ _ => .error .tooDeep
  | depth + 2 => parseBlockWith (parseBlock (depth + 1)) (parseBlock depth)

/-- The value of a preprocessed text. -/
def parseLines (maxDepth : ℕ) : List Line → Except YamlError Value
  | [] => .ok (.dict [])
  | line :: rest => do
    match ← parseBlock maxDepth (line :: rest) line.indent with
    | (value, []) => return value
    | (_, line :: _) => .error (.unexpectedContent line.lineno line.content)

/-- `parse_yaml_text`, with its default depth. -/
def parseYamlText : Except YamlError Value := do
  let lines ← preprocessYaml text
  parseLines 100 lines

end StatePort.Yaml
