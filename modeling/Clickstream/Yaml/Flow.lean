import Clickstream.Yaml.Quoted
import Clickstream.Value.Display
import Clickstream.Yaml.Scalar

/-!
# Flow style

Lists in brackets and mappings in braces, nested in one another, with scalars as their leaves. A
plain scalar ends before a mark of the flow style and before a colon that a blank or such a mark
follows. A key without a value has the value null, and a pair in a list is a mapping of its own. A
key that is no text is taken by its plain form.

Every node is read from the characters that are left. The readers recurse on fuel, of which each
step takes one unit; as no character is met by more than two steps, twice their number is enough.
-/

namespace Clickstream.Yaml

/-- A blank within a line. -/
def isLineBlank (c : Char) : Bool :=
  c == ' ' || c == '\t'

def skipBlanks (cs : List Char) : List Char :=
  cs.dropWhile isLineBlank

/-- A mark that ends a plain scalar in flow style. -/
def isFlowMark (c : Char) : Bool :=
  c == ',' || c == '[' || c == ']' || c == '\x7b' || c == '\x7d'

/-- A mark that starts no plain scalar. -/
def isReserved (c : Char) : Bool :=
  isFlowMark c || "#&*!|>'\"%@\x60".toList.contains c

/-- Nothing, or a character of a class. -/
def endsBefore (p : Char → Bool) : List Char → Bool
  | [] => true
  | c :: _ => p c

/-- A plain scalar may start here: not with a reserved mark, and with one of `-`, `?` and `:` only
if more of the scalar follows at once. -/
def startsPlain : List Char → Bool
  | [] => true
  | c :: cs =>
    !isReserved c && (!(c == '-' || c == '?' || c == ':') || !endsBefore isLineBlank cs)

/-- Splits off the characters of a plain scalar in flow style. -/
def spanFlowPlain : List Char → List Char × List Char
  | [] => ([], [])
  | c :: cs =>
    if isFlowMark c || (c == ':' && endsBefore (fun d => isLineBlank d || isFlowMark d) cs) then
      ([], c :: cs)
    else
      let (scalar, rest) := spanFlowPlain cs
      (c :: scalar, rest)

/-- Removes the blanks at the end. -/
def dropTrailingBlanks (cs : List Char) : List Char :=
  (cs.reverse.dropWhile isLineBlank).reverse

/-- Reads a plain scalar in flow style. -/
def readFlowPlain (cs : List Char) : Option (Value × List Char) :=
  if startsPlain cs then
    let (scalar, rest) := spanFlowPlain cs
    let scalar := dropTrailingBlanks scalar
    some (resolve scalar, rest)
  else none

/-- Skips a colon, or finds none. -/
def spanColon? (cs : List Char) : Option (List Char) :=
  match skipBlanks cs with
  | ':' :: rest => some rest
  | _ => none

/-- Skips the comma between two items; before the closing mark there may be one or none. -/
def spanComma (close : Char) (cs : List Char) : Option (List Char) :=
  match skipBlanks cs with
  | ',' :: rest => some (skipBlanks rest)
  | c :: rest => if c = close then some (c :: rest) else none
  | [] => none

mutual

/-- Reads a node in flow style. -/
def readFlow : Nat → List Char → Option (Value × List Char)
  | 0, _ => none
  | fuel + 1, cs =>
    match skipBlanks cs with
    | '[' :: rest => (readItems fuel (skipBlanks rest)).map fun (vs, rest) => (.list vs, rest)
    | '\x7b' :: rest =>
      (readFields fuel [] (skipBlanks rest)).map fun (fields, rest) => (.object fields, rest)
    | '\'' :: rest =>
      (spanQuoted ('\'' :: rest)).map fun (text, rest) => (.text (String.ofList text), rest)
    | '"' :: rest =>
      (spanQuoted ('"' :: rest)).map fun (text, rest) => (.text (String.ofList text), rest)
    | cs => readFlowPlain cs

/-- Reads the value behind a key, if there is one. -/
def readFlowValue : Nat → List Char → Option (Option Value × List Char)
  | 0, _ => none
  | fuel + 1, cs =>
    match spanColon? cs with
    | none => some (none, cs)
    | some rest =>
      match skipBlanks rest with
      | c :: rest =>
        if c = ',' || c = ']' || c = '\x7d' then some (some .null, c :: rest)
        else (readFlow fuel (c :: rest)).map fun (v, rest) => (some v, rest)
      | [] => none

/-- Reads the items of a list up to its end. -/
def readItems : Nat → List Char → Option (List Value × List Char)
  | 0, _ => none
  | _, ']' :: rest => some ([], rest)
  | fuel + 1, cs => do
    let (item, rest) ← readFlow fuel cs
    let (value, rest) ← readFlowValue fuel rest
    let rest ← spanComma ']' rest
    let (items, rest) ← readItems fuel rest
    match value with
    | some v => some (.object [(item.plain, v)] :: items, rest)
    | none => some (item :: items, rest)

/-- Reads the fields of a mapping up to its end. -/
def readFields : Nat → Fields → List Char → Option (Fields × List Char)
  | 0, _, _ => none
  | _, fields, '\x7d' :: rest => some (fields, rest)
  | fuel + 1, fields, cs => do
    let (key, rest) ← readFlow fuel cs
    let (value, rest) ← readFlowValue fuel rest
    let rest ← spanComma '\x7d' rest
    readFields fuel (fields.set key.plain (value.getD .null)) rest

end

/-! ## One text -/

/-- A colon that divides a key from a value: a blank or nothing follows it. -/
def hasDivider : List Char → Bool
  | [] => false
  | c :: cs => (c == ':' && endsBefore isLineBlank cs) || hasDivider cs

/-- Reads a text as one node: in flow style, quoted, or plain. -/
def readInline (cs : List Char) : Option Value :=
  let cs := dropTrailingBlanks (skipBlanks cs)
  match cs with
  | [] => some .null
  | c :: _ =>
    if c = '[' || c = '\x7b' || c = '\'' || c = '"' then
      match readFlow (2 * cs.length + 2) cs with
      | some (v, rest) => if (skipBlanks rest).isEmpty then some v else none
      | none => none
    else if startsPlain cs && !hasDivider cs then some (resolve cs)
    else none

end Clickstream.Yaml
