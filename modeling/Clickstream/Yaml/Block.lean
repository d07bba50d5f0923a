import Clickstream.Yaml.Flow

/-!
# Block style

A document in block style is a row of lines, whose indentation tells what belongs together. Comments
and empty lines are removed first (`Line.ofText`). A line `key: value` starts a mapping, whose
fields are the lines of the same indentation; the lines that are indented more belong to the value
of the field before them. A line `- item` starts a list in the same way; the list that is the value
of a field may stand at the indentation of the field. Any other line starts a node in flow style or
a scalar, which may go on in the lines behind it.

The readers recurse on fuel. A step takes a line or removes the mark of an item from one, so the
number of characters, and some, is enough.
-/

namespace Clickstream.Yaml

/-! ## Lines -/

/-- A line that is neither empty nor a comment: its indentation, and the rest without the comment
and the blanks at the end. -/
structure Line where
  indent : Nat
  text : List Char
  deriving DecidableEq, Repr

/-- Removes a comment: a number sign behind a blank, outside of quotation marks. `mark` is the
quotation mark that is open, `fresh` tells that a scalar may start here, and `blank` that a blank
stands in front. -/
def dropComment (mark : Option Char) (fresh blank : Bool) : List Char → List Char
  | [] => []
  | c :: cs =>
    match mark with
    | some m =>
      if c = m then c :: dropComment none true false cs
      else
        match c, m, cs with
        | '\\', '"', d :: cs => c :: d :: dropComment mark false false cs
        | _, _, cs => c :: dropComment mark false false cs
    | none =>
      if c = '#' && blank then []
      else if fresh && (c = '\'' || c = '"') then c :: dropComment (some c) false false cs
      else if isLineBlank c then c :: dropComment none fresh true cs
      else
        let opens := isFlowMark c || c = ':' || c = '-' || c = '?'
        c :: dropComment none opens false cs

/-- A line that ends a row of characters. -/
def isLineEnd (c : Char) : Bool :=
  c == '\n' || c == '\r' || c == '\x85' || c == '\u2028' || c == '\u2029'

/-- Cuts a text at the ends of its lines. -/
def splitLines : List Char → List (List Char)
  | [] => [[]]
  | c :: cs =>
    if isLineEnd c then [] :: splitLines cs
    else
      match splitLines cs with
      | [] => [[c]]
      | first :: rest => (c :: first) :: rest

/-- The line of a row of characters, if anything is left of it. -/
def Line.ofChars? (cs : List Char) : Option Line :=
  let text := cs.dropWhile (· == ' ')
  let kept := dropTrailingBlanks (dropComment none true true text)
  if kept.isEmpty then none else some ⟨cs.length - text.length, kept⟩

/-- The lines of a text. A byte order mark in front and the mark that starts a document do not
count. -/
def Line.ofText (s : String) : List Line :=
  let cs := match s.toList with
    | '\ufeff' :: cs => cs
    | cs => cs
  let lines := (splitLines cs).filterMap Line.ofChars?
  match lines with
  | ⟨0, ['-', '-', '-']⟩ :: rest => rest
  | lines => lines

/-! ## Keys and items -/

/-- Splits a line at the colon behind a plain key. -/
def splitPlainKey? : List Char → Option (List Char × List Char)
  | [] => none
  | c :: cs =>
    if c == ':' && endsBefore isLineBlank cs then some ([], cs)
    else (splitPlainKey? cs).map fun (key, rest) => (c :: key, rest)

/-- Splits a line into a key and what stands behind its colon. -/
def splitKey? (cs : List Char) : Option (String × List Char) :=
  match spanQuoted cs with
  | some (key, rest) =>
    match spanColon? rest with
    | some rest => if endsBefore isLineBlank rest then some (String.ofList key, rest) else none
    | none => none
  | none =>
    if startsPlain cs then
      (splitPlainKey? cs).map fun (key, rest) => ((resolve (dropTrailingBlanks key)).plain, rest)
    else none

/-- The item of a line that is one, moved to its own place. -/
def Line.item? (line : Line) : Option Line :=
  match line.text with
  | '-' :: cs =>
    if endsBefore isLineBlank cs then
      let text := skipBlanks cs
      some ⟨line.indent + (line.text.length - text.length), text⟩
    else none
  | _ => none

/-- The lines at the front that are indented by at least `least`. -/
def spanIndented (least : Nat) (lines : List Line) : List Line × List Line :=
  lines.span fun line => least ≤ line.indent

/-- A text that goes on in further lines. -/
def joinLines (first : List Char) (more : List Line) : List Char :=
  more.foldl (fun text line => text ++ ' ' :: line.text) first

/-! ## Nodes -/

mutual

/-- Reads a node from lines that are indented by at least `least`. -/
def readBlock : Nat → Nat → List Line → Option (Value × List Line)
  | 0, _, _ => none
  | _, _, [] => some (.null, [])
  | fuel + 1, least, line :: rest =>
    if line.indent < least then some (.null, line :: rest)
    else if line.item?.isSome then
      (readBlockItems fuel line.indent (line :: rest)).map fun (items, rest) => (.list items, rest)
    else if (splitKey? line.text).isSome then
      (readBlockFields fuel line.indent [] (line :: rest)).map fun (fields, rest) =>
        (.object fields, rest)
    else
      let (more, rest) := spanIndented least rest
      (readInline (joinLines line.text more)).map fun v => (v, rest)

/-- Reads the items of a list at an indentation. -/
def readBlockItems : Nat → Nat → List Line → Option (List Value × List Line)
  | 0, _, _ => none
  | _, _, [] => some ([], [])
  | fuel + 1, indent, line :: rest =>
    if line.indent < indent then some ([], line :: rest)
    else
      match line.item? with
      | none => if line.indent = indent then some ([], line :: rest) else none
      | some item => do
        let lines := if item.text.isEmpty then rest else item :: rest
        let (v, rest) ← readBlock fuel (indent + 1) lines
        let (items, rest) ← readBlockItems fuel indent rest
        some (v :: items, rest)

/-- Reads the fields of a mapping at an indentation. -/
def readBlockFields : Nat → Nat → Fields → List Line → Option (Fields × List Line)
  | 0, _, _, _ => none
  | _, _, fields, [] => some (fields, [])
  | fuel + 1, indent, fields, line :: rest =>
    if line.indent < indent then some (fields, line :: rest)
    else
      match splitKey? line.text with
      | none => none
      | some (key, after) => do
        if indent < line.indent then none
        let (v, rest) ←
          if (skipBlanks after).isEmpty then
            let least :=
              if (rest.head?.bind Line.item?).isSome then indent else indent + 1
            readBlock fuel least rest
          else
            let (more, rest) := spanIndented (indent + 1) rest
            (readInline (joinLines after more)).map fun v => (v, rest)
        readBlockFields fuel indent (fields.set key v) rest

end

/-- Reads a document. -/
def readDocument (s : String) : Option Value :=
  match readBlock (2 * s.length + 4) 0 (Line.ofText s) with
  | some (v, []) => some v
  | _ => none

end Clickstream.Yaml
