import Clickstream.Number.Shortest
import Clickstream.Text.Quoted
import Clickstream.Value.Basic

/-!
# Writing JSON

The JSON text of a value: items are separated by a comma and a space, names from values by a colon
and a space. Texts are written in printable ASCII; every other character is escaped by its
sixteen-bit units. Byte strings and moments have no JSON form.
-/

namespace Clickstream.Json

/-- The escape of a sixteen-bit unit. -/
def unitEscape (n : Nat) : List Char :=
  '\\' :: 'u' :: Text.hex 4 n

/-- The written form of a character in a string. -/
def writeChar (c : Char) : List Char :=
  if c = '"' || c = '\\' then ['\\', c]
  else if c = '\n' then ['\\', 'n']
  else if c = '\r' then ['\\', 'r']
  else if c = '\t' then ['\\', 't']
  else if c = '\x08' then ['\\', 'b']
  else if c = '\x0c' then ['\\', 'f']
  else if 32 ≤ c.toNat && c.toNat < 127 then [c]
  else if c.toNat < 0x10000 then unitEscape c.toNat
  else
    let n := c.toNat - 0x10000
    unitEscape (0xd800 + n / 0x400) ++ unitEscape (0xdc00 + n % 0x400)

/-- The written form of a text. -/
def writeText (s : String) : String :=
  String.ofList ('"' :: s.toList.flatMap writeChar ++ ['"'])

/-- The written form of a double. -/
def writeBinary64 : Binary64 → String
  | .nan => "NaN"
  | .infinite negative => if negative then "-Infinity" else "Infinity"
  | x => x.toText

/-- The kind of a value that has no written form. -/
inductive Unwritable
  | bytes
  | moment
  deriving DecidableEq, Repr

mutual

/-- The written form of a value. -/
def write : Value → Except Unwritable String
  | .null => .ok "null"
  | .bool b => .ok (if b then "true" else "false")
  | .int n => .ok (toString n)
  | .real x => .ok (writeBinary64 x)
  | .text s => .ok (writeText s)
  | .bytes _ => .error .bytes
  | .moment _ => .error .moment
  | .list items => (writeItems items).map fun ts => "[" ++ ", ".intercalate ts ++ "]"
  | .object fields => (writeFields fields).map fun ts => "\x7b" ++ ", ".intercalate ts ++ "\x7d"

/-- The written forms of the items of a list. -/
def writeItems : List Value → Except Unwritable (List String)
  | [] => .ok []
  | v :: vs =>
    match write v with
    | .error e => .error e
    | .ok t => (writeItems vs).map (t :: ·)

/-- The written forms of the fields of an object. -/
def writeFields : List (String × Value) → Except Unwritable (List String)
  | [] => .ok []
  | (name, v) :: fs =>
    match write v with
    | .error e => .error e
    | .ok t => (writeFields fs).map ((writeText name ++ ": " ++ t) :: ·)

end

end Clickstream.Json
