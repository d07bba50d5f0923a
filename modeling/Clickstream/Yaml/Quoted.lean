import Clickstream.Text.Digit

/-!
# Quoted scalars

A scalar between single quotation marks is its text; a mark inside is written twice. Between double
quotation marks a backslash starts an escape. Both readers start behind the opening mark and end
behind the closing one.
-/

namespace Clickstream.Yaml

/-- Splits off the text up to the closing single mark. -/
def spanSingle : List Char → Option (List Char × List Char)
  | [] => none
  | '\'' :: '\'' :: cs => (spanSingle cs).map fun (text, rest) => ('\'' :: text, rest)
  | c :: cs =>
    if c = '\'' then some ([], cs)
    else (spanSingle cs).map fun (text, rest) => (c :: text, rest)

/-- The characters that escapes of one letter stand for. -/
def letterEscapes : List (Char × Nat) :=
  [('0', 0), ('a', 7), ('b', 8), ('t', 9), ('\t', 9), ('n', 10), ('v', 11), ('f', 12), ('r', 13),
    ('e', 27), (' ', 32), ('"', 34), ('/', 47), ('\\', 92), ('N', 0x85), ('_', 0xa0), ('L', 0x2028),
    ('P', 0x2029)]

/-- The number of hexadecimal digits behind the letter of a code escape. -/
def codeLength? (c : Char) : Option Nat :=
  match c with
  | 'x' => some 2
  | 'u' => some 4
  | 'U' => some 8
  | _ => none

/-- The character with a code in hexadecimal digits. -/
def readCode? (length : Nat) (cs : List Char) : Option Char := do
  let digits := cs.take length
  let values ← digits.mapM (Text.digitOfBase? 16)
  if digits.length < length then none
  let n := values.foldl (fun n d => 16 * n + d) 0
  if h : n.isValidChar then some (Char.ofNatAux n h) else none

/-- Splits off the text up to the closing double mark, which is at most `fuel` characters away. -/
def spanDouble : Nat → List Char → Option (List Char × List Char)
  | 0, _ | _, [] | _, ['\\'] => none
  | fuel + 1, '\\' :: c :: cs =>
    match letterEscapes.lookup c, codeLength? c with
    | some n, _ => (spanDouble fuel cs).map fun (text, rest) => (Char.ofNat n :: text, rest)
    | none, some length => do
      let code ← readCode? length cs
      let (text, rest) ← spanDouble fuel (cs.drop length)
      some (code :: text, rest)
    | none, none => none
  | fuel + 1, c :: cs =>
    if c = '"' then some ([], cs)
    else (spanDouble fuel cs).map fun (text, rest) => (c :: text, rest)

/-- Splits off a quoted scalar, its opening mark included. -/
def spanQuoted : List Char → Option (List Char × List Char)
  | '\'' :: cs => spanSingle cs
  | '"' :: cs => spanDouble (cs.length + 1) cs
  | _ => none

end Clickstream.Yaml
