import Clickstream.Text.Printable

/-!
# Quoted text

How texts and byte strings are shown in messages. The quotation mark is `'`, or `"` for a text that
holds `'` but no `"`. The mark itself, the backslash, the line breaks and the tab are written with
a backslash, every other unprintable character by its code.
-/

namespace Clickstream.Text

/-- The hexadecimal digits of a number, padded with zeros to a width. -/
def hex (width n : Nat) : List Char :=
  let ds := Nat.toDigits 16 n
  List.replicate (width - ds.length) '0' ++ ds

/-- The quotation mark for a row of characters. -/
def quoteMark (cs : List Char) : Char :=
  if cs.contains '\'' && !cs.contains '"' then '"' else '\''

/-- The escape of an unprintable character. -/
def codeEscape (n : Nat) : List Char :=
  if n < 0x100 then '\\' :: 'x' :: hex 2 n
  else if n < 0x10000 then '\\' :: 'u' :: hex 4 n
  else '\\' :: 'U' :: hex 8 n

/-- The shown form of one character between quotation marks. -/
def quoteChar (shown : Char → Bool) (mark c : Char) : List Char :=
  if c = mark || c = '\\' then ['\\', c]
  else if c = '\n' then ['\\', 'n']
  else if c = '\r' then ['\\', 'r']
  else if c = '\t' then ['\\', 't']
  else if shown c then [c]
  else codeEscape c.toNat

/-- The shown form of a text. -/
def quoted (s : String) : String :=
  let cs := s.toList
  let mark := quoteMark cs
  String.ofList (mark :: cs.flatMap (quoteChar isPrintable mark) ++ [mark])

/-- A byte that is shown as the ASCII character. -/
def isPlainByte (c : Char) : Bool :=
  32 ≤ c.toNat && c.toNat < 127

/-- The shown form of a byte string. -/
def quotedBytes (bs : List UInt8) : String :=
  let cs := bs.map fun b => Char.ofNat b.toNat
  let mark := quoteMark cs
  String.ofList ('b' :: mark :: cs.flatMap (quoteChar isPlainByte mark) ++ [mark])

end Clickstream.Text
