import Clickstream.Failure

/-!
# Values as integers

Identifiers of sites may arrive as numbers or as texts. A truth value counts as zero or one, a
double loses its fraction, and a text or a byte string is read as an integer.
-/

namespace Clickstream.Value

/-- The characters of a byte string; a byte beyond ASCII stands for no digit and no blank. -/
def bytesAsChars (bytes : List UInt8) : List Char :=
  bytes.map fun b => if b < 128 then Char.ofNat b.toNat else '\ufffd'

/-- Reads an integer; `shown` is the text in its shown form. -/
def integerOfChars (shown : String) (cs : List Char) : Outcome Int :=
  match readInteger cs with
  | .ok n => .ok n
  | .error .malformed => raise (.integerText shown)
  | .error (.tooLong digits) => raise (.integerDigits digits)

/-- The integer part of a double. -/
def integerOfBinary64 (x : Binary64) : Outcome Int :=
  match x.toDyadic? with
  | some d => .ok d.truncate
  | none => raise (if x = .nan then .nanToInteger else .infinityToInteger)

/-- The integer that a value stands for. -/
def toInteger (v : Value) : Outcome Int :=
  match v with
  | .bool b => .ok (if b then 1 else 0)
  | .int n => .ok n
  | .real x => integerOfBinary64 x
  | .text s => integerOfChars v.shown s.toList
  | .bytes bs => integerOfChars v.shown (bytesAsChars bs)
  | _ => raise (.notIntegral v.typeName)

end Clickstream.Value
