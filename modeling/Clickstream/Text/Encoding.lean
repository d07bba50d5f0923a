/-!
# Text encodings

Decoding of byte strings. The encoding is recognised by a byte order mark or by the zero bytes of
the first characters (`Encoding.detect`). A surrogate without a partner is no character; it is read
as the replacement character.
-/

namespace Clickstream.Text

/-- A Unicode encoding form. -/
inductive Encoding
  | utf8
  | utf16 (bigEndian : Bool)
  | utf32 (bigEndian : Bool)
  deriving DecidableEq, Repr

/-- What is wrong with a byte sequence. -/
inductive DecodeReason
  | startByte
  | continuationByte
  | endOfData
  | truncated
  | codePoint
  deriving DecidableEq, Repr

/-- A byte sequence that does not decode: its position and its bytes. -/
structure DecodeFault where
  encoding : Encoding
  position : Nat
  bytes : List UInt8
  reason : DecodeReason
  deriving DecidableEq, Repr

namespace Encoding

def name : Encoding → String
  | .utf8 => "utf-8"
  | .utf16 bigEndian => if bigEndian then "utf-16-be" else "utf-16-le"
  | .utf32 bigEndian => if bigEndian then "utf-32-be" else "utf-32-le"

/-- The byte order marks. Those of four bytes come first: one of them begins like one of two. -/
def marks : List (List UInt8 × Encoding) :=
  [([0, 0, 0xfe, 0xff], .utf32 true), ([0xff, 0xfe, 0, 0], .utf32 false),
    ([0xfe, 0xff], .utf16 true), ([0xff, 0xfe], .utf16 false), ([0xef, 0xbb, 0xbf], .utf8)]

/-- The encoding of a byte string without a mark. -/
def ofZeros : List UInt8 → Encoding
  | a :: b :: c :: d :: _ =>
    if a = 0 then if b = 0 then .utf32 true else .utf16 true
    else if b = 0 then if c = 0 && d = 0 then .utf32 false else .utf16 false
    else .utf8
  | [a, b] => if a = 0 then .utf16 true else if b = 0 then .utf16 false else .utf8
  | _ => .utf8

/-- The encoding of a byte string and the length of its byte order mark. -/
def detect (bytes : List UInt8) : Encoding × Nat :=
  match marks.find? fun mark => mark.1.isPrefixOf bytes with
  | some (mark, encoding) => (encoding, mark.length)
  | none => (ofZeros bytes, 0)

end Encoding

/-- The character with a code, the replacement character for a surrogate. -/
def charOfCode (n : Nat) : Char :=
  if n.isValidChar then Char.ofNat n else '\ufffd'

/-! ## Eight-bit units -/

/-- A continuation byte. -/
def isContinuation (b : UInt8) : Bool :=
  0x80 ≤ b && b < 0xc0

/-- The low six bits of a continuation byte. -/
def payload (b : UInt8) : Nat :=
  b.toNat % 64

/-- The second byte of a sequence of three: some lead bytes restrict it, as no character has two
encodings. Surrogates are let through here. -/
def isSecondOfThree (lead b : UInt8) : Bool :=
  isContinuation b && !(lead == 0xe0 && b < 0xa0)

/-- The second byte of a sequence of four. -/
def isSecondOfFour (lead b : UInt8) : Bool :=
  isContinuation b && !(lead == 0xf0 && b < 0x90) && !(lead == 0xf4 && 0x90 ≤ b)

/-- A lead byte and a second byte that begin a surrogate. -/
def beginsSurrogate (lead b : UInt8) : Bool :=
  lead == 0xed && 0xa0 ≤ b

/-- Decodes eight-bit units from a position on. -/
def decodeUtf8 (pos : Nat) : List UInt8 → Except DecodeFault (List Char)
  | [] => .ok []
  | a :: rest =>
    let fault (bytes : List UInt8) (reason : DecodeReason) : Except DecodeFault (List Char) :=
      .error ⟨.utf8, pos, bytes, reason⟩
    if a < 0x80 then (decodeUtf8 (pos + 1) rest).map (Char.ofNat a.toNat :: ·)
    else if a < 0xc2 || 0xf5 ≤ a then fault [a] .startByte
    else if a < 0xe0 then
      match rest with
      | [] => fault [a] .endOfData
      | b :: rest =>
        if isContinuation b then
          (decodeUtf8 (pos + 2) rest).map (charOfCode (a.toNat % 32 * 64 + payload b) :: ·)
        else fault [a] .continuationByte
    else if a < 0xf0 then
      match rest with
      | [] => fault [a] .endOfData
      | [b] =>
        if isSecondOfThree a b && !beginsSurrogate a b then fault [a, b] .endOfData
        else fault [a] .continuationByte
      | b :: c :: rest =>
        if !isSecondOfThree a b then fault [a] .continuationByte
        else if !isContinuation c then
          fault (if beginsSurrogate a b then [a] else [a, b]) .continuationByte
        else
          let code := a.toNat % 16 * 4096 + payload b * 64 + payload c
          (decodeUtf8 (pos + 3) rest).map (charOfCode code :: ·)
    else
      match rest with
      | [] => fault [a] .endOfData
      | [b] => if isSecondOfFour a b then fault [a, b] .endOfData else fault [a] .continuationByte
      | [b, c] =>
        if !isSecondOfFour a b then fault [a] .continuationByte
        else if !isContinuation c then fault [a, b] .continuationByte
        else fault [a, b, c] .endOfData
      | b :: c :: d :: rest =>
        if !isSecondOfFour a b then fault [a] .continuationByte
        else if !isContinuation c then fault [a, b] .continuationByte
        else if !isContinuation d then fault [a, b, c] .continuationByte
        else
          let code := a.toNat % 8 * 262144 + payload b * 4096 + payload c * 64 + payload d
          (decodeUtf8 (pos + 4) rest).map (charOfCode code :: ·)

/-! ## Wider units -/

/-- Groups bytes into sixteen-bit units. -/
def units16 (bigEndian : Bool) (pos : Nat) : List UInt8 → Except DecodeFault (List Nat)
  | [] => .ok []
  | [a] => .error ⟨.utf16 bigEndian, pos, [a], .truncated⟩
  | a :: b :: rest =>
    let unit := if bigEndian then a.toNat * 256 + b.toNat else b.toNat * 256 + a.toNat
    (units16 bigEndian (pos + 2) rest).map (unit :: ·)

def isHighSurrogate (n : Nat) : Bool := 0xd800 ≤ n && n < 0xdc00

def isLowSurrogate (n : Nat) : Bool := 0xdc00 ≤ n && n < 0xe000

/-- The code of a pair of surrogates. -/
def joinSurrogates (high low : Nat) : Nat :=
  0x10000 + (high - 0xd800) * 0x400 + (low - 0xdc00)

/-- Joins pairs of surrogates. -/
def charsOfUnits : List Nat → List Char
  | [] => []
  | [a] => [charOfCode a]
  | a :: b :: rest =>
    if isHighSurrogate a && isLowSurrogate b then
      charOfCode (joinSurrogates a b) :: charsOfUnits rest
    else charOfCode a :: charsOfUnits (b :: rest)

/-- Decodes 32-bit units from a position on. -/
def decodeUtf32 (bigEndian : Bool) (pos : Nat) : List UInt8 → Except DecodeFault (List Char)
  | [] => .ok []
  | a :: b :: c :: d :: rest =>
    let code (p q r s : UInt8) : Nat :=
      ((p.toNat * 256 + q.toNat) * 256 + r.toNat) * 256 + s.toNat
    let n := if bigEndian then code a b c d else code d c b a
    if 0x110000 ≤ n then .error ⟨.utf32 bigEndian, pos, [a, b, c, d], .codePoint⟩
    else (decodeUtf32 bigEndian (pos + 4) rest).map (charOfCode n :: ·)
  | bytes => .error ⟨.utf32 bigEndian, pos, bytes, .truncated⟩

/-- Decodes a byte string in the encoding that it is recognised by. Positions count from the start
of the byte string, but in UTF-8 from the end of the byte order mark. -/
def decode (bytes : List UInt8) : Except DecodeFault (List Char) :=
  let (encoding, mark) := Encoding.detect bytes
  let rest := bytes.drop mark
  match encoding with
  | .utf8 => decodeUtf8 0 rest
  | .utf16 bigEndian => (units16 bigEndian mark rest).map charsOfUnits
  | .utf32 bigEndian => decodeUtf32 bigEndian mark rest

end Clickstream.Text
