import Clickstream.Number.Fixed
import Clickstream.Number.Word
import Clickstream.Value.Arithmetic
import Clickstream.Value.Integer

/-!
# Message templates

The message of a log record is a template whose directives take the arguments of the record. A
directive is

  `% (key)? flag* width? (. precision?)? [hlL]? letter`

where the key names a field of a mapping, the flags are `-`, `+`, blank, `#` and `0`, and width and
precision are digits or a `*`, which takes an argument. Two percent signs stand for one. A template
is read into pieces (`Template.read`); a directive that breaks off is a piece too, so that the
pieces before it are filled first. Filling goes from the left and hands the arguments on
(`Piece.fill`). In the end a list of arguments has to be used up.
-/

namespace Clickstream.Template

/-! ## Directives -/

/-- A width or a precision. -/
inductive Size
  | absent
  | given (n : Nat)
  /-- Taken from the arguments. -/
  | argument
  deriving DecidableEq, Repr

/-- The key of a directive. -/
inductive Key
  | absent
  | unclosed
  | name (s : String)
  deriving DecidableEq, Repr

structure Flags where
  left : Bool := false
  plus : Bool := false
  blank : Bool := false
  alternate : Bool := false
  zeros : Bool := false
  deriving DecidableEq, Repr

/-- A directive. The letter is missing if the template ends before it; beside it stands its index
in the template. -/
structure Directive where
  key : Key
  flags : Flags
  width : Size
  precision : Size
  letter : Option (Char × Nat)
  deriving DecidableEq, Repr

inductive Piece
  | plain (cs : List Char)
  | directive (d : Directive)
  deriving DecidableEq, Repr

/-! ## Reading -/

/-- Splits off the text up to the parenthesis that closes `depth` open ones. -/
def spanKey : Nat → List Char → Option (List Char × List Char)
  | _, [] => none
  | depth, c :: cs =>
    if c = ')' && depth ≤ 1 then some ([], cs)
    else
      let depth := if c = ')' then depth - 1 else if c = '(' then depth + 1 else depth
      (spanKey depth cs).map fun (key, rest) => (c :: key, rest)

/-- Splits off the key. An unclosed key takes all that follows. -/
def spanKeyPart : List Char → Key × List Char
  | '(' :: cs =>
    match spanKey 1 cs with
    | some (key, rest) => (.name (String.ofList key), rest)
    | none => (.unclosed, [])
  | cs => (.absent, cs)

/-- Splits off the flags. -/
def spanFlags (flags : Flags) : List Char → Flags × List Char
  | '-' :: cs => spanFlags { flags with left := true } cs
  | '+' :: cs => spanFlags { flags with plus := true } cs
  | ' ' :: cs => spanFlags { flags with blank := true } cs
  | '#' :: cs => spanFlags { flags with alternate := true } cs
  | '0' :: cs => spanFlags { flags with zeros := true } cs
  | cs => (flags, cs)

/-- Splits off a width, or what follows the point of a precision; `missing` stands for no digits. -/
def spanSize (missing : Size) : List Char → Size × List Char
  | '*' :: cs => (.argument, cs)
  | cs =>
    let digits := cs.takeWhile Char.isDigit
    if digits.isEmpty then (missing, cs)
    else (.given ((asciiNumber? digits).getD 0), cs.dropWhile Char.isDigit)

/-- Splits off a precision. A lone point is the precision zero. -/
def spanPrecision : List Char → Size × List Char
  | '.' :: cs => spanSize (.given 0) cs
  | cs => (.absent, cs)

/-- Skips one letter that says how long an argument is. -/
def skipLength : List Char → List Char
  | c :: cs => if c = 'h' || c = 'l' || c = 'L' then cs else c :: cs
  | [] => []

/-- Splits off a directive behind its `%`, in a template of `total` characters. -/
def spanDirective (total : Nat) (cs : List Char) : Directive × List Char :=
  let (key, cs) := spanKeyPart cs
  let (flags, cs) := spanFlags {} cs
  let (width, cs) := spanSize .absent cs
  let (precision, cs) := spanPrecision cs
  match skipLength cs with
  | [] => (⟨key, flags, width, precision, none⟩, [])
  | c :: rest => (⟨key, flags, width, precision, some (c, total - (rest.length + 1))⟩, rest)

/-- Splits a template of `total` characters into at most `fuel` pieces. Every piece has at least
one character. -/
def pieces (total : Nat) : Nat → List Char → List Piece
  | 0, _ | _, [] => []
  | fuel + 1, '%' :: '%' :: cs => .plain ['%'] :: pieces total fuel cs
  | fuel + 1, '%' :: cs =>
    let (d, rest) := spanDirective total cs
    .directive d :: pieces total fuel rest
  | fuel + 1, cs =>
    .plain (cs.takeWhile (· != '%')) :: pieces total fuel (cs.dropWhile (· != '%'))

/-- Reads a template. -/
def read (template : String) : List Piece :=
  let cs := template.toList
  pieces cs.length cs.length cs

/-! ## Arguments -/

/-- The arguments that are left: those of a row, or a mapping, which is its own only argument
until a key selects another one. -/
inductive Arguments
  | row (rest : List Value)
  | mapping (fields : Fields) (current : Option Value)
  deriving Repr

namespace Arguments

/-- A single mapping with fields is used by key. -/
def ofList : List Value → Arguments
  | [.object (f :: fs)] => .mapping (f :: fs) (some (.object (f :: fs)))
  | vs => .row vs

/-- Takes the next argument. -/
def next : Arguments → Outcome (Value × Arguments)
  | .row (v :: vs) => .ok (v, .row vs)
  | .mapping fields (some v) => .ok (v, .mapping fields none)
  | .row [] | .mapping _ none => raise (.format .tooFewArguments)

/-- Makes the field of a key the current argument. -/
def select (key : Key) (arguments : Arguments) : Outcome Arguments :=
  match key, arguments with
  | .absent, _ => .ok arguments
  | _, .row _ => raise (.format .needsMapping)
  | .unclosed, .mapping .. => raise (.format .incompleteKey)
  | .name s, .mapping fields _ =>
    match Bindings.get? fields s with
    | some v => .ok (.mapping fields (some v))
    | none => raise (.format (.missingKey s))

/-- A row of arguments is used up; a mapping need not be. -/
def finish : Arguments → Outcome Unit
  | .row (_ :: _) => raise (.format .tooManyArguments)
  | _ => .ok ()

/-- Takes an argument that is a size and passes a check. -/
def nextSize (arguments : Arguments) (fits : Int → Bool) (fault : FormatFault) :
    Outcome (Int × Arguments) := do
  let (v, rest) ← arguments.next
  match v.toWhole? with
  | some n => if fits n then return (n, rest) else raise (.format fault)
  | none => raise (.format .starNeedsInteger)

end Arguments

/-! ## Converting one argument -/

/-- The largest precision of an integer. -/
def maxIntegerPrecision : Nat := 2147483644

/-- A directive with its sizes known. -/
structure Layout where
  flags : Flags
  width : Nat
  precision : Option Nat
  deriving DecidableEq, Repr

namespace Layout

/-- Puts an item into the width: a sign and a mark that stay in front, and a body. Zeros go between
the mark and the body, blanks to the outside. -/
def place (layout : Layout) (numeric : Bool) (head body : List Char) : List Char :=
  let gap := layout.width - (head.length + body.length)
  if numeric && layout.flags.zeros && !layout.flags.left then
    head ++ List.replicate gap '0' ++ body
  else if layout.flags.left then head ++ body ++ List.replicate gap ' '
  else List.replicate gap ' ' ++ head ++ body

/-- The sign of a number, which a flag may demand for a number that is not negative. -/
def sign (layout : Layout) (negative : Bool) : List Char :=
  if negative then ['-']
  else if layout.flags.plus then ['+']
  else if layout.flags.blank then [' ']
  else []

/-- Places a text, which the precision cuts off. -/
def text (layout : Layout) (cs : List Char) : List Char :=
  layout.place false [] (match layout.precision with
    | some n => cs.take n
    | none => cs)

/-- Places an integer: its digits in a base, zeros up to the precision, and a mark of the base if
the alternate form is wanted. The decimal digits may be too many to be written. -/
def integer (layout : Layout) (base : Nat) (mark : List Char) (upper : Bool) (n : Int) :
    Outcome (List Char) :=
  let digits := Nat.toDigits base n.natAbs
  let digits := if upper then digits.map Char.toUpper else digits
  let head := layout.sign (n < 0) ++ (if layout.flags.alternate then mark else [])
  let least := layout.precision.getD 0
  if maxIntegerPrecision < least then raise (.format .integerPrecision)
  else if base = 10 && Value.isLong n then raise .unwritableInteger
  else .ok (layout.place true head (Binary64.zeroFilled least digits))

/-- Places a double; six digits if there is no precision. -/
def double (layout : Layout) (form : Binary64.DecimalForm) (upper : Bool) (x : Binary64) :
    List Char :=
  let cs := x.decimalText form layout.flags.alternate 'e' (layout.precision.getD 6)
  let body := match cs with
    | '-' :: rest => rest
    | _ => cs
  let body := if upper then body.map Char.toUpper else body
  layout.place true (layout.sign (cs.head? == some '-')) body

end Layout

/-- The whole number of a decimal directive. -/
def wholeArgument (letter : Char) (v : Value) : Outcome Int :=
  match v with
  | .bool _ | .int _ | .real _ => v.toInteger
  | _ => raise (.format (.needsNumber letter v.typeName))

/-- The whole number of a directive in another base. -/
def exactArgument (letter : Char) (v : Value) : Outcome Int :=
  match v.toWhole? with
  | some n => .ok n
  | none => raise (.format (.needsInteger letter v.typeName))

/-- The double of a directive. -/
def doubleArgument (v : Value) : Outcome Binary64 :=
  match v with
  | .bool _ | .int _ | .real _ => v.toBinary64
  | _ => raise (.format (.notReal v.typeName))

/-- The character of a directive: a text of one character, or a code point. -/
def characterArgument (v : Value) : Outcome Char :=
  match v, v.toWhole? with
  | .text s, _ =>
    match s.toList with
    | [c] => .ok c
    | _ => raise (.format .needsCharacter)
  | _, some n =>
    if 0 ≤ n && n < 0x110000 then .ok (Char.ofNat n.toNat) else raise (.format .characterRange)
  | _, none => raise (.format .needsCharacter)

/-- A form of an argument. A value with an integer of too many digits in it has none. -/
def formArgument (form : Value → List Char) (v : Value) : Outcome (List Char) :=
  if v.holdsLong then raise .unwritableInteger else .ok (form v)

/-- The shown form in ASCII. -/
def asciiShown (v : Value) : List Char :=
  v.shown.toList.flatMap fun c => if c.toNat < 128 then [c] else Text.codeEscape c.toNat

/-- Converts an argument as the letter says. -/
def convert (layout : Layout) (letter : Char) (index : Nat) (v : Value) : Outcome (List Char) := do
  match letter with
  | 's' => return layout.text (← formArgument (·.plain.toList) v)
  | 'r' => return layout.text (← formArgument (·.shown.toList) v)
  | 'a' => return layout.text (← formArgument asciiShown v)
  | 'd' | 'i' | 'u' => layout.integer 10 [] false (← wholeArgument letter v)
  | 'o' => layout.integer 8 ['0', 'o'] false (← exactArgument letter v)
  | 'x' => layout.integer 16 ['0', 'x'] false (← exactArgument letter v)
  | 'X' => layout.integer 16 ['0', 'X'] true (← exactArgument letter v)
  | 'e' => return layout.double .scientific false (← doubleArgument v)
  | 'E' => return layout.double .scientific true (← doubleArgument v)
  | 'f' => return layout.double .fixed false (← doubleArgument v)
  | 'F' => return layout.double .fixed true (← doubleArgument v)
  | 'g' => return layout.double .general false (← doubleArgument v)
  | 'G' => return layout.double .general true (← doubleArgument v)
  | 'c' => return layout.place false [] [← characterArgument v]
  | _ => raise (.format (.unknownDirective letter index))

/-! ## Filling -/

namespace Directive

/-- The width and the alignment to the left. A negative width aligns to the left. -/
def readWidth (d : Directive) (arguments : Arguments) : Outcome (Nat × Flags × Arguments) := do
  match d.width with
  | .absent => return (0, d.flags, arguments)
  | .given n => if fitsWord64 n then return (n, d.flags, arguments) else raise (.format .wideWidth)
  | .argument =>
    let (n, rest) ← arguments.nextSize fitsWord64 .starWidth
    return (n.natAbs, if n < 0 then { d.flags with left := true } else d.flags, rest)

/-- The precision. A negative one is zero. -/
def readPrecision (d : Directive) (arguments : Arguments) :
    Outcome (Option Nat × Arguments) := do
  match d.precision with
  | .absent => return (none, arguments)
  | .given n =>
    if fitsWord32 n then return (some n, arguments) else raise (.format .widePrecision)
  | .argument =>
    let (n, rest) ← arguments.nextSize fitsWord32 .starPrecision
    return (some n.toNat, rest)

/-- Fills a directive: the key, the sizes and then the argument are looked up in this order. -/
def fill (d : Directive) (arguments : Arguments) : Outcome (List Char × Arguments) := do
  let arguments ← arguments.select d.key
  let (width, flags, arguments) ← d.readWidth arguments
  let (precision, arguments) ← d.readPrecision arguments
  match d.letter with
  | none => raise (.format .incomplete)
  | some (letter, index) =>
    let (v, arguments) ← arguments.next
    return (← convert ⟨flags, width, precision⟩ letter index v, arguments)

end Directive

/-- Fills a piece. -/
def Piece.fill (piece : Piece) (arguments : Arguments) : Outcome (List Char × Arguments) :=
  match piece with
  | .plain cs => .ok (cs, arguments)
  | .directive d => d.fill arguments

/-- Fills the pieces of a template from the left. -/
def fillPieces : List Piece → Arguments → Outcome (List Char)
  | [], arguments => do
    arguments.finish
    return []
  | piece :: rest, arguments => do
    let (cs, arguments) ← piece.fill arguments
    return cs ++ (← fillPieces rest arguments)

/-- The message of a template. Without arguments the template is the message. -/
def message (template : String) (arguments : List Value) : Outcome String :=
  if arguments.isEmpty then .ok template
  else (fillPieces (read template) (.ofList arguments)).map String.ofList

end Clickstream.Template
