import Clickstream.Calendar.Epoch
import Clickstream.Json.Reader
import Clickstream.Json.Writer
import Clickstream.Number.Decimal
import Clickstream.Value.Display

/-!
# Failures

Everything that can go wrong, by cause. A `Rejection` is the client's fault: a filter, a time range
or a grouping argument is malformed. A `Failure` is a rejection, a query that cannot be put
together, or a store that fails; each has a message, a status and details for a response. A `Fault`
is a condition of the underlying conversions that no rule of the library turns into a failure; it
has a message only.
-/

namespace Clickstream

/-! ## Faults -/

/-- A directive of a log message that does not fit its arguments. -/
inductive FormatFault
  | tooFewArguments
  | tooManyArguments
  | incomplete
  | incompleteKey
  | wideWidth
  | widePrecision
  | unknownDirective (c : Char) (index : Nat)
  | needsMapping
  | needsNumber (directive : Char) (typeName : String)
  | needsInteger (directive : Char) (typeName : String)
  | notReal (typeName : String)
  | needsCharacter
  | characterRange
  | starNeedsInteger
  | starWidth
  | starPrecision
  | integerPrecision
  | missingKey (name : String)
  deriving DecidableEq, Repr

/-- A condition that the library passes on. -/
inductive Fault
  /-- A text is no integer. -/
  | integerText (shown : String)
  /-- An integer text has too many digits. No digits stand for an integer that has too many to be
  written. -/
  | integerDigits (digits : Nat)
  /-- A text is no double. -/
  | doubleText (shown : String)
  /-- A value of this kind has no integer. -/
  | notIntegral (typeName : String)
  | nanToInteger
  | infinityToInteger
  /-- An integer lies beyond the largest double. -/
  | integerToDouble
  /-- A date lies outside the calendar. -/
  | calendarRange
  /-- A count of seconds names no moment. -/
  | epoch (fault : EpochFault)
  /-- A value of this kind cannot be compared with zero. -/
  | unordered (typeName : String)
  | decimal (signal : DecimalSignal)
  /-- A value is none of the names of an enumeration. -/
  | notMember (shown kind : String)
  /-- A row lacks a column. -/
  | missingColumn (name : String)
  /-- A value of this kind is no key. -/
  | unhashable (typeName : String)
  | undecodable (fault : Text.DecodeFault)
  | unwritable (kind : Json.Unwritable)
  /-- A context key collides with a record attribute. -/
  | recordAttribute (name : String)
  | format (fault : FormatFault)
  | unknownLevel (shown : String)
  | levelType (shown : String)
  /-- An integer does not fit the columns of the profile store. -/
  | profileInteger
  /-- A value of this kind has no fields. -/
  | noFields (typeName : String)
  /-- A condition of the code that runs inside a timed block. -/
  | block (text : String)
  deriving DecidableEq, Repr

namespace FormatFault

def message : FormatFault → String
  | .tooFewArguments => "not enough arguments for format string"
  | .tooManyArguments => "not all arguments converted during string formatting"
  | .incomplete => "incomplete format"
  | .incompleteKey => "incomplete format key"
  | .wideWidth => "width too big"
  | .widePrecision => "precision too big"
  | .unknownDirective c index =>
    "unsupported format character '" ++
      (if 31 ≤ c.toNat && c.toNat < 127 then c.toString else "?") ++
      "' (0x" ++ String.ofList (Nat.toDigits 16 c.toNat) ++ ") at index " ++ toString index
  | .needsMapping => "format requires a mapping"
  | .needsNumber d t => "%" ++ d.toString ++ " format: a real number is required, not " ++ t
  | .needsInteger d t => "%" ++ d.toString ++ " format: an integer is required, not " ++ t
  | .notReal t => "must be real number, not " ++ t
  | .needsCharacter => "%c requires int or char"
  | .characterRange => "%c arg not in range(0x110000)"
  | .starNeedsInteger => "* wants int"
  | .starWidth => "Python int too large to convert to C ssize_t"
  | .starPrecision => "Python int too large to convert to C int"
  | .integerPrecision => "precision too large"
  | .missingKey name => Text.quoted name

end FormatFault

namespace Fault

/-- An integer has too many digits to be written. -/
def unwritableInteger : Fault :=
  .integerDigits 0

/-- What is wrong with a byte sequence, in words. -/
def decodeReason : Text.DecodeReason → String
  | .startByte => "invalid start byte"
  | .continuationByte => "invalid continuation byte"
  | .endOfData => "unexpected end of data"
  | .truncated => "truncated data"
  | .codePoint => "code point not in range(0x110000)"

def decodeMessage (f : Text.DecodeFault) : String :=
  let place := match f.bytes with
    | [b] => "byte 0x" ++ String.ofList (Text.hex 2 b.toNat) ++ " in position " ++
        toString f.position
    | bs => "bytes in position " ++ toString f.position ++ "-" ++
        toString (f.position + bs.length - 1)
  "'" ++ f.encoding.name ++ "' codec can't decode " ++ place ++ ": " ++ decodeReason f.reason

def epochMessage : EpochFault → String
  | .notANumber => "Invalid value NaN (not a number)"
  | .count => "timestamp out of range for platform time_t"
  | .wideYear => "[Errno 75] Value too large for defined data type"
  | .year year => "year " ++ toString year ++ " is out of range"

def decimalMessage : DecimalSignal → String
  | .malformedText => "[<class 'decimal.ConversionSyntax'>]"
  | .invalidOperation => "[<class 'decimal.InvalidOperation'>]"
  | .overflow => "[<class 'decimal.Overflow'>]"

def message : Fault → String
  | .integerText shown =>
    "invalid literal for int() with base 10: " ++ String.ofList (shown.toList.take 200)
  | .integerDigits digits =>
    "Exceeds the limit (" ++ toString maxIntegerDigits ++
      " digits) for integer string conversion" ++
      (if digits = 0 then "" else ": value has " ++ toString digits ++ " digits") ++
      "; use sys.set_int_max_str_digits() to increase the limit"
  | .doubleText shown => "could not convert string to float: " ++ shown
  | .notIntegral t =>
    "int() argument must be a string, a bytes-like object or a real number, not '" ++ t ++ "'"
  | .nanToInteger => "cannot convert float NaN to integer"
  | .infinityToInteger => "cannot convert float infinity to integer"
  | .integerToDouble => "int too large to convert to float"
  | .calendarRange => "date value out of range"
  | .epoch fault => epochMessage fault
  | .unordered t => "'<' not supported between instances of '" ++ t ++ "' and 'int'"
  | .decimal signal => decimalMessage signal
  | .notMember shown kind => shown ++ " is not a valid " ++ kind
  | .missingColumn name => Text.quoted name
  | .unhashable t => "unhashable type: '" ++ t ++ "'"
  | .undecodable fault => decodeMessage fault
  | .unwritable .bytes => "Object of type bytes is not JSON serializable"
  | .unwritable .moment => "Object of type datetime is not JSON serializable"
  | .recordAttribute name =>
    Text.quoted ("Attempt to overwrite " ++ Text.quoted name ++ " in LogRecord")
  | .format fault => fault.message
  | .unknownLevel shown => "Unknown level: " ++ shown
  | .levelType shown => "Level not an integer or a valid string: " ++ shown
  | .profileInteger => "Python int too large to convert to SQLite INTEGER"
  | .noFields t => "'" ++ t ++ "' object has no attribute 'get'"
  | .block text => text

end Fault

/-! ## Rejections -/

/-- Why a request is refused. -/
inductive Rejection
  | depth (given : Value)
  | filtersNotJson (m : Json.Malformed)
  | filtersNotList
  | filterNotObject
  | unexpectedFields (names : List String)
  | unknownParameter (given : Value)
  | unknownFilterType (given : Value)
  | filterValues
  | urlParameterName (name : String)
  | coordinatePattern (parameter : String)
  | coordinateNotNumeric (parameter given : String)
  | coordinateNotFinite (parameter given : String)
  | minutesNotNumber (field : String) (given : Value)
  | minutesNotFinite (field : String) (given : Value)
  | mixedRange
  | partialDates
  | dateForm (field given : String)
  | noCalendarDate (field given : String)
  | datesInverted (start : String)
  | unknownZone (given : String)
  | partialMinutes
  | infiniteMinutes
  | negativeMinutes
  | minutesInverted (start : Value)
  | outsideCalendar (field : String) (given : Value)
  | missingPrefix
  | limit (maximum : Nat) (given : Value)
  | settingsUnreadable (file : String)
  | settingsNotMapping (file : String)
  | sectionNotMapping (name file : String)
  /-- Any other field with a reason of its own. -/
  | other (name reason : String) (given : Value)
  deriving Repr

namespace Rejection

/-- The part of the request that is refused. -/
def subject : Rejection → String
  | .depth _ => "depth"
  | .filtersNotJson _ | .filtersNotList | .filterNotObject | .unexpectedFields _ => "filters"
  | .unknownParameter _ | .urlParameterName _ => "filters.parameter"
  | .unknownFilterType _ => "filters.type"
  | .filterValues => "filters.value"
  | .coordinatePattern parameter | .coordinateNotNumeric parameter _
  | .coordinateNotFinite parameter _ => "filters." ++ parameter
  | .minutesNotNumber field _ | .minutesNotFinite field _ | .dateForm field _
  | .noCalendarDate field _ | .outsideCalendar field _ => field
  | .mixedRange | .partialDates | .partialMinutes | .infiniteMinutes | .negativeMinutes =>
    "time_range"
  | .datesInverted _ => "start_date"
  | .unknownZone _ => "time_zone"
  | .minutesInverted _ => "past_minutes_start"
  | .missingPrefix => "prefix"
  | .limit .. => "limit"
  | .settingsUnreadable _ | .settingsNotMapping _ => "settings"
  | .sectionNotMapping name _ => name
  | .other name _ _ => name

/-- The reason in words. -/
def reason : Rejection → String
  | .depth _ => "must be a positive integer"
  | .filtersNotJson m => "not valid JSON: " ++ m.message
  | .filtersNotList => "must be a list"
  | .filterNotObject => "each filter must be an object"
  | .unexpectedFields names => "unexpected fields: " ++ ", ".intercalate names
  | .unknownParameter _ => "unknown filter parameter"
  | .unknownFilterType _ => "unknown filter type"
  | .filterValues => "must be a non-empty list of strings"
  | .urlParameterName _ => "invalid URL parameter name"
  | .coordinatePattern _ => "only equals/not_equals apply to coordinates"
  | .coordinateNotNumeric .. => "must be numeric"
  | .coordinateNotFinite .. => "must be a finite number"
  | .minutesNotNumber .. => "must be a number"
  | .minutesNotFinite .. => "must be a finite number"
  | .mixedRange => "cannot combine start_date/end_date with past_minutes_start/end"
  | .partialDates => "start_date, end_date and time_zone must be supplied together"
  | .dateForm .. => "must be a YYYY-MM-DD date"
  | .noCalendarDate .. => "is not a valid calendar date"
  | .datesInverted _ => "must not be after end_date"
  | .unknownZone _ => "unknown time zone"
  | .partialMinutes => "past_minutes_start and past_minutes_end must be supplied together"
  | .infiniteMinutes => "past minutes must be finite numbers"
  | .negativeMinutes => "past minutes must not be negative"
  | .minutesInverted _ => "must be greater than past_minutes_end"
  | .outsideCalendar .. => "outside the supported calendar range"
  | .missingPrefix => "is required"
  | .limit maximum _ => "must be an integer between 1 and " ++ toString maximum
  | .settingsUnreadable _ => "not a document that can be read"
  | .settingsNotMapping _ => "top level must be a mapping"
  | .sectionNotMapping .. => "must be a mapping"
  | .other _ reason _ => reason

/-- The value that is refused, null if there is none to show. -/
def given : Rejection → Value
  | .depth v | .unknownParameter v | .unknownFilterType v | .minutesNotNumber _ v
  | .minutesNotFinite _ v | .minutesInverted v | .outsideCalendar _ v | .limit _ v
  | .other _ _ v => v
  | .urlParameterName s | .coordinateNotNumeric _ s | .coordinateNotFinite _ s | .dateForm _ s
  | .noCalendarDate _ s | .datesInverted s | .unknownZone s | .settingsUnreadable s
  | .settingsNotMapping s | .sectionNotMapping _ s => .text s
  | _ => .null

end Rejection

/-! ## Failures -/

/-- Why an operation has no result. -/
inductive Failure
  | rejected (r : Rejection)
  /-- One parameter name is bound to two values. -/
  | conflict (parameter : String)
  | unsupportedOperator (operator : String)
  /-- Any other failure of putting a query together. -/
  | compilation (text : String) (parameter : Option String)
  /-- An operation of a store failed. The cause is named by its kind. -/
  | storage (operation : String) (store : Option String) (cause : Option String)
  /-- A store cannot be opened or is closed. The cause is given by its text. -/
  | unavailable (store : String) (cause : Option String)
  /-- Any other failure. -/
  | general (text : String) (details : Fields)
  | fault (f : Fault)
  deriving Repr

namespace Failure

/-- A cause in parentheses. -/
def inParentheses : Option String → String
  | some s => " (" ++ s ++ ")"
  | none => ""

def message : Failure → String
  | .rejected r => "Invalid " ++ r.subject ++ ": " ++ r.reason
  | .conflict p => "Parameter $" ++ p ++ " bound to conflicting values"
  | .unsupportedOperator op => "Unsupported comparison operator: " ++ op
  | .compilation text _ => text
  | .storage operation _ cause => operation ++ " failed" ++ inParentheses cause
  | .unavailable store cause => "Store unavailable: " ++ store ++ inParentheses cause
  | .general text _ => text
  | .fault f => f.message

/-- The status of a response; a fault has none. -/
def status : Failure → Option Nat
  | .rejected _ => some 400
  | .conflict _ | .unsupportedOperator _ | .compilation .. | .general .. => some 500
  | .storage .. | .unavailable .. => some 503
  | .fault _ => none

/-- A refused value as it is shown in a response: texts, numbers and truth values as they are, any
other value in its shown form. -/
def detail : Value → Value
  | v@(.text _) | v@(.int _) | v@(.real _) | v@(.bool _) => v
  | v => .text v.shown

/-- A text field, unless the text is absent or empty. -/
def textField (name : String) : Option String → Fields
  | none | some "" => []
  | some s => [(name, .text s)]

/-- The details of a response. -/
def details : Failure → Fields
  | .rejected r =>
    [("field", .text r.subject), ("reason", .text r.reason)] ++
      (match r.given with
        | .null => []
        | v => [("value", detail v)])
  | .conflict p => textField "parameter" (some p)
  | .unsupportedOperator _ => []
  | .compilation _ p => textField "parameter" p
  | .storage operation store _ => ("operation", .text operation) :: textField "store" store
  | .unavailable store _ => [("store", .text store)]
  | .general _ details => details
  | .fault _ => []

/-- The body of a response: the kind of failure, the message, and the details over them. -/
def body (kind : String) (f : Failure) : Fields :=
  Bindings.update [("error", .text kind), ("message", .text f.message)] f.details

end Failure

/-- The result of an operation that may fail. -/
abbrev Outcome (α : Type) := Except Failure α

/-- Refuses a request. -/
def reject {α : Type} (r : Rejection) : Outcome α :=
  .error (.rejected r)

/-- Passes a condition on. -/
def raise {α : Type} (f : Fault) : Outcome α :=
  .error (.fault f)

end Clickstream
