import Clickstream.Failure
import Clickstream.Query.Expr

/-!
# Filters

A filter compares one parameter of the events with a list of values. The parameter is one of a
fixed set, or the name of a parameter of the URL: `utm_…` names itself, and `url_param:…` names what
stands behind the colon.
-/

namespace Clickstream

/-- How a filter compares. -/
inductive FilterKind
  | equals
  | notEquals
  | contains
  | notContains
  deriving DecidableEq, Repr

namespace FilterKind

def name : FilterKind → String
  | .equals => "equals"
  | .notEquals => "not_equals"
  | .contains => "contains"
  | .notContains => "not_contains"

def all : List FilterKind :=
  [.equals, .notEquals, .contains, .notContains]

/-- The kind that a value names. -/
def ofValue? : Value → Option FilterKind
  | .text s => all.find? fun kind => kind.name == s
  | _ => none

/-- The kind that a value names; any other value is passed on as a fault. -/
def ofValue (v : Value) : Outcome FilterKind :=
  match ofValue? v with
  | some kind => .ok kind
  | none => raise (.notMember v.shown "FilterType")

/-- The comparison of a single value. -/
def comparison : FilterKind → Comparison
  | .equals => .eq
  | .notEquals => .ne
  | .contains => .like
  | .notContains => .notLike

/-- An exclusion: the values are combined so that all of them are excluded. -/
def isNegated : FilterKind → Bool
  | .notEquals | .notContains => true
  | .equals | .contains => false

/-- The values are parts of texts. -/
def isPattern : FilterKind → Bool
  | .contains | .notContains => true
  | .equals | .notEquals => false

/-- The inclusion that an exclusion negates. -/
def positive : FilterKind → FilterKind
  | .equals | .notEquals => .equals
  | .contains | .notContains => .contains

end FilterKind

/-- A filter. -/
structure Filter where
  parameter : String
  kind : FilterKind
  values : List String
  deriving DecidableEq, Repr

namespace Filter

/-! ## Parameters -/

/-- The parameters with a fixed meaning. -/
def fixedParameters : List String :=
  ["browser", "browser_version", "operating_system", "operating_system_version", "language",
   "country", "region", "city", "lat", "lon", "device_type", "dimensions", "referrer", "channel",
   "hostname", "pathname", "page_title", "querystring", "event_name", "entry_page", "exit_page",
   "user_id"]

/-- The text after a given beginning. -/
def dropLeading? : List Char → List Char → Option (List Char)
  | [], rest => some rest
  | _ :: _, [] => none
  | c :: cs, d :: ds => if c = d then dropLeading? cs ds else none

/-- The name of the URL parameter that a parameter refers to. -/
def urlName? (parameter : String) : Option String :=
  match dropLeading? "url_param:".toList parameter.toList with
  | some name => some (String.ofList name)
  | none => if (dropLeading? "utm_".toList parameter.toList).isSome then some parameter else none

/-- A character of the name of a URL parameter. -/
def isNameChar (c : Char) : Bool :=
  c.isAlphanum || c == '_' || c == '.' || c == '-'

/-- A line feed at the end of a text is not part of the name. -/
def dropFinalBreak (cs : List Char) : List Char :=
  if cs.getLast? = some '\n' then cs.dropLast else cs

/-- A name of a URL parameter: 1 to 128 letters, digits and `_.-`. -/
def isUrlName (name : String) : Bool :=
  let cs := dropFinalBreak name.toList
  1 ≤ cs.length && cs.length ≤ 128 && cs.all isNameChar

/-- The parameter is a fixed one, or refers to a URL parameter. -/
def isKnownParameter (parameter : String) : Bool :=
  fixedParameters.contains parameter || (urlName? parameter).any isUrlName

end Filter

end Clickstream
