import Clickstream.Event.Cell
import Clickstream.Query.Column

/-!
# Events

A tracking event: a page view, or any other event of a session on a site. The columns of the table
of events are read off it (`Event.cell`), computed columns included.
-/

namespace Clickstream

/-- An event. Its timestamp is in UTC. -/
structure Event where
  site : Int
  session : String
  user : String
  timestamp : Timestamp
  type : String
  attributes : Attribute → Option String
  lat : Option Binary64
  lon : Option Binary64
  screenWidth : Option Int
  screenHeight : Option Int
  urlParameters : Bindings String

/-- The values of the columns of a row. -/
abbrev Row := Column → Cell

namespace Event

/-- An optional number. -/
def numberCell : Option Int → Cell
  | some n => .int n
  | none => .null

/-- An optional coordinate. -/
def coordinateCell : Option Binary64 → Cell
  | some x => .real x
  | none => .null

/-- The cell of an attribute. -/
def attributeCell (e : Event) (a : Attribute) : Cell :=
  Cell.ofText? (e.attributes a)

/-- Two cells with a separator between them. -/
def joinedCells (first : Cell) (separator : String) (second : Cell) : Cell :=
  .concat [first, .text separator, second]

/-- The name of an operating system with its version; Windows 10 and 11 are told apart by no
browser. -/
def systemCell (e : Event) : Cell :=
  let cell := joinedCells (e.attributeCell .operatingSystem) " "
    (e.attributeCell .operatingSystemVersion)
  if cell = .text "Windows 10" then .text "Windows 10/11" else cell

/-- The host of a URL without a leading `www.`. -/
def hostOf (url : String) : String :=
  String.ofList (Column.wwwPattern.removeFirst (Column.hostPattern.extract url.toList))

/-- The row of an event. -/
def cell (e : Event) : Row
  | .siteId => .int e.site
  | .sessionId => .text e.session
  | .userId => .text e.user
  | .timestamp => .time e.timestamp
  | .type => .text e.type
  | .attribute a => e.attributeCell a
  | .lat => coordinateCell e.lat
  | .lon => coordinateCell e.lon
  | .screenWidth => numberCell e.screenWidth
  | .screenHeight => numberCell e.screenHeight
  | .browserWithVersion =>
    joinedCells (e.attributeCell .browser) " " (e.attributeCell .browserVersion)
  | .systemWithVersion => e.systemCell
  | .regionCity => joinedCells (e.attributeCell .region) "-" (e.attributeCell .city)
  | .dimensions => joinedCells (numberCell e.screenWidth) "x" (numberCell e.screenHeight)
  | .referrerDomain => Cell.ofText? ((e.attributes .referrer).map hostOf)
  | .urlParameter name => Cell.ofText? (e.urlParameters.get? name)
  | .other _ => .null

end Event

end Clickstream
