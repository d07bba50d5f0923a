import Clickstream.Pattern.RegexText
import Clickstream.Query.Literal

/-!
# Columns

The columns of the table of events, and the expressions over them that filters compare. Every
column has a text in the query language (`Column.sql`). Any other trusted text is a column too; it
also stands for the names that a subquery gives to its results.
-/

namespace Clickstream

/-- The text columns of an event that may be null. -/
inductive Attribute
  | identifiedUserId
  | eventName
  | pathname
  | hostname
  | querystring
  | pageTitle
  | referrer
  | channel
  | browser
  | browserVersion
  | operatingSystem
  | operatingSystemVersion
  | language
  | country
  | region
  | city
  | deviceType
  deriving DecidableEq, Repr

namespace Attribute

/-- The name of the column. -/
def name : Attribute → String
  | .identifiedUserId => "identified_user_id"
  | .eventName => "event_name"
  | .pathname => "pathname"
  | .hostname => "hostname"
  | .querystring => "querystring"
  | .pageTitle => "page_title"
  | .referrer => "referrer"
  | .channel => "channel"
  | .browser => "browser"
  | .browserVersion => "browser_version"
  | .operatingSystem => "operating_system"
  | .operatingSystemVersion => "operating_system_version"
  | .language => "language"
  | .country => "country"
  | .region => "region"
  | .city => "city"
  | .deviceType => "device_type"

def all : List Attribute :=
  [.identifiedUserId, .eventName, .pathname, .hostname, .querystring, .pageTitle, .referrer,
   .channel, .browser, .browserVersion, .operatingSystem, .operatingSystemVersion, .language,
   .country, .region, .city, .deviceType]

end Attribute

/-- A column of a query. -/
inductive Column
  | siteId
  | sessionId
  | userId
  | timestamp
  | type
  | attribute (a : Attribute)
  | lat
  | lon
  | screenWidth
  | screenHeight
  /-- The browser and its version with a space between them. -/
  | browserWithVersion
  /-- The operating system and its version; Windows 10 stands for two versions. -/
  | systemWithVersion
  /-- The region and the city with a hyphen between them. -/
  | regionCity
  /-- The width and the height of the screen with an `x` between them. -/
  | dimensions
  /-- The host of the referrer. -/
  | referrerDomain
  /-- A parameter of the URL. -/
  | urlParameter (name : String)
  /-- Any other text. -/
  | other (sql : String)
  deriving DecidableEq, Repr

namespace Column

/-- A URL up to the end of its host, which is captured: an optional scheme, and characters that
end neither the host nor the port. -/
def hostPattern : Regex :=
  .ofList [.start,
    .optional (.ofList [
      .one (.within [('A', 'Z'), ('a', 'z')]),
      .many (.within [('A', 'Z'), ('a', 'z'), ('0', '9'), ('+', '+'), ('.', '.'), ('-', '-')]),
      .one (.only ':'), .one (.only '/'), .one (.only '/')]),
    .capture (.oneOrMore (.without [('/', '/'), (':', ':'), ('?', '?'), ('#', '#')]))]

/-- A leading `www.`. -/
def wwwPattern : Regex :=
  .ofList [.start, .one (.only 'w'), .one (.only 'w'), .one (.only 'w'), .one (.only '.')]

/-- A column as text. -/
def asText (column : String) : String :=
  "CAST(" ++ column ++ " AS VARCHAR)"

/-- Two columns as text with a separator between them. -/
def joined (first separator second : String) : String :=
  "concat(" ++ asText first ++ ", " ++ sqlLiteral separator ++ ", " ++ asText second ++ ")"

/-- The path of a URL parameter in the map of parameters. -/
def parameterPath (name : String) : String :=
  "$.\"" ++ name ++ "\""

/-- The text of a column in the query language. -/
def sql : Column → String
  | .siteId => "site_id"
  | .sessionId => "session_id"
  | .userId => "user_id"
  | .timestamp => "\"timestamp\""
  | .type => "type"
  | .attribute a => a.name
  | .lat => "lat"
  | .lon => "lon"
  | .screenWidth => "screen_width"
  | .screenHeight => "screen_height"
  | .browserWithVersion => joined "browser" " " "browser_version"
  | .systemWithVersion =>
    let system := joined "operating_system" " " "operating_system_version"
    "CASE WHEN " ++ system ++ " = 'Windows 10' THEN 'Windows 10/11' ELSE " ++ system ++ " END"
  | .regionCity => joined "region" "-" "city"
  | .dimensions => joined "screen_width" "x" "screen_height"
  | .referrerDomain =>
    "regexp_replace(regexp_extract(referrer, " ++ sqlLiteral hostPattern.toText ++ ", 1), " ++
      sqlLiteral wwwPattern.toText ++ ", '')"
  | .urlParameter name =>
    "json_extract_string(url_parameters, " ++ sqlLiteral (parameterPath name) ++ ")"
  | .other sql => sql

/-- The columns that have a meaning, URL parameters apart. -/
def known : List Column :=
  [.siteId, .sessionId, .userId, .timestamp, .type, .lat, .lon, .screenWidth, .screenHeight,
   .browserWithVersion, .systemWithVersion, .regionCity, .dimensions, .referrerDomain] ++
    Attribute.all.map .attribute

/-- The column with a text. -/
def ofText (sql : String) : Column :=
  (known.find? fun column => column.sql == sql).getD (.other sql)

theorem sql_ofText (sql : String) : (ofText sql).sql = sql := by
  unfold ofText
  cases h : known.find? fun column => column.sql == sql with
  | none => rfl
  | some column =>
    have := List.find?_some h
    simpa using this

end Column

end Clickstream
