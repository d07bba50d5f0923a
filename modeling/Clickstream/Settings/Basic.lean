import Clickstream.Log.Channel
import Clickstream.Log.Record
import Clickstream.Text.Upper
import Clickstream.Yaml.Block

/-!
# Settings

The settings of the service: where the two stores are, and how the service logs. They come from
environment variables or from the section `analytics` of a document; what is not given there keeps
its default. Values from a document are not checked, only the two mappings that hold them.
-/

namespace Clickstream

/-- The place of a store that is kept in memory. -/
def inMemory : String := ":memory:"

structure Settings where
  /-- The place of the events. -/
  eventStore : Value := .text inMemory
  /-- The place of the profiles. -/
  profileStore : Value := .text inMemory
  logLevel : Value := .text "INFO"
  jsonLogs : Bool := true
  deriving Repr

namespace Settings

/-- The words that stand for true. -/
def trueWords : List String :=
  ["1", "true", "yes", "on"]

/-- A setting that is on or off. It is on if its plain form, without white space around it and
whatever the case of its letters, is a true word; beyond ASCII no character is another case of a
letter of these words. -/
def isOn (v : Value) : Bool :=
  match v with
  | .bool b => b
  | _ => trueWords.contains (String.ofList ((Text.strip v.plain).toList.map asciiLower))

/-! ## From the environment -/

/-- The settings of an environment. -/
def ofEnvironment (environment : Bindings String) : Settings :=
  let get (name default : String) : String :=
    (environment.get? ("SITE_ANALYTICS_" ++ name)).getD default
  { eventStore := .text (get "DUCKDB_PATH" inMemory)
    profileStore := .text (get "SQLITE_PATH" inMemory)
    logLevel := .text (Text.upper (get "LOG_LEVEL" "INFO"))
    jsonLogs := isOn (.text (get "JSON_LOGS" "true")) }

/-! ## From a document -/

/-- The fields of a mapping; a value that is null, zero, false or empty is an empty mapping. -/
def mappingOf (v : Value) (refusal : Rejection) : Outcome Fields :=
  match v with
  | .object fields => .ok fields
  | _ => if v.isTruthy then reject refusal else .ok []

/-- Puts the fields of the section over the defaults. -/
def ofSection (fields : Fields) : Settings :=
  let base : Settings := {}
  { eventStore := (fields.get? "duckdb_path").getD base.eventStore
    profileStore := (fields.get? "sqlite_path").getD base.profileStore
    logLevel := match fields.get? "log_level" with
      | some v => .text (Text.upper v.plain)
      | none => base.logLevel
    jsonLogs := match fields.get? "json_logs" with
      | some v => isOn v
      | none => base.jsonLogs }

/-- The settings in a document; `file` is the name to report. -/
def ofDocument (file : String) (document : Value) : Outcome Settings := do
  let top ← mappingOf document (.settingsNotMapping file)
  let fields ← mappingOf (Fields.get top "analytics") (.sectionNotMapping "analytics" file)
  return ofSection fields

/-- Reads the settings in a text. -/
def read (file text : String) : Outcome Settings :=
  match Yaml.readDocument text with
  | some document => ofDocument file document
  | none => reject (.settingsUnreadable file)

/-! ## Logging -/

/-- Sets up the log of the service. -/
def configureLogging (settings : Settings) : Outcome Channel :=
  Channel.configure (some serviceName) settings.logLevel settings.jsonLogs

end Settings

end Clickstream
