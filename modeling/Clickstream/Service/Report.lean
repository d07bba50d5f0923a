import Clickstream.Event.Meaning
import Clickstream.Event.Store
import Clickstream.Service.Clause

/-!
# Reports

The questions that the service puts to a store of events: their text in the query language, and
their answer over the events that a clause selects.
-/

namespace Clickstream

/-- A question about the selected events. -/
inductive Report
  /-- The page views of each path, most viewed first. -/
  | pageviews
  /-- The numbers of sessions, page views and visitors. -/
  | overview
  /-- The identified users with the most sessions. -/
  | identifiedUsers (limit : Nat)
  /-- The paths of each session. -/
  | paths
  deriving DecidableEq, Repr

namespace Report

/-- The text of a report on the events of a clause. -/
def sql (clause : String) : Report → String
  | .pageviews =>
    "SELECT pathname, COUNT(*) AS pageviews FROM events " ++ clause ++
      " GROUP BY pathname ORDER BY pageviews DESC, pathname"
  | .overview =>
    "SELECT COUNT(DISTINCT session_id) AS sessions, " ++
      "COUNT(*) FILTER (WHERE type = 'pageview') AS pageviews, " ++
      "COUNT(DISTINCT user_id) AS users FROM events " ++ clause
  | .identifiedUsers limit =>
    "SELECT identified_user_id, COUNT(DISTINCT session_id) AS sessions, " ++
      "COUNT(*) FILTER (WHERE type = 'pageview') AS pageviews, " ++
      "MAX(\"timestamp\") AS last_seen FROM events " ++ clause ++
      " GROUP BY identified_user_id ORDER BY sessions DESC, identified_user_id LIMIT " ++
      toString limit
  | .paths =>
    "SELECT DISTINCT session_id, pathname FROM events " ++ clause ++
      " ORDER BY session_id, pathname"

/-! ## Answers -/

/-- The number of different items. -/
def countDistinct {α : Type} [BEq α] (items : List α) : Nat :=
  items.eraseDups.length

/-- The number of page views. -/
def countPageviews (events : List Event) : Nat :=
  events.countP fun e => e.type == "pageview"

/-- The number of sessions. -/
def countSessions (events : List Event) : Nat :=
  countDistinct (events.map (·.session))

/-- An optional text as a value. -/
def textValue : Option String → Value
  | some s => .text s
  | none => .null

/-- A count as a value. -/
def countValue (n : Nat) : Value := .int n

/-- Optional texts in ascending order, null last. -/
def textBefore : Option String → Option String → Bool
  | some s, some t => s ≤ t
  | _, none => true
  | none, some _ => false

/-- The different values of an attribute. -/
def attributeValues (a : Attribute) (events : List Event) : List (Option String) :=
  (events.map fun e => e.attributes a).eraseDups

/-- The events with a value of an attribute. -/
def withValue (a : Attribute) (value : Option String) (events : List Event) : List Event :=
  events.filter fun e => e.attributes a == value

/-- A path with its number of events. -/
structure PathCount where
  path : Option String
  count : Nat
  deriving DecidableEq, Repr

/-- The numbers of events of each path, the greatest first, equal numbers by path. -/
def pathCounts (events : List Event) : List PathCount :=
  ((attributeValues .pathname events).map fun path =>
    ⟨path, (withValue .pathname path events).length⟩).mergeSort fun a b =>
      b.count < a.count || (a.count == b.count && textBefore a.path b.path)

/-- The totals of some events. -/
structure Totals where
  sessions : Nat
  pageviews : Nat
  users : Nat
  deriving DecidableEq, Repr

def totals (events : List Event) : Totals :=
  ⟨countSessions events, countPageviews events, countDistinct (events.map (·.user))⟩

/-- The activity of an identified user. -/
structure Activity where
  user : Option String
  sessions : Nat
  pageviews : Nat
  lastSeen : Option Timestamp
  deriving DecidableEq, Repr

/-- The later one of two timestamps. -/
def laterOf (a b : Timestamp) : Timestamp :=
  if a.ticks < b.ticks then b else a

/-- The greatest timestamp. -/
def lastSeen : List Event → Option Timestamp
  | [] => none
  | e :: rest =>
    match lastSeen rest with
    | some t => some (laterOf e.timestamp t)
    | none => some e.timestamp

/-- The activity of a user in some events. -/
def activityOf (events : List Event) (user : Option String) : Activity :=
  let own := withValue .identifiedUserId user events
  ⟨user, countSessions own, countPageviews own, lastSeen own⟩

/-- The activities of all identified users, those with the most sessions first, equal numbers by
user. -/
def activities (events : List Event) : List Activity :=
  ((attributeValues .identifiedUserId events).map (activityOf events)).mergeSort fun a b =>
    b.sessions < a.sessions || (a.sessions == b.sessions && textBefore a.user b.user)

/-- A session with a path. -/
def sessionPaths (events : List Event) : List (String × Option String) :=
  (events.map fun e => (e.session, e.attributes .pathname)).eraseDups.mergeSort fun a b =>
    a.1 < b.1 || (a.1 == b.1 && textBefore a.2 b.2)

/-- The rows of the answer over the selected events. -/
def rows (events : List Event) : Report → List Fields
  | .pageviews =>
    (pathCounts events).map fun c =>
      [("pathname", textValue c.path), ("pageviews", countValue c.count)]
  | .overview =>
    let t := totals events
    [[("sessions", countValue t.sessions), ("pageviews", countValue t.pageviews),
      ("users", countValue t.users)]]
  | .identifiedUsers limit =>
    ((activities events).take limit).map fun a =>
      [("identified_user_id", textValue a.user), ("sessions", countValue a.sessions),
       ("pageviews", countValue a.pageviews),
       ("last_seen", match a.lastSeen with
         | some t => .moment ⟨t, none⟩
         | none => .null)]
  | .paths =>
    (sessionPaths events).map fun p => [("session_id", .text p.1), ("pathname", textValue p.2)]

end Report

namespace EventStore

/-- Answers a report on the events that a clause selects, at an instant of the clock. -/
def answer (store : EventStore) (clock : Timestamp) (report : Report) (clause : Clause) :
    Outcome (List Fields) :=
  match store with
  | none => .error (.unavailable location none)
  | some events =>
    .ok (report.rows (events.filter fun e => Database.selects ⟨events, clock⟩ clause.conditions e))

end EventStore

end Clickstream
