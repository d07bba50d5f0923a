import Clickstream.Failure

/-!
# Traits of identified users

A result row that names an identified user gets the traits of the profile of that user. All
profiles are fetched with one lookup, and with none if no row names a user.
-/

namespace Clickstream

/-- The profiles that a lookup finds, under the ids of the users. -/
abbrev Profiles := Bindings Fields

namespace Enrichment

/-- The field that names the user. -/
def standardField : String := "identified_user_id"

/-- The field that gets the traits. -/
def traitsField : String := "traits"

/-- The user that a row names: a value that is neither null nor empty nor zero, in plain text. -/
def userOf (field : String) (row : Fields) : Option String :=
  let v := Fields.get row field
  if v.isTruthy then some v.plain else none

/-- The users that some rows name, in the order of first occurrence. -/
def users (field : String) (rows : List Fields) : List String :=
  rows.foldl (fun seen row =>
    match userOf field row with
    | some user => if seen.contains user then seen else seen ++ [user]
    | none => seen) []

/-- A row with the traits of its user, null if there are none. -/
def attachTraits (field : String) (profiles : Profiles) (row : Fields) : Fields :=
  let traits := (userOf field row).bind profiles.get?
  Bindings.set row traitsField
    (match traits with
      | some fields => .object fields
      | none => .null)

/-- Attaches traits to rows; `lookup` fetches the profiles of some users. -/
def run {m : Type → Type} [Monad m] (lookup : List String → m (Outcome Profiles)) (field : String)
    (rows : List Fields) : m (Outcome (List Fields)) := do
  match users field rows with
  | [] => return .ok (rows.map (attachTraits field []))
  | ids =>
    match ← lookup ids with
    | .ok profiles => return .ok (rows.map (attachTraits field profiles))
    | .error e => return .error e

end Enrichment

end Clickstream
