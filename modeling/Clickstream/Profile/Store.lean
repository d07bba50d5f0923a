import Clickstream.Number.Word
import Clickstream.Result.Traits
import Clickstream.Value.Integer

/-!
# The store of profiles

A store is closed, or it holds the traits of users by site and user. Traits are kept as JSON text.
A text that does not read as JSON counts as no traits and is reported; so does, without a report,
a text that is no object.
-/

namespace Clickstream

/-- A profile as it is stored. -/
structure Profile where
  site : Int
  user : String
  traits : String
  deriving DecidableEq, Repr

/-- A store: nothing if it is closed. -/
abbrev ProfileStore := Option (List Profile)

namespace ProfileStore

/-- The name of a store that is kept in memory. -/
def location : String := ":memory:"

/-- An empty store. -/
def empty : ProfileStore := some []

/-- Opens a closed store as an empty one; an open store stays as it is. -/
def opened : ProfileStore → ProfileStore
  | none => empty
  | some profiles => some profiles

/-- A site as it is stored. -/
def readSite (v : Value) : Outcome Int := do
  let site ← v.toInteger
  if fitsWord64 site then .ok site else raise .profileInteger

/-- The failure of a store in a file that cannot be made. -/
def openFailure (path : String) : Failure :=
  .unavailable path (some "unable to open database file")

/-- The failure of a write. -/
def upsertFailure (cause : String) : Failure :=
  .storage "upsert_profile" (some location) (some cause)

/-- A user as it is stored. -/
def readUser (v : Value) : Outcome String :=
  match v with
  | .text s => .ok s
  | .null => .error (upsertFailure "IntegrityError")
  | .bool b => .ok (if b then "1" else "0")
  | .int _ | .real _ => .ok v.shown
  | _ => .error (upsertFailure "InterfaceError")

/-- The text of traits. -/
def writeTraits (traits : Fields) : Outcome String :=
  match Json.write (.object traits) with
  | .ok s => .ok s
  | .error kind => raise (.unwritable kind)

/-- Replaces the profile of a user, or adds it. -/
def put (profile : Profile) : List Profile → List Profile
  | [] => [profile]
  | p :: rest =>
    if p.site = profile.site ∧ p.user = profile.user then profile :: rest
    else p :: put profile rest

/-- The profile of a user. -/
def find? (site : Int) (user : String) (profiles : List Profile) : Option Profile :=
  profiles.find? fun p => p.site = site ∧ p.user = user

/-- Stores a text as the traits of a user. -/
def putText (store : ProfileStore) (site : Value) (user : Value) (traits : String) :
    Outcome ProfileStore :=
  match store with
  | none => .error (.unavailable location none)
  | some profiles => do
    let site ← readSite site
    let user ← readUser user
    .ok (some (put ⟨site, user, traits⟩ profiles))

/-- Creates or replaces the traits of a user. -/
def upsert (store : ProfileStore) (site : Value) (user : Value) (traits : Fields) :
    Outcome ProfileStore :=
  match store with
  | none => .error (.unavailable location none)
  | some _ => do
    let _ ← site.toInteger
    let text ← writeTraits traits
    store.putText site user text

/-! ## Looking up -/

/-- The traits in a stored text, and whether the text is malformed. -/
def readTraits (text : String) : Outcome (Fields × Bool) :=
  match Json.readText text with
  | .ok (.object fields) => .ok (fields, false)
  | .ok _ => .ok ([], false)
  | .error (.malformed _) => .ok ([], true)
  | .error (.longInteger digits) => raise (.integerDigits digits)

/-- The report of a malformed text. -/
def malformedTraits (user : String) : String :=
  "Ignoring malformed traits for user " ++ user

/-- Decodes the profiles that were found, and collects reports up to the first fault. -/
def decodeProfiles : List Profile → List String × Outcome Profiles
  | [] => ([], .ok [])
  | p :: rest =>
    match readTraits p.traits with
    | .error e => ([], .error e)
    | .ok (fields, isMalformed) =>
      let (reports, result) := decodeProfiles rest
      (if isMalformed then malformedTraits p.user :: reports else reports,
        result.map ((p.user, fields) :: ·))

/-- Ids in the order of their characters, without repetitions. -/
def sortedIds (ids : List String) : List String :=
  (ids.mergeSort fun a b => a ≤ b).eraseDups

/-- Fetches the profiles of some users of a site. -/
def lookup (store : ProfileStore) (site : Value) (ids : List String) :
    List String × Outcome Profiles :=
  match ids with
  | [] => ([], .ok [])
  | _ =>
    match store with
    | none => ([], .error (.unavailable location none))
    | some profiles =>
      match readSite site with
      | .error e => ([], .error e)
      | .ok site => decodeProfiles ((sortedIds ids).filterMap fun id => find? site id profiles)

end ProfileStore

end Clickstream
