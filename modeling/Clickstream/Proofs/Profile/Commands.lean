import Clickstream.Proofs.Profile.Store

/-!
# Runs of a store of profiles

Commands are carried out one after the other by a store of profiles (`ProfileStore.execute`), and by
a machine that is closed or keeps a finite map from sites and users to traits (`TraitMap.execute`).
The machine says what a store promises: a write replaces one entry, and a lookup finds the requested
users that have an entry under the site.  A closed store refuses to write, and to look up anyone; it
is empty when it is opened again, while an open one stays as it is.

One command preserves that the profiles of the store stand for the map of the machine, and both give
the same answer (`execute_agrees`).  By induction they give the same answers to any commands
(`answers_agree`).
-/

namespace Clickstream

/-! ## Commands -/

/-- A command to a store. -/
inductive Command
  | start
  | close
  | upsert (site : Int) (user : String) (traits : Fields)
  | fetch (site : Int) (ids : List String)

namespace Command

/-- Sites fit a word, and traits are an object of JSON. -/
def IsWellFormed : Command → Prop
  | .start | .close => True
  | .upsert site _ traits => fitsWord64 site = true ∧ Json.IsJson (.object traits)
  | .fetch site _ => fitsWord64 site = true

end Command

/-- The answer to a command: a lookup has a result, other commands have none. -/
inductive Answer (α : Type)
  | done
  | found (result : α)
  | failed (failure : Failure)

/-- The answers to commands that are carried out one after the other. -/
def answers {σ α : Type} (execute : σ → Command → Answer α × σ) :
    σ → List Command → List (Answer α)
  | _, [] => []
  | state, command :: rest =>
    let (answer, state) := execute state command
    answer :: answers execute state rest

/-! ## Two machines -/

/-- Carries out a command.  A command that fails leaves the store as it is. -/
def ProfileStore.execute (store : ProfileStore) : Command → Answer Profiles × ProfileStore
  | .start => (.done, store.opened)
  | .close => (.done, none)
  | .upsert site user traits =>
    match store.upsert (.int site) (.text user) traits with
    | .ok written => (.done, written)
    | .error failure => (.failed failure, store)
  | .fetch site ids =>
    match (store.lookup (.int site) ids).2 with
    | .ok profiles => (.found profiles, store)
    | .error failure => (.failed failure, store)

/-- A store in memory is closed. -/
def ProfileStore.closedFailure : Failure :=
  .unavailable location none

/-- Carries out a command on a map, or on nothing if the machine is closed.  The result of a lookup
says which users have which traits. -/
def TraitMap.execute :
    Option TraitMap → Command → Answer (String → Option Fields) × Option TraitMap
  | none, .start => (.done, some ∅)
  | some m, .start => (.done, some m)
  | _, .close => (.done, none)
  | none, .upsert _ _ _ => (.failed ProfileStore.closedFailure, none)
  | some m, .upsert site user traits => (.done, some (m.insert (site, user) traits))
  | none, .fetch _ [] => (.found fun _ => none, none)
  | none, .fetch _ (_ :: _) => (.failed ProfileStore.closedFailure, none)
  | some m, .fetch site ids =>
    (.found fun user => if user ∈ ids then m.lookup (site, user) else none, some m)

/-! ## Agreement -/

/-- An answer of the store is that of the machine.  The result of a lookup binds no user twice, and
has the traits of the machine for each one. -/
inductive Answer.Agrees : Answer Profiles → Answer (String → Option Fields) → Prop
  | done : Agrees .done .done
  | found {profiles : Profiles} {traits : String → Option Fields} (hnodup : profiles.names.Nodup)
    (htraits : ∀ user, profiles.get? user = traits user) : Agrees (.found profiles) (.found traits)
  | failed (failure : Failure) : Agrees (.failed failure) (.failed failure)

namespace ProfileStore

variable {profiles : List Profile} {m : TraitMap} {site : Int}

/-- An open store looks up what the machine does. -/
theorem Holds.fetch_agrees (h : Holds profiles m) (hsite : fitsWord64 site = true)
    (ids : List String) :
    ∃ result, execute (some profiles) (.fetch site ids) = (.found result, some profiles) ∧
      (Answer.found result).Agrees (TraitMap.execute (some m) (.fetch site ids)).1 := by
  refine ⟨_, by rw [execute, h.lookup_eq hsite ids], ?_⟩
  refine .found (Bindings.nodup_names_ofNames _ (nodup_sortedIds ids)) fun user => ?_
  rw [Bindings.get?_ofNames]
  exact if_congr mem_sortedIds rfl rfl

/-- A command has the same answer from a store and from a machine with the map of the store, and the
store has the map of the machine afterwards. -/
theorem execute_agrees {store : ProfileStore} {state : Option TraitMap}
    (h : Option.Rel Holds store state) {command : Command} (hcommand : command.IsWellFormed) :
    (store.execute command).1.Agrees (TraitMap.execute state command).1 ∧
      Option.Rel Holds (store.execute command).2 (TraitMap.execute state command).2 := by
  cases h with
  | none =>
    cases command with
    | start => exact ⟨.done, .some holds_empty⟩
    | close => exact ⟨.done, .none⟩
    | upsert site user traits => exact ⟨.failed _, .none⟩
    | fetch site ids =>
      cases ids with
      | nil => exact ⟨.found .nil fun _ => rfl, .none⟩
      | cons id rest => exact ⟨.failed _, .none⟩
  | some h =>
    cases command with
    | start => exact ⟨.done, .some h⟩
    | close => exact ⟨.done, .none⟩
    | upsert site user traits =>
      obtain ⟨hsite, htraits⟩ := hcommand
      obtain ⟨written, hupsert, hwritten⟩ := h.exists_upsert hsite user htraits
      rw [execute, hupsert]
      exact ⟨.done, .some hwritten⟩
    | fetch site ids =>
      obtain ⟨result, hfetch, hagrees⟩ := h.fetch_agrees hcommand ids
      rw [hfetch]
      exact ⟨hagrees, .some h⟩

/-- A store and a machine with its map give the same answers to commands. -/
theorem answers_agree_of_holds {store : ProfileStore} {state : Option TraitMap}
    (h : Option.Rel Holds store state) {commands : List Command}
    (hcommands : ∀ command ∈ commands, command.IsWellFormed) :
    List.Forall₂ Answer.Agrees (answers execute store commands)
      (answers TraitMap.execute state commands) := by
  induction commands generalizing store state with
  | nil => exact .nil
  | cons command rest ih =>
    obtain ⟨hcommand, hrest⟩ := List.forall_mem_cons.mp hcommands
    obtain ⟨hanswer, hstates⟩ := execute_agrees h hcommand
    exact .cons hanswer (ih hstates hrest)

/-- The last write wins.  A store that is closed at first gives the answers of the machine, whatever
commands it carries out. -/
theorem answers_agree (commands : List Command)
    (hcommands : ∀ command ∈ commands, command.IsWellFormed) :
    List.Forall₂ Answer.Agrees (answers execute none commands)
      (answers TraitMap.execute none commands) :=
  answers_agree_of_holds .none hcommands

/-- Traits with a double, a character that is escaped, and an object in a list. -/
def nestedTraits : Fields :=
  [("score", .real (.finite false 0x1999999999999a (-56))),
    ("tags", .list [.null, .bool true, .object [("é", .int (-7))]])]

/-- The traits of a user are replaced under one of two sites; then the store is closed and opened
again. -/
def overwrites : List Command :=
  [.upsert 1 "ann" [], .start, .upsert 1 "ann" [("plan", .text "free")],
    .upsert 2 "ann" [("seats", .int 3)], .upsert 1 "ann" nestedTraits, .start,
    .fetch 1 ["ann", "bob", "ann"], .fetch 2 ["ann"], .close, .fetch 1 ["ann"], .fetch 1 [],
    .start, .fetch 1 ["ann"]]

theorem isJson_nestedTraits : Json.IsJson (.object nestedTraits) := by
  have hscore : Json.IsJson (.real (.finite false 0x1999999999999a (-56))) :=
    .real ⟨by decide, by decide, by decide, .inl (by decide)⟩
  have hinner : Json.IsJson (.object [("é", .int (-7))]) :=
    .object (by decide) (List.forall_mem_singleton.mpr (.int (by decide)))
  have htags : Json.IsJson (.list [.null, .bool true, .object [("é", .int (-7))]]) := by
    refine .list fun v hv => ?_
    simp only [List.mem_cons, List.not_mem_nil, or_false] at hv
    rcases hv with rfl | rfl | rfl
    · exact .null
    · exact .bool true
    · exact hinner
  refine .object (by decide) ?_
  simp [nestedTraits, hscore, htags]

theorem answers_agree_overwrites :
    (∀ command ∈ overwrites, command.IsWellFormed) ∧
      List.Forall₂ Answer.Agrees (answers execute none overwrites)
        (answers TraitMap.execute none overwrites) ∧
      ∃ traits, (answers TraitMap.execute none overwrites)[6]? = some (.found traits) ∧
        traits "ann" = some nestedTraits ∧ traits "bob" = none := by
  have hwell : ∀ command ∈ overwrites, command.IsWellFormed := by
    have hempty : Json.IsJson (.object []) := .object .nil nofun
    have hplan : Json.IsJson (.object [("plan", .text "free")]) :=
      .object (by decide) (List.forall_mem_singleton.mpr (.text "free"))
    have hseats : Json.IsJson (.object [("seats", .int 3)]) :=
      .object (by decide) (List.forall_mem_singleton.mpr (.int (by decide)))
    simp [overwrites, Command.IsWellFormed, fitsWord64, hempty, hplan, hseats,
      isJson_nestedTraits]
  exact ⟨hwell, answers_agree overwrites hwell, _, rfl, rfl, rfl⟩

end ProfileStore

end Clickstream
