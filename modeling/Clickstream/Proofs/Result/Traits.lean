import Mathlib.Data.List.Forall2
import Clickstream.Proofs.Outcome
import Clickstream.Proofs.Query.Bindings
import Clickstream.Result.Traits

/-!
# Rows with traits

The users that some rows name are looked up together, each once and in the order in which they
occur first (`users_eq`).  The rows come out as if each of them had been looked up alone: a row
keeps its fields, and it gets the traits of the profile of its user, or null
(`enriched_attachTraits`).  A store is asked once, or not at all if no row names a user, and its
failure is that of the enrichment (`run_recorded`).  So the first rows are enriched as they are
among all rows (`run_id_take`).
-/

namespace Clickstream.Enrichment

/-! ## Users -/

/-- The texts of the values that name a user, each one where it occurs first. -/
def distinctTexts (values : List Value) : List String :=
  ((values.filter Value.isTruthy).map Value.plain).eraseDups

/-- Items that are put behind those seen before, unless they are among them. -/
theorem foldl_insert_eq {α : Type} [BEq α] [LawfulBEq α] (items seen : List α) :
    items.foldl (fun seen item => if seen.contains item then seen else seen ++ [item]) seen =
      seen ++ (items.filter fun item => !seen.contains item).eraseDups := by
  induction items generalizing seen with
  | nil => simp
  | cons item items ih =>
    rw [List.foldl_cons, ih, List.filter_cons]
    cases hseen : seen.contains item with
    | true => simp
    | false =>
      have hfilter : (items.filter fun other => !(seen ++ [item]).contains other) =
          (items.filter fun other => !seen.contains other).filter fun other => !other == item := by
        rw [List.filter_filter]
        refine List.filter_congr fun other _ => ?_
        rw [Bool.eq_iff_iff]
        simp [List.contains_eq_mem, and_comm]
      rw [if_neg Bool.false_ne_true, hfilter, Bool.not_false, if_pos rfl, List.eraseDups_cons,
        List.append_assoc, List.singleton_append]

theorem filterMap_userOf (field : String) (rows : List Fields) :
    rows.filterMap (userOf field) =
      ((rows.map (Fields.get · field)).filter Value.isTruthy).map Value.plain := by
  induction rows with
  | nil => rfl
  | cons row rows ih =>
    rw [List.filterMap_cons, List.map_cons, List.filter_cons, userOf]
    cases (Fields.get row field).isTruthy with
    | false => exact ih
    | true => exact congrArg _ ih

theorem users_eq (field : String) (rows : List Fields) :
    users field rows = distinctTexts (rows.map (Fields.get · field)) := by
  have hfold := @List.foldl_filterMap _ _ _ (userOf field)
    (fun (seen : List String) user => if seen.contains user then seen else seen ++ [user]) rows []
  rw [filterMap_userOf, foldl_insert_eq] at hfold
  simp only [List.contains_nil, Bool.not_false, List.filter_true, List.nil_append] at hfold
  rw [distinctTexts, hfold, users]
  refine congrArg (fun step => rows.foldl step []) (funext fun seen => funext fun row => ?_)
  cases userOf field row <;> rfl

/-! ## Rows -/

/-- A row with the traits of its user: the row has its fields as before and one field for the
traits, which holds the profile of the user if the row names one that has a profile. -/
structure Enriched (profile? : String → Option Fields) (field : String) (row row' : Fields) :
    Prop where
  names : row'.names = if traitsField ∈ row.names then row.names else row.names ++ [traitsField]
  others : ∀ name, name ≠ traitsField → row'.get? name = row.get? name
  found : ∀ traits, (Fields.get row field).isTruthy = true →
    profile? (Fields.get row field).plain = some traits →
    row'.get? traitsField = some (.object traits)
  absent : (Fields.get row field).isTruthy = false ∨
    profile? (Fields.get row field).plain = none → row'.get? traitsField = some .null

/-- A row gets the traits that a lookup of its own user would find. -/
theorem enriched_attachTraits {profile? : String → Option Fields} {field : String}
    {profiles : Profiles} {row : Fields}
    (h : ∀ user, userOf field row = some user → profiles.get? user = profile? user) :
    Enriched profile? field row (attachTraits field profiles row) := by
  unfold attachTraits
  refine ⟨Bindings.names_set _ _ _, fun name hname => ?_, fun traits htruthy htraits => ?_,
    fun habsent => ?_⟩
  · rw [Bindings.get?_set, if_neg hname.symm]
  · have huser : userOf field row = some (Fields.get row field).plain := if_pos htruthy
    rw [Bindings.get?_set, if_pos rfl, huser, Option.bind_some, h _ huser, htraits]
  · rw [Bindings.get?_set, if_pos rfl]
    rcases habsent with hfalse | hnone
    · have huser : userOf field row = none := if_neg (by rw [hfalse]; exact Bool.false_ne_true)
      rw [huser, Option.bind_none]
    · cases huser : userOf field row with
      | none => rfl
      | some user =>
        have hplain : (Fields.get row field).plain = user := by
          unfold userOf at huser
          dsimp only at huser
          split at huser
          · exact Option.some.inj huser
          · cases huser
        rw [Option.bind_some, h user huser, ← hplain, hnone]

/-! ## Recorded lookups -/

/-- The calls of a store: the site and the users of each lookup. -/
abbrev Calls := List (Value × List String)

/-- A store that keeps a record of its calls. -/
def recorded (answer : Value → List String → Outcome Profiles) (site : Value)
    (ids : List String) : StateM Calls (Outcome Profiles) := do
  modify (· ++ [(site, ids)])
  return answer site ids

/-- What a store returns for a site is the restriction of one table to the requested users. -/
def AnswersFrom (answer : Value → List String → Outcome Profiles) (site : Value)
    (profile? : String → Option Fields) : Prop :=
  ∀ ids profiles, answer site ids = .ok profiles →
    ∀ id, profiles.get? id = if id ∈ ids then profile? id else none

/-- The call for some users: none if there are no users. -/
def callsFor (site : Value) (ids : List String) : Calls :=
  if ids = [] then [] else [(site, ids)]

/-- What becomes of rows: each of them gets the traits of its user, unless the lookup fails. -/
structure Enriches (answer : Value → List String → Outcome Profiles) (site : Value)
    (profile? : String → Option Fields) (field : String) (ids : List String) (rows : List Fields)
    (outcome : Outcome (List Fields)) : Prop where
  enriched : ids = [] ∨ (∃ profiles, answer site ids = .ok profiles) →
    ∃ rows', outcome = .ok rows' ∧ List.Forall₂ (Enriched profile? field) rows rows'
  failed : ∀ e, ids ≠ [] → answer site ids = .error e → outcome = .error e

theorem forall₂_attachTraits {profile? : String → Option Fields} {field : String}
    {profiles : Profiles} {rows : List Fields}
    (h : ∀ row ∈ rows, ∀ user, userOf field row = some user →
      profiles.get? user = profile? user) :
    List.Forall₂ (Enriched profile? field) rows (rows.map (attachTraits field profiles)) := by
  rw [List.forall₂_map_right_iff, List.forall₂_same]
  exact fun row hrow => enriched_attachTraits (h row hrow)

theorem mem_users_iff {field : String} {rows : List Fields} {user : String} :
    user ∈ users field rows ↔ ∃ row ∈ rows, userOf field row = some user := by
  rw [users_eq, distinctTexts, List.mem_eraseDups, ← filterMap_userOf, List.mem_filterMap]

theorem run_recorded_eq (answer : Value → List String → Outcome Profiles) (site : Value)
    (field : String) (rows : List Fields) (calls : Calls) :
    (run (recorded answer site) field rows).run calls =
      (if users field rows = [] then .ok (rows.map (attachTraits field []))
        else (answer site (users field rows)).map fun profiles =>
          rows.map (attachTraits field profiles),
        calls ++ callsFor site (users field rows)) := by
  unfold run callsFor
  cases users field rows with
  | nil => exact congrArg (Prod.mk _) (List.append_nil calls).symm
  | cons id ids =>
    rw [if_neg (List.cons_ne_nil id ids), if_neg (List.cons_ne_nil id ids)]
    cases hanswer : answer site (id :: ids) with
    | error e =>
      simp only [recorded, hanswer]
      rfl
    | ok profiles =>
      simp only [recorded, hanswer]
      rfl

/-- The users of rows are looked up with one call, if there are any, and the rows are enriched with
what a lookup for each row would find. -/
theorem run_recorded {answer : Value → List String → Outcome Profiles} {site : Value}
    {profile? : String → Option Fields} (h : AnswersFrom answer site profile?) (field : String)
    (rows : List Fields) (calls : Calls) :
    let ids := distinctTexts (rows.map (Fields.get · field))
    let result := (run (recorded answer site) field rows).run calls
    result.2 = calls ++ callsFor site ids ∧
      Enriches answer site profile? field ids rows result.1 := by
  dsimp only
  rw [← users_eq, run_recorded_eq]
  have hmem : ∀ row ∈ rows, ∀ user, userOf field row = some user → user ∈ users field rows :=
    fun row hrow user huser => mem_users_iff.mpr ⟨row, hrow, huser⟩
  refine ⟨rfl, fun hfound => ?_, fun e hne he => ?_⟩
  · by_cases hids : users field rows = []
    · rw [if_pos hids]
      rw [hids] at hmem
      exact ⟨_, rfl, forall₂_attachTraits fun row hrow user huser =>
        nomatch hmem row hrow user huser⟩
    · rw [if_neg hids]
      obtain ⟨profiles, hprofiles⟩ := hfound.resolve_left hids
      rw [hprofiles]
      refine ⟨_, rfl, forall₂_attachTraits fun row hrow user huser => ?_⟩
      rw [h _ _ hprofiles, if_pos (hmem row hrow user huser)]
  · rw [if_neg hne, he]
    rfl

/-! ## Fewer rows -/

/-- A row with the traits of its user. -/
def withTraits (profile? : String → Option Fields) (field : String) (row : Fields) : Fields :=
  Bindings.set row traitsField
    (match (userOf field row).bind profile? with
      | some fields => .object fields
      | none => .null)

theorem attachTraits_eq {profile? : String → Option Fields} {field : String} {profiles : Profiles}
    {row : Fields}
    (h : ∀ user, userOf field row = some user → profiles.get? user = profile? user) :
    attachTraits field profiles row = withTraits profile? field row := by
  have hfound : (userOf field row).bind profiles.get? = (userOf field row).bind profile? :=
    Option.bind_congr fun user huser => h user huser
  rw [withTraits, ← hfound]
  rfl

theorem run_id_eq (lookup : List String → Outcome Profiles) (field : String)
    (rows : List Fields) :
    run (m := Id) lookup field rows =
      if users field rows = [] then .ok (rows.map (attachTraits field []))
      else (lookup (users field rows)).map fun profiles =>
        rows.map (attachTraits field profiles) := by
  unfold run
  cases users field rows with
  | nil => rfl
  | cons id ids =>
    rw [if_neg (List.cons_ne_nil id ids)]
    cases hlookup : lookup (id :: ids) with
    | error e =>
      simp only [hlookup]
      rfl
    | ok profiles =>
      simp only [hlookup]
      rfl

/-- Rows are enriched if their users can be looked up, and each of them by itself. -/
theorem run_id_eq_ok_iff {answer : Value → List String → Outcome Profiles} {site : Value}
    {profile? : String → Option Fields} (h : AnswersFrom answer site profile?) {field : String}
    {rows rows' : List Fields} :
    run (m := Id) (answer site) field rows = .ok rows' ↔
      (users field rows = [] ∨ ∃ profiles, answer site (users field rows) = .ok profiles) ∧
        rows' = rows.map (withTraits profile? field) := by
  have hmap : ∀ profiles, (∀ user ∈ users field rows, Bindings.get? profiles user =
      profile? user) → rows.map (attachTraits field profiles) =
        rows.map (withTraits profile? field) := by
    intro profiles hprofiles
    refine List.map_congr_left fun row hrow => attachTraits_eq fun user huser => ?_
    exact hprofiles user (mem_users_iff.mpr ⟨row, hrow, huser⟩)
  rw [run_id_eq]
  by_cases hids : users field rows = []
  · rw [if_pos hids, hmap [] (by rw [hids]; exact nofun)]
    exact ⟨fun hrows => ⟨.inl hids, (Except.ok.inj hrows).symm⟩, fun hrows => hrows.2 ▸ rfl⟩
  · rw [if_neg hids, Outcome.map_eq_ok, or_iff_right hids]
    have hfound : ∀ profiles, answer site (users field rows) = .ok profiles →
        rows.map (attachTraits field profiles) = rows.map (withTraits profile? field) := by
      refine fun profiles hprofiles => hmap profiles fun user huser => ?_
      rw [h _ _ hprofiles, if_pos huser]
    constructor
    · rintro ⟨profiles, hprofiles, rfl⟩
      exact ⟨⟨profiles, hprofiles⟩, hfound profiles hprofiles⟩
    · rintro ⟨⟨profiles, hprofiles⟩, rfl⟩
      exact ⟨profiles, hprofiles, hfound profiles hprofiles⟩

/-- If looking up fewer users cannot fail, enriching the first rows gives the first enriched
rows. -/
theorem run_id_take {answer : Value → List String → Outcome Profiles} {site : Value}
    {profile? : String → Option Fields} (h : AnswersFrom answer site profile?)
    (hfewer : ∀ ids ids', ids' ⊆ ids → (∃ profiles, answer site ids = .ok profiles) →
      ∃ profiles, answer site ids' = .ok profiles) {field : String} {rows rows' : List Fields}
    (hrows : run (m := Id) (answer site) field rows = .ok rows') (k : Nat) :
    run (m := Id) (answer site) field (rows.take k) = .ok (rows'.take k) := by
  have hsubset : users field (rows.take k) ⊆ users field rows := by
    intro user huser
    obtain ⟨row, hrow, huser⟩ := mem_users_iff.mp huser
    exact mem_users_iff.mpr ⟨row, List.mem_of_mem_take hrow, huser⟩
  obtain ⟨hfound, rfl⟩ := (run_id_eq_ok_iff h).mp hrows
  refine (run_id_eq_ok_iff h).mpr ⟨?_, List.map_take.symm⟩
  rcases hfound with hnone | hfound
  · exact .inl (List.subset_nil.mp (hnone ▸ hsubset))
  · exact .inr (hfewer _ _ hsubset hfound)

end Clickstream.Enrichment
