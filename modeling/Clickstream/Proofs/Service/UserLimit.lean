import Mathlib.Data.Set.List
import Clickstream.Proofs.Service.PageCounts
import Clickstream.Proofs.Service.Rearranged
import Clickstream.Proofs.Service.Traits

/-!
# Limits on users

The identified users of some events are ranked by their sessions, and by their ids where these are
equal (`IsRanking`).  A question with a limit is answered with a row for each of the first users of
the ranking, and the traits of a row are those of its user, whoever else is asked for
(`identifiedUsers_eq_ok_iff`).  So a smaller limit gives the first of the same rows
(`identifiedUsers_take`).
-/

namespace Clickstream

open Enrichment

namespace Report

/-! ## Rankings -/

/-- The sessions of a user in some events. -/
def sessionsOf (events : List Event) (user : String) : Nat :=
  (activityOf events (some user)).sessions

/-- The identified users of some events, those with the most sessions first, equal numbers by
user. -/
structure IsRanking (events : List Event) (users : List String) : Prop where
  mem : ∀ user, user ∈ users ↔
    user ≠ "" ∧ ∃ e ∈ events, e.attributes .identifiedUserId = some user
  nodup : users.Nodup
  ordered : users.Pairwise fun user other => sessionsOf events other < sessionsOf events user ∨
    sessionsOf events user = sessionsOf events other ∧ user < other

/-- There is one ranking. -/
theorem IsRanking.unique {events : List Event} {users others : List String}
    (h : IsRanking events users) (h' : IsRanking events others) : users = others := by
  have hperm : users.Perm others := by
    refine (List.perm_ext_iff_of_nodup h.nodup h'.nodup).mpr fun user => ?_
    rw [h.mem, h'.mem]
  refine hperm.eq_of_pairwise (fun user other _ _ hless hless' => ?_) h.ordered h'.ordered
  rcases hless with hless | ⟨heq, hless⟩
  · rcases hless' with hless' | ⟨heq, -⟩
    · exact absurd hless' hless.asymm
    · exact absurd heq hless.ne
  · rcases hless' with hless' | ⟨-, hless'⟩
    · exact absurd heq hless'.ne
    · exact absurd hless' hless.asymm

/-- The event has an identified user. -/
def isIdentified (e : Event) : Bool :=
  (e.attributes .identifiedUserId).any (· != "")

/-- An identified user has the same activity in the events with an identified user. -/
theorem activityOf_filter (events : List Event) {user : String} (h : user ≠ "") :
    activityOf (events.filter isIdentified) (some user) = activityOf events (some user) := by
  have hown : withValue .identifiedUserId (some user) (events.filter isIdentified) =
      withValue .identifiedUserId (some user) events := by
    rw [withValue, withValue, List.filter_filter]
    refine List.filter_congr fun e _ => ?_
    by_cases he : e.attributes .identifiedUserId = some user
    · simp [isIdentified, he, h]
    · simp [he]
  rw [activityOf, activityOf, hown]

theorem mem_attributeValues_identified {events : List Event} {value : Option String} :
    value ∈ attributeValues .identifiedUserId (events.filter isIdentified) ↔
      ∃ user, value = some user ∧ user ≠ "" ∧
        ∃ e ∈ events, e.attributes .identifiedUserId = some user := by
  rw [attributeValues, List.mem_eraseDups, List.mem_map]
  constructor
  · rintro ⟨e, he, rfl⟩
    obtain ⟨he, hid⟩ := List.mem_filter.mp he
    rw [isIdentified] at hid
    cases huser : e.attributes .identifiedUserId with
    | none =>
      rw [huser] at hid
      cases hid
    | some user =>
      rw [huser] at hid
      exact ⟨user, rfl, bne_iff_ne.mp hid, e, he, huser⟩
  · rintro ⟨user, rfl, hne, e, he, huser⟩
    exact ⟨e, List.mem_filter.mpr ⟨he, by simp [isIdentified, huser, hne]⟩, huser⟩

/-- The activities are those of the users of a ranking. -/
theorem exists_ranking (events : List Event) : ∃ users, IsRanking events users ∧
    activities (events.filter isIdentified) =
      users.map fun user => activityOf events (some user) := by
  have hperm : (activities (events.filter isIdentified)).Perm
      ((attributeValues .identifiedUserId (events.filter isIdentified)).map
        (activityOf (events.filter isIdentified))) := List.mergeSort_perm ..
  have hrange : ∀ a ∈ activities (events.filter isIdentified),
      a ∈ Set.range fun user => activityOf events (some user) := by
    intro a ha
    obtain ⟨value, hvalue, rfl⟩ := List.mem_map.mp (hperm.mem_iff.mp ha)
    obtain ⟨user, rfl, hne, -⟩ := mem_attributeValues_identified.mp hvalue
    exact ⟨user, (activityOf_filter events hne).symm⟩
  obtain ⟨users, husers⟩ : activities (events.filter isIdentified) ∈
      Set.range (List.map fun user => activityOf events (some user)) := by
    rw [Set.range_list_map]
    exact hrange
  -- The users are the values of the attribute, listed in another order.
  have hvalues : (users.map some).Perm
      (attributeValues .identifiedUserId (events.filter isIdentified)) := by
    have hnames := hperm.map (·.user)
    rw [← husers, List.map_map, List.map_map] at hnames
    exact hnames.trans (List.Perm.of_eq (List.map_id _))
  have hnodup : users.Nodup := (hvalues.nodup_iff.mpr (nodup_eraseDups _)).of_map
  have hordered : (activities (events.filter isIdentified)).Pairwise _ :=
    List.pairwise_mergeSort lists_activities.trans lists_activities.total _
  rw [← husers, List.pairwise_map] at hordered
  refine ⟨users, ⟨fun user => ?_, hnodup, ?_⟩, husers.symm⟩
  · rw [← List.mem_map_of_injective (Option.some_injective _), hvalues.mem_iff,
      mem_attributeValues_identified]
    constructor
    · rintro ⟨_, ⟨⟩, h⟩
      exact h
    · exact fun h => ⟨user, rfl, h⟩
  · refine (hordered.and hnodup).imp fun {user other} ⟨hbefore, hne⟩ => ?_
    rcases (lists_activities _ _).mp hbefore with hless | ⟨heq, htext⟩
    · exact .inl hless
    · refine .inr ⟨OrderDual.toDual.injective heq, ?_⟩
      exact lt_of_le_of_ne (of_decide_eq_true htext) hne

/-- The row of an activity. -/
def activityRow (a : Activity) : Fields :=
  [("identified_user_id", textValue a.user), ("sessions", countValue a.sessions),
   ("pageviews", countValue a.pageviews),
   ("last_seen", match a.lastSeen with
     | some t => .moment ⟨t, none⟩
     | none => .null)]

theorem rows_identifiedUsers (events : List Event) (limit : Nat) :
    rows events (.identifiedUsers limit) = ((activities events).take limit).map activityRow := rfl

end Report

open Report

/-! ## Selected events -/

theorem isFurther_identified (id : ParamId) : ∀ c ∈ [identifiedCondition id], IsFurther c :=
  List.forall_mem_singleton.mpr (.compare id _ rfl _ _)

theorem passes_identifiedCondition (db : Database) (id : ParamId) (e : Event) :
    passes db e.cell (some (identifiedCondition id)) = isIdentified e := by
  show (((Cell.ofText? (e.attributes .identifiedUserId)).equal (.text "")).negate == some true) = _
  rw [isIdentified]
  cases e.attributes .identifiedUserId with
  | none => rfl
  | some user =>
    show (((Cell.text user).equal (.text "")).negate == some true) = (user != "")
    rw [Cell.equal_text]
    cases h : user == "" <;> simp [Truth.negate, bne, h]

namespace Service

variable {stores : Stores} {request : Request}

/-- A question for identified users selects the events of the request with an identified user. -/
theorem selected_identified [ZoneDatabase] {kept clause : Clause}
    (hkept : request.clause [] = .ok kept)
    (hclause : identifiedClause request = .ok clause) (db : Database) :
    db.events.filter (db.selects clause.conditions) =
      (db.events.filter (db.selects kept.conditions)).filter isIdentified := by
  obtain ⟨clause', hclause', hselects⟩ :=
    Request.exists_clause hkept (isFurther_identified (.given 1))
  obtain rfl : clause' = clause := Except.ok.inj (hclause'.symm.trans hclause)
  rw [List.filter_filter]
  refine List.filter_congr fun e _ => ?_
  rw [hselects, List.map_singleton, List.all_cons, List.all_nil, Bool.and_true,
    passes_identifiedCondition, Bool.and_comm]

/-! ## Answers -/

theorem isNormal_activityRow (a : Activity) : schema.IsNormal (activityRow a) := by
  intro field hfield ⟨s, hs⟩
  simp only [activityRow, List.mem_cons, List.not_mem_nil, or_false] at hfield
  rcases hfield with rfl | rfl | rfl | rfl
  · rfl
  · cases hs
  · cases hs
  · dsimp only at hs
    split at hs <;> cases hs

theorem readLimit_natCast {n : Nat} (hn : 1 ≤ n) (hmax : n ≤ maxLimit) :
    readLimit (.int n) = .ok n := by
  rw [readLimit, if_pos ⟨by omega, by omega⟩, Int.toNat_natCast]

/-- The row of a user with an activity and traits. -/
def userRow (a : Activity) (traits : Option Fields) : Fields :=
  activityRow a ++ [("traits", match traits with
    | some fields => .object fields
    | none => .null)]

theorem withTraits_activityRow (profile? : String → Option Fields) (events : List Event)
    {user : String} (h : user ≠ "") :
    withTraits profile? standardField (activityRow (activityOf events (some user))) =
      userRow (activityOf events (some user)) (profile? user) := by
  have huser : userOf standardField (activityRow (activityOf events (some user))) = some user := by
    show (if (user != "") = true then some user else none) = some user
    rw [if_pos (bne_iff_ne.mpr h)]
  rw [withTraits, huser, Option.bind_some]
  rfl

/-- The rows of an answer are normal as they are. -/
theorem normalized_identifiedUsers (selected : List Event) (n : Nat) :
    normalized (.ok (Report.rows selected (.identifiedUsers n))) =
      .ok (Report.rows selected (.identifiedUsers n)) := by
  refine normalized_eq_ok.mpr ⟨_, [], rfl, Schema.normalize_of_isNormal fun row hrow => ?_⟩
  obtain ⟨a, -, rfl⟩ := List.mem_map.mp hrow
  exact isNormal_activityRow a

/-- The rows of the selected events are answered with traits. -/
theorem identifiedUsers_eq_ok_iff [ZoneDatabase] {n : Nat} (hn : 1 ≤ n) (hmax : n ≤ maxLimit)
    {rows : List Fields} :
    stores.service.identifiedUsers request (.int n) = .ok rows ↔
      ∃ events clause, stores.events = some events ∧ identifiedClause request = .ok clause ∧
        run (m := Id) (fun ids => (stores.profiles.lookup request.site ids).2) standardField
          (Report.rows (events.filter (Database.selects ⟨events, stores.clock⟩ clause.conditions))
            (.identifiedUsers n)) = .ok rows := by
  obtain ⟨store, profiles, clock⟩ := stores
  unfold identifiedUsers
  rw [readLimit_natCast hn hmax]
  cases hclause : identifiedClause request with
  | error e =>
    constructor
    · rintro ⟨⟩
    · rintro ⟨_, _, -, ⟨⟩, -⟩
  | ok clause =>
    cases store with
    | none =>
      constructor
      · rintro ⟨⟩
      · rintro ⟨_, _, ⟨⟩, -⟩
    | some events =>
      have hexecute : (Stores.mk (some events) profiles clock).service.execute (.identifiedUsers n)
          (.ok clause) = .ok (Report.rows (events.filter
            (Database.selects ⟨events, clock⟩ clause.conditions)) (.identifiedUsers n)) :=
        normalized_identifiedUsers _ n
      dsimp only
      rw [hexecute]
      constructor
      · exact fun h => ⟨events, clause, rfl, rfl, h⟩
      · rintro ⟨_, _, ⟨⟩, ⟨⟩, h⟩
        exact h

/-- A smaller limit gives the first of the same rows.  If a question for identified users is
answered with a limit, it is answered with every smaller one, and the rows are the first ones.  The
rows are those of the first users of the ranking of the selected events: each user has one row, with
its own activity and its own traits. -/
theorem identifiedUsers_take [ZoneDatabase] {k m : Nat} (hk : 1 ≤ k) (hkm : k ≤ m) (hm : m ≤ 1000)
    {rows : List Fields} (h : stores.service.identifiedUsers request (.int m) = .ok rows) :
    stores.service.identifiedUsers request (.int k) = .ok (rows.take k) ∧
    ∃ events kept users, stores.events = some events ∧ request.clause [] = .ok kept ∧
      let selected := events.filter (Database.selects ⟨events, stores.clock⟩ kept.conditions)
      IsRanking selected users ∧
        rows = (users.take m).map fun user =>
          userRow (activityOf selected (some user))
            (stores.profiles.traitsOf request.site user) := by
  have hanswers : AnswersFrom (fun site ids => (stores.profiles.lookup site ids).2) request.site
      (stores.profiles.traitsOf request.site) := fun _ _ => ProfileStore.get?_of_lookup
  obtain ⟨events, clause, hevents, hclause, hrows⟩ :=
    (identifiedUsers_eq_ok_iff (hk.trans hkm) hm).mp h
  obtain ⟨kept, hkept⟩ := Request.exists_kept hclause
  refine ⟨?_, events, kept, ?_⟩
  · refine (identifiedUsers_eq_ok_iff hk (hkm.trans hm)).mpr ⟨events, clause, hevents, hclause, ?_⟩
    have htake := run_id_take hanswers (fun _ _ => ProfileStore.exists_lookup_of_subset) hrows k
    rwa [rows_identifiedUsers, ← List.map_take, List.take_take, Nat.min_eq_left hkm] at htake
  · obtain ⟨users, hranking, husers⟩ := exists_ranking
      (events.filter (Database.selects ⟨events, stores.clock⟩ kept.conditions))
    refine ⟨users, hevents, hkept, hranking, ?_⟩
    rw [rows_identifiedUsers, selected_identified hkept hclause ⟨events, stores.clock⟩, husers]
      at hrows
    obtain ⟨-, rfl⟩ := (run_id_eq_ok_iff hanswers).mp hrows
    rw [← List.map_take, List.map_map, List.map_map]
    refine List.map_congr_left fun user huser => ?_
    exact withTraits_activityRow _ _ ((hranking.mem user).mp (List.mem_of_mem_take huser)).1

/-- A visit of an identified user. -/
def identifiedVisit (session user : String) : Event :=
  { Request.visit 1 Request.hourEnd with
    session := session
    attributes := fun a => if a = .identifiedUserId then some user else none }

/-- One session of Bob and two of Alice. -/
def twoUsers : List Event :=
  [identifiedVisit "s1" "bob", identifiedVisit "s2" "alice", identifiedVisit "s3" "alice"]

theorem isRanking_twoUsers : IsRanking twoUsers ["alice", "bob"] := by
  refine ⟨fun user => ?_, by decide, List.pairwise_pair.mpr (.inl (by decide))⟩
  have hids : (∃ e ∈ twoUsers, e.attributes .identifiedUserId = some user) ↔
      some "bob" = some user ∨ some "alice" = some user := by
    simp [twoUsers, identifiedVisit]
  rw [hids, List.mem_pair]
  constructor
  · rintro (rfl | rfl)
    · exact ⟨by decide, .inr rfl⟩
    · exact ⟨by decide, .inl rfl⟩
  · rintro ⟨-, h | h⟩
    · exact .inr (Option.some.inj h).symm
    · exact .inl (Option.some.inj h).symm

/-- The first one of two users is the one with more sessions. -/
theorem identifiedUsers_take_twoUsers : ∃ profiles,
    ProfileStore.upsert (some []) (.int 1) (.text "alice") agentTraits = .ok (some profiles) ∧
    let service := (Stores.mk (some twoUsers) (some profiles) Request.hourEnd).service
    let alice : Fields := [("identified_user_id", .text "alice"), ("sessions", .int 2),
      ("pageviews", .int 2), ("last_seen", .moment ⟨Request.hourEnd, none⟩),
      ("traits", .object agentTraits)]
    let bob : Fields := [("identified_user_id", .text "bob"), ("sessions", .int 1),
      ("pageviews", .int 1), ("last_seen", .moment ⟨Request.hourEnd, none⟩), ("traits", .null)]
    service.identifiedUsers (Request.allTime []) (.int 2) = .ok [alice, bob] ∧
      service.identifiedUsers (Request.allTime []) (.int 1) = .ok [alice] := by
  have hjson : Json.IsJson (.object agentTraits) :=
    .object (by decide) (List.forall_mem_singleton.mpr (.text "pro"))
  have hsite : fitsWord64 1 = true := by decide
  obtain ⟨profiles, hupsert, hholds⟩ :=
    ProfileStore.holds_empty.exists_upsert hsite "alice" hjson
  refine ⟨profiles, hupsert, ?_⟩
  intro service alice bob
  have hlookup : ∀ ids, ∃ found,
      (ProfileStore.lookup (some profiles) (.int 1) ids).2 = .ok found :=
    fun ids => ⟨_, congrArg Prod.snd (hholds.lookup_eq hsite ids)⟩
  obtain ⟨clause, hclause⟩ : ∃ clause, identifiedClause (Request.allTime []) = .ok clause :=
    ⟨_, rfl⟩
  have hanswers := hholds.answersFrom hsite
  obtain ⟨rows, hrows⟩ : ∃ rows, service.identifiedUsers (Request.allTime []) (.int 2) = .ok rows :=
    ⟨_, (identifiedUsers_eq_ok_iff (by decide) (by decide)).mpr ⟨_, _, rfl, hclause,
      (run_id_eq_ok_iff hanswers).mpr ⟨.inr (hlookup _), rfl⟩⟩⟩
  obtain ⟨hone, events, kept, users, hevents, hkept, hranking, heq⟩ :=
    identifiedUsers_take (by decide) (show 1 ≤ 2 by decide) (by decide) hrows
  cases hevents
  -- The request selects all events.
  obtain ⟨all, hall, hselected⟩ : ∃ all, (Request.allTime []).clause [] = .ok all ∧
      twoUsers.filter (Database.selects ⟨twoUsers, Request.hourEnd⟩ all.conditions) = twoUsers :=
    ⟨_, rfl, rfl⟩
  obtain rfl : all = kept := Except.ok.inj (hall.symm.trans hkept)
  dsimp only at hranking heq
  rw [hselected] at hranking heq
  obtain rfl := hranking.unique isRanking_twoUsers
  have htraits := fun user => hholds.traitsOf_eq hsite user
  have halice : userRow (activityOf twoUsers (some "alice"))
      (ProfileStore.traitsOf (some profiles) (.int 1) "alice") = alice := by
    rw [htraits, Finmap.lookup_insert]
    rfl
  have hbob : userRow (activityOf twoUsers (some "bob"))
      (ProfileStore.traitsOf (some profiles) (.int 1) "bob") = bob := by
    rw [htraits, Finmap.lookup_insert_of_ne _ (by decide)]
    rfl
  have hpair : rows = [alice, bob] :=
    heq.trans (congrArg₂ (fun row other => [row, other]) halice hbob)
  rw [hpair] at hrows hone
  exact ⟨hrows, hone⟩

end Service

end Clickstream
