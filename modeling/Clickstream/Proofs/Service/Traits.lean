import Clickstream.Calendar.ZoneTable
import Clickstream.Proofs.Outcome
import Clickstream.Proofs.Profile.Store
import Clickstream.Proofs.Result.Normalize
import Clickstream.Proofs.Result.Traits
import Clickstream.Proofs.Service.Clause
import Clickstream.Service.Basic

/-!
# Traits of identified users

The store of profiles answers from the map that it stands for (`Holds.answersFrom`).  A question for
identified users looks up the ids as the store of events has returned them, since normalizing keeps
the texts of identifiers, and it looks up nothing unless the rows can be normalized
(`identifiedUsers_recorded`).  So a batched lookup comes to the same as one lookup for each row
(`traits_batched`).
-/

namespace Clickstream

open Enrichment Request

/-- Profiles answer from the map that they stand for. -/
theorem ProfileStore.Holds.answersFrom {profiles : List Profile} {m : TraitMap}
    (h : Holds profiles m) {site : Int} (hsite : fitsWord64 site = true) :
    AnswersFrom (fun site ids => (lookup (some profiles) site ids).2) (.int site)
      fun user => m.lookup (site, user) := by
  intro ids found hfound id
  dsimp only at hfound
  rw [h.lookup_eq hsite] at hfound
  cases hfound
  rw [Bindings.get?_ofNames]
  simp only [mem_sortedIds]

namespace Service

/-- A service with a store of events that replies from a function, and a store of profiles that
keeps a record of its calls. -/
def lookingUp (reply : Report → Clause → Outcome (List Fields))
    (answer : Value → List String → Outcome Profiles) : Service (StateM Calls) where
  query := fun report clause => return reply report clause
  profiles := some (recorded answer)

/-- The rows that the store of events returns for a question for identified users. -/
def foundRows [ZoneDatabase] (reply : Report → Clause → Outcome (List Fields)) (request : Request)
    (limit : Value) : Outcome (List Fields) := do
  let limit ← readLimit limit
  let clause ← identifiedClause request
  reply (.identifiedUsers limit) clause

variable (reply : Report → Clause → Outcome (List Fields))
  (answer : Value → List String → Outcome Profiles) (request : Request) (limit : Value)
  (calls : Calls)

/-- The rows that are found are normalized and enriched. -/
theorem identifiedUsers_recorded [ZoneDatabase] :
    ((lookingUp reply answer).identifiedUsers request limit).run calls =
      match normalized (foundRows reply request limit) with
      | .error e => (.error e, calls)
      | .ok rows => (run (recorded answer request.site) standardField rows).run calls := by
  unfold identifiedUsers foundRows
  cases readLimit limit with
  | error e => rfl
  | ok n =>
    rw [Outcome.ok_bind]
    dsimp only [execute]
    cases identifiedClause request with
    | error e => rfl
    | ok clause =>
      show StateT.run (match normalized (reply (.identifiedUsers n) clause) with
        | .error e => return .error e
        | .ok rows => (lookingUp reply answer).enrich request.site rows) calls = _
      rw [Outcome.ok_bind]
      cases normalized (reply (.identifiedUsers n) clause) with
      | error e => rfl
      | ok rows => rfl

theorem normalized_eq_ok {rows : Outcome (List Fields)} {rows' : List Fields} :
    normalized rows = .ok rows' ↔ ∃ found warnings, rows = .ok found ∧
      schema.normalize found = .ok (rows', warnings) := by
  unfold normalized
  rw [Outcome.bind_eq_ok]
  constructor
  · rintro ⟨found, hfound, h⟩
    obtain ⟨⟨normal, warnings⟩, hnormal, h⟩ := Outcome.bind_eq_ok.mp h
    cases h
    exact ⟨found, warnings, hfound, hnormal⟩
  · rintro ⟨found, warnings, hfound, hnormal⟩
    exact ⟨found, hfound, Outcome.bind_eq_ok.mpr ⟨_, hnormal, rfl⟩⟩

/-- The texts of identifiers are among the users that are looked up. -/
theorem mem_distinctTexts {rows : List Fields} {field s : String} {row : Fields} (hrow : row ∈ rows)
    (htext : Fields.get row field = .text s) (hne : s ≠ "") :
    s ∈ distinctTexts (rows.map (Fields.get · field)) := by
  rw [distinctTexts, List.mem_eraseDups]
  refine List.mem_map.mpr ⟨.text s, List.mem_filter.mpr ⟨?_, bne_iff_ne.mpr hne⟩, rfl⟩
  exact List.mem_map.mpr ⟨row, hrow, htext⟩

end Service

/-- A batched lookup comes to the same as one lookup for each row.  If a store answers from a table
of profiles, rows are enriched with one call for the distinct users that they name, in the order of
first occurrence, and without a call if they name none.  A question for identified users looks up
the ids as they are in the rows that are found, texts as they stand there, and it calls the store of
profiles only for rows that are found and normalized. -/
theorem traits_batched [ZoneDatabase] {answer : Value → List String → Outcome Profiles}
    {site : Value} {profile? : String → Option Fields} (h : AnswersFrom answer site profile?) :
    (∀ field rows calls,
      let ids := distinctTexts (rows.map (Fields.get · field))
      let result := (run (recorded answer site) field rows).run calls
      result.2 = calls ++ callsFor site ids ∧
        Enriches answer site profile? field ids rows result.1) ∧
    ∀ reply (request : Request) limit calls, request.site = site →
      let result := ((Service.lookingUp reply answer).identifiedUsers request limit).run calls
      (∀ found rows warnings, Service.foundRows reply request limit = .ok found →
        Service.schema.normalize found = .ok (rows, warnings) →
        let ids := distinctTexts (found.map (Fields.get · standardField))
        (∀ row ∈ found, ∀ s, Fields.get row standardField = .text s → s ≠ "" → s ∈ ids) ∧
          result.2 = calls ++ callsFor site ids ∧
          Enriches answer site profile? standardField ids rows result.1) ∧
      ((∀ rows, Service.normalized (Service.foundRows reply request limit) ≠ .ok rows) →
        result.2 = calls) := by
  refine ⟨run_recorded h, ?_⟩
  rintro reply request limit calls rfl
  dsimp only
  rw [Service.identifiedUsers_recorded]
  refine ⟨fun found rows warnings hfound hnormal => ⟨?_, ?_⟩, fun hnone => ?_⟩
  · exact fun row hrow s htext hne => Service.mem_distinctTexts hrow htext hne
  · have hrows : Service.normalized (Service.foundRows reply request limit) = .ok rows :=
      Service.normalized_eq_ok.mpr ⟨found, warnings, hfound, hnormal⟩
    have hfixed : (Service.schema.kindOf standardField).isFixed = true := rfl
    have hids := Schema.map_get_of_normalize hfixed hnormal
    rw [hrows, ← hids]
    exact run_recorded h standardField rows calls
  · cases hrows : Service.normalized (Service.foundRows reply request limit) with
    | error e => rfl
    | ok rows => exact absurd hrows (hnone rows)

/-- The traits of a user whose id reads as a number. -/
def agentTraits : Fields :=
  [("plan", .text "pro")]

/-- Rows of a store of events with counts as texts, two of them about the agent. -/
def agentRows : List Fields :=
  [[("identified_user_id", .text "007"), ("sessions", .text "2")],
    [("identified_user_id", .text ""), ("sessions", .text "1")],
    [("identified_user_id", .text "007"), ("sessions", .text "1")]]

/-- The agent is looked up once and by the text of the id, and the counts are numbers. -/
theorem traits_batched_agent : ∃ profiles,
    ProfileStore.upsert (some []) (.int 1) (.text "007") agentTraits = .ok (some profiles) ∧
    ∃ rows,
      ((Service.lookingUp (fun _ _ => .ok agentRows) fun site ids =>
          (ProfileStore.lookup (some profiles) site ids).2).identifiedUsers withoutSignup
        (.int 50)).run [] = (.ok rows, [(.int 1, ["007"])]) ∧
      List.Forall₂
        (Enriched (fun user => if user = "007" then some agentTraits else none) standardField)
        [[("identified_user_id", .text "007"), ("sessions", .int 2)],
          [("identified_user_id", .text ""), ("sessions", .int 1)],
          [("identified_user_id", .text "007"), ("sessions", .int 1)]] rows := by
  have hjson : Json.IsJson (.object agentTraits) :=
    .object (by decide) (List.forall_mem_singleton.mpr (.text "pro"))
  have hsite : fitsWord64 1 = true := by decide
  obtain ⟨profiles, hupsert, hholds⟩ :=
    ProfileStore.holds_empty.exists_upsert hsite "007" hjson
  have hprofile :
      (fun user => ((∅ : TraitMap).insert (1, "007") agentTraits).lookup (1, user)) =
        fun user => if user = "007" then some agentTraits else none := by
    funext user
    by_cases huser : user = "007"
    · rw [if_pos huser, huser, Finmap.lookup_insert]
    · rw [if_neg huser, Finmap.lookup_insert_of_ne _ fun h => huser (congrArg Prod.snd h)]
      rfl
  have hfound : Service.foundRows (fun _ _ => .ok agentRows) withoutSignup (.int 50) =
      .ok agentRows := by
    obtain ⟨time, f, htime, -, hfilters⟩ := withoutSignup_compile
    obtain ⟨built, hbuilt⟩ := exists_built rfl hfilters
    have hfurther : ∀ c ∈ [identifiedCondition (.given 1)], IsFurther c :=
      List.forall_mem_singleton.mpr (.compare _ _ rfl _ _)
    obtain ⟨_, _, _, _, _, clause, hclause⟩ :=
      @assembles withoutSignup _ 1 _ hfurther rfl _ htime _ hbuilt
    exact Outcome.bind_eq_ok.mpr
      ⟨50, rfl, Outcome.bind_eq_ok.mpr ⟨clause, hclause.isClause, rfl⟩⟩
  obtain ⟨hcalls, -⟩ := (traits_batched (hholds.answersFrom hsite)).2
    (fun _ _ => .ok agentRows) withoutSignup (.int 50) [] rfl
  obtain ⟨-, hcall, henriches⟩ := hcalls agentRows _ _ hfound rfl
  have hlookup := hholds.lookup_eq hsite ["007"]
  obtain ⟨rows, hrows, hall⟩ := henriches.enriched (.inr ⟨_, congrArg Prod.snd hlookup⟩)
  rw [hprofile] at hall
  exact ⟨profiles, hupsert, rows, Prod.ext hrows hcall, hall⟩

end Clickstream
