import Mathlib.Algebra.BigOperators.Group.List.Lemmas
import Mathlib.Algebra.GroupWithZero.Nat
import Mathlib.Data.List.Dedup
import Clickstream.Proofs.Service.Isolation

/-!
# Counted events

Events are counted by the value of an attribute.  A value that occurs has one count
(`mem_attributeValues`, `nodup_pathCounts`), which is not zero, and the counts of all paths add up to
the number of events (`sum_pathCounts`).

A clause with further conditions selects those events of the clause without them that pass the
further conditions (`Request.exists_clause`).
-/

namespace Clickstream

namespace Report

/-! ## Values of an attribute -/

variable {a : Attribute} {events : List Event}

theorem length_withValue (a : Attribute) (value : Option String) (events : List Event) :
    (withValue a value events).length =
      (events.map fun e => e.attributes a).countP fun other => decide (other = value) := by
  rw [withValue, ← List.countP_eq_length_filter, List.countP_map]
  exact List.countP_congr fun e _ => by simp

/-- The values are those that have events. -/
theorem mem_attributeValues {value : Option String} :
    value ∈ attributeValues a events ↔ 0 < (withValue a value events).length := by
  rw [attributeValues, List.mem_eraseDups, length_withValue, List.countP_pos_iff]
  simp

/-- Every event is counted under one value. -/
theorem sum_withValue (a : Attribute) (events : List Event) :
    ((attributeValues a events).map fun value => (withValue a value events).length).sum =
      events.length := by
  have hperm : (attributeValues a events).Perm (events.map fun e => e.attributes a).dedup := by
    rw [attributeValues, List.perm_ext_iff_of_nodup (nodup_eraseDups _) (List.nodup_dedup _)]
    simp
  rw [(hperm.map _).sum_eq]
  simp only [length_withValue]
  exact (List.sum_map_count_dedup_eq_length _).trans (List.length_map ..)

/-! ## Paths -/

/-- The counts of the paths, in no particular order. -/
theorem pathCounts_perm (events : List Event) : (pathCounts events).Perm
    ((attributeValues .pathname events).map fun path =>
      ⟨path, (withValue .pathname path events).length⟩) :=
  List.mergeSort_perm ..

theorem mem_pathCounts {c : PathCount} : c ∈ pathCounts events ↔
    c.count = (withValue .pathname c.path events).length ∧ 0 < c.count := by
  obtain ⟨path, count⟩ := c
  rw [(pathCounts_perm events).mem_iff, List.mem_map]
  constructor
  · rintro ⟨path, hpath, ⟨⟩⟩
    exact ⟨rfl, mem_attributeValues.mp hpath⟩
  · intro ⟨hcount, hpos⟩
    have hlength : count = (withValue .pathname path events).length := hcount
    subst hlength
    exact ⟨path, mem_attributeValues.mpr hpos, rfl⟩

/-- No path is counted twice. -/
theorem nodup_pathCounts (events : List Event) : ((pathCounts events).map (·.path)).Nodup := by
  refine ((pathCounts_perm events).map _).nodup_iff.mpr ?_
  have hpaths : (PathCount.path ∘ fun path =>
      (⟨path, (withValue .pathname path events).length⟩ : PathCount)) = id := rfl
  rw [List.map_map, hpaths, List.map_id]
  exact nodup_eraseDups _

theorem sum_pathCounts (events : List Event) :
    ((pathCounts events).map (·.count)).sum = events.length := by
  rw [((pathCounts_perm events).map _).sum_eq, List.map_map]
  exact sum_withValue .pathname events

end Report

/-! ## Further conditions -/

theorem passes_pageviewCondition (db : Database) (id : ParamId) (e : Event) :
    passes db e.cell (some (pageviewCondition id)) = (e.type == "pageview") := by
  show ((Cell.text e.type).equal (.text "pageview") == some true) = _
  rw [Cell.equal_text]
  simp

/-- A path condition holds for the paths in which the expression has a match. -/
theorem passes_pathCondition (db : Database) (id : ParamId) {text : String} {r : Regex}
    (h : Regex.ofText? text = some r) (e : Event) :
    passes db e.cell (some (pathCondition id text)) =
      (e.attributes .pathname).any fun path => r.matchesIn path.toList := by
  show (matchRegex [Cell.ofText? (e.attributes .pathname), .text text] == some true) = _
  cases e.attributes .pathname with
  | none => rfl
  | some path =>
    show ((Regex.ofText? text).map _ == some true) = _
    rw [h]
    simp

namespace Request

variable {request : Request} {further : List Expr} {kept : Clause}

/-- If a request has a clause with further conditions, it has one without them. -/
theorem exists_kept [ZoneDatabase] {conditions : List (Option Expr)} {clause : Clause}
    (hclause : request.clause conditions = .ok clause) : ∃ kept, request.clause [] = .ok kept := by
  obtain ⟨site, time, built, hsite, htime, hbuilt⟩ := exists_parts hclause
  obtain ⟨_, _, _, _, _, kept, hkept⟩ :=
    @assembles request [] site _ nofun hsite time htime _ hbuilt
  exact ⟨kept, hkept.isClause⟩

/-- If a request has a clause, it has one with further conditions, which selects the events that
pass them, too. -/
theorem exists_clause [ZoneDatabase] (hkept : request.clause [] = .ok kept)
    (hfurther : ∀ e ∈ further, IsFurther e) :
    ∃ clause, request.clause (further.map some) = .ok clause ∧ ∀ db : Database, ∀ e,
      db.selects clause.conditions e =
        (db.selects kept.conditions e && (further.map some).all (passes db e.cell)) := by
  obtain ⟨site, time, built, hsite, htime, hbuilt⟩ := exists_parts hkept
  obtain ⟨_, _, _, _, _, kept', hall⟩ := @assembles request [] site _ nofun hsite _ htime _ hbuilt
  obtain ⟨_, _, _, _, _, clause, hsome⟩ := assembles hfurther hsite htime hbuilt
  obtain rfl : kept' = kept := Except.ok.inj (hall.isClause.symm.trans hkept)
  refine ⟨clause, hsome.isClause, fun db e => ?_⟩
  rw [hsome.selects_eq, hall.selects_eq, List.nil_append, List.map_append, List.all_append,
    Bool.and_assoc]
  exact congrArg _ (Bool.and_comm ..)

end Request

end Clickstream
