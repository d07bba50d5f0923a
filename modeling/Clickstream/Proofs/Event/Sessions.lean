import Mathlib.Logic.Basic
import Clickstream.Proofs.Event.Meaning

/-!
# Sessions

The events of a session within a scope, and what subqueries make of them.  Grouped by session, the
rows of a scope fall into the sessions of its events (`mem_groups_session`).  The first or the last
pathname of a session is that of an event that leads all others with a pathname
(`exists_isLeading`), and if no two events of a session have the same time, it is the only such
pathname (`Event.IsLeading.path_eq`).
-/

namespace Clickstream

/-! ## Groups -/

/-- The events of a session within a scope, in order. -/
def Database.sessionEvents (db : Database) (site : Int) (time : Option Expr) (session : String) :
    List Event :=
  (db.scopeEvents site time).filter (·.session == session)

theorem Database.mem_sessionEvents {db : Database} {site : Int} {time : Option Expr}
    {session : String} {e : Event} :
    e ∈ db.sessionEvents site time session ↔
      e ∈ db.scopeEvents site time ∧ e.session = session := by
  rw [sessionEvents, List.mem_filter, beq_iff_eq]

theorem mem_groups {columns : List Column} {rows group : List Row} :
    group ∈ groups columns rows ↔
      ∃ row ∈ rows, (rows.filter fun other => columns.map other = columns.map row) = group := by
  unfold groups
  rw [List.mem_map]
  constructor
  · rintro ⟨key, hkey, rfl⟩
    obtain ⟨row, hrow, rfl⟩ := List.mem_map.mp (List.mem_eraseDups.mp hkey)
    exact ⟨row, hrow, rfl⟩
  · rintro ⟨row, hrow, rfl⟩
    exact ⟨_, List.mem_eraseDups.mpr (List.mem_map_of_mem hrow), rfl⟩

/-- Grouped by session, the rows of events fall into the sessions of the events. -/
theorem mem_groups_session {events : List Event} {group : List Row} :
    group ∈ groups [.sessionId] (events.map Event.cell) ↔
      ∃ e ∈ events, (events.filter (·.session == e.session)).map Event.cell = group := by
  have hsame : ∀ e : Event,
      ((events.map Event.cell).filter fun other =>
        [Column.sessionId].map other = [Column.sessionId].map e.cell) =
      (events.filter (·.session == e.session)).map Event.cell := by
    intro e
    rw [List.filter_map]
    refine congrArg _ (List.filter_congr fun other _ => ?_)
    rw [Bool.eq_iff_iff]
    simp only [Function.comp_apply, List.map_cons, List.map_nil, Event.cell, List.cons.injEq,
      and_true, Cell.text.injEq, decide_eq_true_eq, beq_iff_eq]
  rw [mem_groups]
  constructor
  · rintro ⟨row, hrow, rfl⟩
    obtain ⟨e, he, rfl⟩ := List.mem_map.mp hrow
    exact ⟨e, he, (hsame e).symm⟩
  · rintro ⟨e, he, rfl⟩
    exact ⟨e.cell, List.mem_map_of_mem he, hsame e⟩

/-! ## First and last pathnames -/

theorem Timestamp.eq_of_ticks {t u : Timestamp} (h : t.ticks = u.ticks) : t = u := by
  cases t
  cases u
  cases h
  rfl

namespace Event

/-- The time of an event is not later than that of another one, or not earlier. -/
def Leads (later : Bool) (e other : Event) : Prop :=
  if later then other.timestamp.ticks ≤ e.timestamp.ticks
  else e.timestamp.ticks ≤ other.timestamp.ticks

theorem Leads.refl (later : Bool) (e : Event) : e.Leads later e := by
  cases later <;> exact Nat.le_refl _

theorem Leads.trans {later : Bool} {d e f : Event} (hde : d.Leads later e)
    (hef : e.Leads later f) : d.Leads later f := by
  cases later with
  | false => exact Nat.le_trans hde hef
  | true => exact Nat.le_trans hef hde

theorem Leads.of_not {later : Bool} {d e : Event} (h : ¬ e.Leads later d) : d.Leads later e := by
  cases later <;> exact Nat.le_of_not_le h

/-- A row wins over another one if that one does not lead it. -/
theorem order_eq_iff {later : Bool} {d e : Event} :
    (d.cell .timestamp).order? (e.cell .timestamp) = some (if later then .gt else .lt) ↔
      ¬ e.Leads later d := by
  show some (compare d.timestamp.ticks e.timestamp.ticks) = _ ↔ _
  rw [Option.some.injEq]
  cases later with
  | false => exact Nat.compare_eq_lt.trans Nat.not_le.symm
  | true => exact Nat.compare_eq_gt.trans Nat.not_le.symm

/-- The row with the least or the greatest time is that of an event that leads all others. -/
theorem exists_extremeRow (later : Bool) {events : List Event} (hne : events ≠ []) :
    ∃ e ∈ events, extremeRow? later (events.map cell) = some e.cell ∧
      ∀ other ∈ events, e.Leads later other := by
  induction events with
  | nil => exact absurd rfl hne
  | cons e events ih =>
    cases events with
    | nil =>
      refine ⟨e, List.mem_cons_self, rfl, ?_⟩
      intro other hother
      rw [List.mem_singleton.mp hother]
      exact Leads.refl later e
    | cons next rest =>
      obtain ⟨best, hbest, hrow, hleads⟩ := ih (List.cons_ne_nil _ _)
      rw [List.map_cons, extremeRow?, hrow]
      dsimp only
      -- The best of the rest stays the best unless the first row leads it.
      by_cases hlead : e.Leads later best
      · have hkeeps := order_eq_iff.not.mpr (not_not.mpr hlead)
        refine ⟨e, List.mem_cons_self, by rw [if_neg hkeeps], ?_⟩
        refine List.forall_mem_cons.mpr ⟨Leads.refl later e, ?_⟩
        exact fun other hother => hlead.trans (hleads other hother)
      · refine ⟨best, List.mem_cons_of_mem e hbest, by rw [if_pos (order_eq_iff.mpr hlead)], ?_⟩
        exact List.forall_mem_cons.mpr ⟨Leads.of_not hlead, hleads⟩

/-- An event has the first, or the last, pathname of some events: it has a pathname if one of them
has, and it leads those that have. -/
structure IsLeading (later : Bool) (events : List Event) (e : Event) : Prop where
  mem : e ∈ events
  hasPath : ∀ other ∈ events, (other.attributes .pathname).isSome → (e.attributes .pathname).isSome
  leads : ∀ other ∈ events, (other.attributes .pathname).isSome → e.Leads later other

theorem filter_hasPath (events : List Event) :
    ((events.map cell).filter fun row => !(row (.attribute .pathname)).isNull) =
      (events.filter fun e => (e.attributes .pathname).isSome).map cell := by
  rw [List.filter_map]
  refine congrArg _ (List.filter_congr fun e _ => ?_)
  show (!(Cell.ofText? (e.attributes .pathname)).isNull) = _
  cases e.attributes .pathname <;> rfl

/-- The computed pathname of some events is that of a leading one. -/
theorem exists_isLeading (later : Bool) {events : List Event} (hne : events ≠ []) :
    ∃ e : Event, e.IsLeading later events ∧
      extremePathname later (events.map cell) = Cell.ofText? (e.attributes .pathname) := by
  unfold extremePathname
  rw [filter_hasPath]
  cases hnamed : events.filter fun e => (e.attributes .pathname).isSome with
  | nil =>
    have hnone : ∀ e ∈ events, ¬ (e.attributes .pathname).isSome :=
      List.filter_eq_nil_iff.mp hnamed
    obtain ⟨e, he⟩ := List.exists_mem_of_ne_nil events hne
    refine ⟨e, ⟨he, fun other ho h => absurd h (hnone other ho),
      fun other ho h => absurd h (hnone other ho)⟩, ?_⟩
    have hpath := hnone e he
    rw [Option.not_isSome_iff_eq_none] at hpath
    rw [hpath]
    rfl
  | cons d named =>
    obtain ⟨e, he, hrow, hleads⟩ := exists_extremeRow later (List.cons_ne_nil d named)
    rw [hrow]
    rw [← hnamed] at he hleads
    obtain ⟨hmem, hpath⟩ := List.mem_filter.mp he
    exact ⟨e, ⟨hmem, fun _ _ _ => hpath,
      fun other ho h => hleads other (List.mem_filter.mpr ⟨ho, h⟩)⟩, rfl⟩

/-- If no two events have the same time, their first or last pathname is unique. -/
theorem IsLeading.path_eq {later : Bool} {events : List Event} {d e : Event}
    (hd : d.IsLeading later events) (he : e.IsLeading later events)
    (htimes : ∀ d ∈ events, ∀ e ∈ events, d ≠ e → d.timestamp ≠ e.timestamp) :
    d.attributes .pathname = e.attributes .pathname := by
  by_cases hpath : (d.attributes .pathname).isSome
  · have hpath' := he.hasPath d hd.mem hpath
    have hde := hd.leads e he.mem hpath'
    have hed := he.leads d hd.mem hpath
    have hticks : d.timestamp.ticks = e.timestamp.ticks := by
      cases later with
      | false => exact Nat.le_antisymm hde hed
      | true => exact Nat.le_antisymm hed hde
    by_cases hne : d = e
    · rw [hne]
    · exact absurd (Timestamp.eq_of_ticks hticks) (htimes d hd.mem e he.mem hne)
  · have hpath' : ¬ (e.attributes .pathname).isSome := fun h => hpath (hd.hasPath e he.mem h)
    rw [Option.not_isSome_iff_eq_none] at hpath hpath'
    rw [hpath, hpath']

end Event

end Clickstream
