import Mathlib.Data.String.Basic
import Mathlib.Order.OrderDual
import Clickstream.Proofs.Event.Sessions
import Clickstream.Proofs.Service.Report

/-!
# Answers to the same events in another order

The rows of a report depend on the selected events only, and not on their order (`rows_of_perm`).
Numbers of events, of distinct values and the last time do not depend on it.  Counted entries are
listed by a number or a name, and by a text where these are equal (`Lists`); as no two entries
agree on both, there is one way to list them (`Lists.mergeSort_eq`).
-/

namespace Clickstream

theorem eraseDups_of_perm {α : Type} [BEq α] [LawfulBEq α] {items items' : List α}
    (h : items.Perm items') : items.eraseDups.Perm items'.eraseDups := by
  rw [List.perm_ext_iff_of_nodup (nodup_eraseDups _) (nodup_eraseDups _)]
  simp [List.mem_eraseDups, h.mem_iff]

namespace Report

/-! ## Listed entries -/

theorem textBefore_trans {s t u : Option String} (hst : textBefore s t = true)
    (htu : textBefore t u = true) : textBefore s u = true := by
  cases s with
  | none =>
    cases t with
    | none => exact htu
    | some t => cases hst
  | some s =>
    cases u with
    | none => rfl
    | some u =>
      cases t with
      | none => cases htu
      | some t =>
        simp only [textBefore, decide_eq_true_eq] at hst htu ⊢
        exact String.le_trans hst htu

theorem textBefore_total (s t : Option String) : textBefore s t = true ∨ textBefore t s = true := by
  cases s with
  | none =>
    cases t with
    | none => exact .inl rfl
    | some t => exact .inr rfl
  | some s =>
    cases t with
    | none => exact .inl rfl
    | some t =>
      simp only [textBefore, decide_eq_true_eq]
      exact String.le_total s t

theorem textBefore_antisymm {s t : Option String} (hst : textBefore s t = true)
    (hts : textBefore t s = true) : s = t := by
  cases s with
  | none =>
    cases t with
    | none => rfl
    | some t => cases hst
  | some s =>
    cases t with
    | none => cases hts
    | some t =>
      simp only [textBefore, decide_eq_true_eq] at hst hts
      exact congrArg some (String.le_antisymm hst hts)

section

variable {α κ : Type} [LinearOrder κ]

/-- Entries are listed by a key, and by a text where the keys are equal. -/
def Lists (before : α → α → Bool) (key : α → κ) (text : α → Option String) : Prop :=
  ∀ a b, before a b = true ↔
    key a < key b ∨ key a = key b ∧ textBefore (text a) (text b) = true

namespace Lists

variable {before : α → α → Bool} {key : α → κ} {text : α → Option String}

theorem trans (h : Lists before key text) (a b c : α) (hab : before a b = true)
    (hbc : before b c = true) : before a c = true := by
  rw [h] at hab hbc ⊢
  rcases hab with hab | ⟨hab, htext⟩
  · rcases hbc with hbc | ⟨hbc, -⟩
    · exact .inl (hab.trans hbc)
    · exact .inl (hbc ▸ hab)
  · rw [hab]
    exact hbc.imp_right fun hbc => ⟨hbc.1, textBefore_trans htext hbc.2⟩

theorem total (h : Lists before key text) (a b : α) : (before a b || before b a) = true := by
  rw [Bool.or_eq_true, h, h]
  rcases lt_trichotomy (key a) (key b) with hlt | heq | hgt
  · exact .inl (.inl hlt)
  · rcases textBefore_total (text a) (text b) with htext | htext
    · exact .inl (.inr ⟨heq, htext⟩)
    · exact .inr (.inr ⟨heq.symm, htext⟩)
  · exact .inr (.inl hgt)

theorem antisymm (h : Lists before key text) {a b : α} (hab : before a b = true)
    (hba : before b a = true) : key a = key b ∧ text a = text b := by
  rw [h] at hab hba
  rcases hab with hab | ⟨heq, htext⟩
  · rcases hba with hba | ⟨hba, -⟩
    · exact absurd hba hab.asymm
    · exact absurd hba hab.ne'
  · rcases hba with hba | ⟨-, hba⟩
    · exact absurd heq.symm hba.ne
    · exact ⟨heq, textBefore_antisymm htext hba⟩

/-- Entries that differ in the key or in the text are listed in one way. -/
theorem mergeSort_eq (h : Lists before key text) {entries entries' : List α}
    (hperm : entries.Perm entries')
    (hinjective : ∀ a ∈ entries, ∀ b ∈ entries, key a = key b → text a = text b → a = b) :
    entries.mergeSort before = entries'.mergeSort before := by
  have hsorted : (entries.mergeSort before).Perm (entries'.mergeSort before) :=
    (List.mergeSort_perm entries before).trans
      (hperm.trans (List.mergeSort_perm entries' before).symm)
  refine hsorted.eq_of_pairwise ?_ (List.pairwise_mergeSort h.trans h.total entries)
    (List.pairwise_mergeSort h.trans h.total entries')
  intro a b ha hb hab hba
  obtain ⟨hkey, htext⟩ := h.antisymm hab hba
  rw [List.mem_mergeSort] at ha hb
  exact hinjective a ha b (hperm.mem_iff.mpr hb) hkey htext

end Lists

end

/-! ## Reports -/

variable {events events' : List Event}

theorem countDistinct_of_perm {α : Type} [BEq α] [LawfulBEq α] {items items' : List α}
    (h : items.Perm items') : countDistinct items = countDistinct items' :=
  (eraseDups_of_perm h).length_eq

theorem countSessions_of_perm (h : events.Perm events') :
    countSessions events = countSessions events' :=
  countDistinct_of_perm (h.map _)

theorem countPageviews_of_perm (h : events.Perm events') :
    countPageviews events = countPageviews events' :=
  h.countP_eq _

theorem attributeValues_of_perm (h : events.Perm events') (a : Attribute) :
    (attributeValues a events).Perm (attributeValues a events') :=
  eraseDups_of_perm (h.map _)

theorem withValue_of_perm (h : events.Perm events') (a : Attribute) (value : Option String) :
    (withValue a value events).Perm (withValue a value events') :=
  h.filter _

theorem pathCounts_of_perm (h : events.Perm events') : pathCounts events = pathCounts events' := by
  have hlists : Lists (fun a b : PathCount =>
      b.count < a.count || (a.count == b.count && textBefore a.path b.path))
      (fun c => OrderDual.toDual c.count) (·.path) := by
    intro a b
    simp
  have hcount : ∀ path, (withValue .pathname path events).length =
      (withValue .pathname path events').length := fun path =>
    (withValue_of_perm h .pathname path).length_eq
  unfold pathCounts
  simp only [hcount]
  refine hlists.mergeSort_eq ((attributeValues_of_perm h .pathname).map _) ?_
  rintro ⟨path, count⟩ - ⟨path', count'⟩ - hkey htext
  cases OrderDual.toDual.injective hkey
  cases htext
  rfl

theorem totals_of_perm (h : events.Perm events') : totals events = totals events' := by
  rw [totals, totals, countSessions_of_perm h, countPageviews_of_perm h,
    countDistinct_of_perm (h.map _)]

theorem ticks_laterOf (a b : Timestamp) : (laterOf a b).ticks = max a.ticks b.ticks := by
  unfold laterOf
  split
  · next hlt => exact (Nat.max_eq_right (Nat.le_of_lt hlt)).symm
  · next hnot => exact (Nat.max_eq_left (Nat.le_of_not_lt hnot)).symm

theorem lastSeen_of_perm (h : events.Perm events') : lastSeen events = lastSeen events' := by
  induction h with
  | nil => rfl
  | cons e _ ih => rw [lastSeen, lastSeen, ih]
  | swap d e rest =>
    simp only [lastSeen]
    cases lastSeen rest with
    | none =>
      refine congrArg some (Timestamp.eq_of_ticks ?_)
      rw [ticks_laterOf, ticks_laterOf, Nat.max_comm]
    | some t =>
      refine congrArg some (Timestamp.eq_of_ticks ?_)
      simp only [ticks_laterOf]
      exact Nat.max_left_comm ..
  | trans _ _ ih ih' => exact ih.trans ih'

theorem activityOf_of_perm (h : events.Perm events') (user : Option String) :
    activityOf events user = activityOf events' user := by
  have hown := withValue_of_perm h .identifiedUserId user
  rw [activityOf, activityOf, countSessions_of_perm hown, countPageviews_of_perm hown,
    lastSeen_of_perm hown]

/-- Activities are listed by the number of sessions, the greatest first. -/
theorem lists_activities : Lists (fun a b : Activity =>
    b.sessions < a.sessions || (a.sessions == b.sessions && textBefore a.user b.user))
    (fun a => OrderDual.toDual a.sessions) (·.user) := by
  intro a b
  simp

theorem activities_of_perm (h : events.Perm events') : activities events = activities events' := by
  unfold activities
  rw [funext (activityOf_of_perm h)]
  refine lists_activities.mergeSort_eq ((attributeValues_of_perm h .identifiedUserId).map _) ?_
  -- A user has one activity.
  rintro a ha b hb - hname
  obtain ⟨user, -, rfl⟩ := List.mem_map.mp ha
  obtain ⟨user', -, rfl⟩ := List.mem_map.mp hb
  exact congrArg _ hname

theorem sessionPaths_of_perm (h : events.Perm events') :
    sessionPaths events = sessionPaths events' := by
  have hlists : Lists (fun a b : String × Option String =>
      a.1 < b.1 || (a.1 == b.1 && textBefore a.2 b.2)) (·.1) (·.2) := by
    intro a b
    simp
  refine hlists.mergeSort_eq (eraseDups_of_perm (h.map _)) ?_
  rintro a - b - hsession hpath
  exact Prod.ext hsession hpath

/-- The answer to a report does not depend on the order of the selected events. -/
theorem rows_of_perm (h : events.Perm events') (report : Report) :
    report.rows events = report.rows events' := by
  cases report with
  | pageviews => rw [rows, rows, pathCounts_of_perm h]
  | overview => rw [rows, rows, totals_of_perm h]
  | identifiedUsers limit => rw [rows, rows, activities_of_perm h]
  | paths => rw [rows, rows, sessionPaths_of_perm h]

end Report

end Clickstream
