import Mathlib.Data.List.Forall2
import Clickstream.Proofs.Outcome

/-!
# Traversals

A traversal changes items one after the other and collects the warnings (`Outcome.collect`).  It
fails with the first item that fails (`collect_eq_error`).  If a step leaves an item alone that it
has made itself, and warns of the same again, then so does the traversal (`Settles.collect`).
Traversing lists of items is traversing the items of all of them (`collect_flatten`).
-/

namespace Clickstream.Outcome

variable {α ω : Type} {f : α → Outcome (α × List ω)} {xs : List α}

/-- Changes items one after the other and collects the warnings. -/
def collect (f : α → Outcome (α × List ω)) : List α → Outcome (List α × List ω)
  | [] => .ok ([], [])
  | x :: xs => do
    let (x, warnings) ← f x
    let (xs, more) ← collect f xs
    .ok (x :: xs, warnings ++ more)

theorem collect_cons_eq_ok {x : α} {result : List α × List ω} :
    collect f (x :: xs) = .ok result ↔ ∃ y first ys more, f x = .ok (y, first) ∧
      collect f xs = .ok (ys, more) ∧ result = (y :: ys, first ++ more) := by
  constructor
  · intro h
    obtain ⟨⟨y, first⟩, hy, h⟩ := bind_eq_ok.mp h
    obtain ⟨⟨ys, more⟩, hys, h⟩ := bind_eq_ok.mp h
    cases h
    exact ⟨y, first, ys, more, hy, hys, rfl⟩
  · rintro ⟨y, first, ys, more, hy, hys, rfl⟩
    exact bind_eq_ok.mpr ⟨_, hy, bind_eq_ok.mpr ⟨_, hys, rfl⟩⟩

/-- What a step makes of an item is related to it, the warnings are those of the item, and the step
does the same again to what it has made. -/
def Settles (f : α → Outcome (α × List ω)) (R : α → α → Prop) (warningsOf : α → List ω) : Prop :=
  ∀ x y warnings, f x = .ok (y, warnings) →
    R x y ∧ f y = .ok (y, warnings) ∧ warnings = warningsOf x

theorem Settles.collect {R : α → α → Prop} {warningsOf : α → List ω} (h : Settles f R warningsOf) :
    Settles (collect f) (List.Forall₂ R) (List.flatMap warningsOf) := by
  intro xs
  induction xs with
  | nil =>
    rintro _ _ ⟨⟩
    exact ⟨.nil, rfl, rfl⟩
  | cons x xs ih =>
    intro _ _ hcollect
    obtain ⟨y, first, ys, more, hy, hys, hresult⟩ := collect_cons_eq_ok.mp hcollect
    cases hresult
    obtain ⟨hrelated, hagain, rfl⟩ := h x y first hy
    obtain ⟨hothers, hothersAgain, rfl⟩ := ih ys more hys
    exact ⟨.cons hrelated hothers,
      collect_cons_eq_ok.mpr ⟨y, _, ys, _, hagain, hothersAgain, rfl⟩, rfl⟩

/-- A traversal fails with the failure of the first item that fails. -/
theorem collect_eq_error {e : Failure} : collect f xs = .error e ↔
    ∃ done x rest, xs = done ++ x :: rest ∧ (∀ y ∈ done, ∃ result, f y = .ok result) ∧
      f x = .error e := by
  induction xs with
  | nil =>
    refine iff_of_false nofun ?_
    rintro ⟨done, x, rest, h, -⟩
    exact List.append_ne_nil_of_right_ne_nil done (List.cons_ne_nil x rest) h.symm
  | cons x xs ih =>
    constructor
    · intro h
      rcases bind_eq_error.mp h with hx | ⟨result, hx, h⟩
      · exact ⟨[], x, xs, rfl, nofun, hx⟩
      · rcases bind_eq_error.mp h with hxs | ⟨_, -, h⟩
        · obtain ⟨done, y, rest, rfl, hdone, hy⟩ := ih.mp hxs
          exact ⟨x :: done, y, rest, rfl, List.forall_mem_cons.mpr ⟨⟨result, hx⟩, hdone⟩, hy⟩
        · cases h
    · rintro ⟨done, y, rest, heq, hdone, hy⟩
      cases done with
      | nil =>
        cases heq
        exact bind_eq_error.mpr (.inl hy)
      | cons _ done =>
        cases heq
        obtain ⟨⟨result, hx⟩, hdone⟩ := List.forall_mem_cons.mp hdone
        exact bind_eq_error.mpr (.inr ⟨result, hx,
          bind_eq_error.mpr (.inl (ih.mpr ⟨done, y, rest, rfl, hdone, hy⟩))⟩)

theorem exists_collect_eq_ok :
    (∃ result, collect f xs = .ok result) ↔ ∀ x ∈ xs, ∃ result, f x = .ok result := by
  induction xs with
  | nil => exact iff_of_true ⟨_, rfl⟩ nofun
  | cons x xs ih =>
    rw [List.forall_mem_cons, ← ih]
    constructor
    · rintro ⟨_, h⟩
      obtain ⟨y, first, ys, more, hy, hys, -⟩ := collect_cons_eq_ok.mp h
      exact ⟨⟨_, hy⟩, _, hys⟩
    · rintro ⟨⟨_, hy⟩, _, hys⟩
      exact ⟨_, collect_cons_eq_ok.mpr ⟨_, _, _, _, hy, hys, rfl⟩⟩

theorem collect_append (f : α → Outcome (α × List ω)) (xs ys : List α) :
    collect f (xs ++ ys) = collect f xs >>= fun first =>
      (collect f ys).map fun second => (first.1 ++ second.1, first.2 ++ second.2) := by
  induction xs with
  | nil =>
    rw [List.nil_append]
    cases collect f ys <;> rfl
  | cons x xs ih =>
    rw [List.cons_append, collect, collect, ih]
    cases f x with
    | error e => rfl
    | ok first =>
      cases collect f xs with
      | error e => rfl
      | ok second =>
        cases collect f ys with
        | error e => rfl
        | ok third => simp [ok_bind, Except.map, List.append_assoc]

/-- Traversing lists of items is traversing all of them. -/
theorem collect_flatten (f : α → Outcome (α × List ω)) (xss : List (List α)) :
    (collect (collect f) xss).map (fun result => (result.1.flatten, result.2)) =
      collect f xss.flatten := by
  induction xss with
  | nil => rfl
  | cons xs xss ih =>
    rw [List.flatten_cons, collect_append, ← ih, collect]
    cases collect f xs with
    | error e => rfl
    | ok first => cases collect (collect f) xss <;> rfl

/-! ## Related items -/

/-- All results have a property if and only if all items have a property that amounts to it. -/
theorem forall₂_forall_iff {α β : Type} {R : α → β → Prop} {P : α → Prop} {Q : β → Prop}
    {xs : List α} {ys : List β} (h : List.Forall₂ R xs ys)
    (hPQ : ∀ x y, x ∈ xs → R x y → (Q y ↔ P x)) : (∀ y ∈ ys, Q y) ↔ ∀ x ∈ xs, P x := by
  induction h with
  | nil => exact iff_of_true nofun nofun
  | cons hxy hrest ih =>
    rw [List.forall_mem_cons, List.forall_mem_cons, hPQ _ _ List.mem_cons_self hxy,
      ih fun x y hx => hPQ x y (List.mem_cons_of_mem _ hx)]

end Clickstream.Outcome
