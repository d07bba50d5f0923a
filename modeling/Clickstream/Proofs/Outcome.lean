import Clickstream.Failure

/-!
# Outcomes

Operations that may fail are sequences of steps.  A sequence succeeds if every step does
(`bind_eq_ok`), and it fails by a cause of one of its steps (`FailsOnly.bind`).  Two kinds of causes
are told apart: a query that cannot be put together (`SparesQuery`), and all causes but the refusal
of a request (`Refuses`).
-/

namespace Clickstream

namespace Failure

/-- A query could not be put together. -/
def isCompilation : Failure → Bool
  | .conflict _ | .unsupportedOperator _ | .compilation .. => true
  | _ => false

end Failure

namespace Outcome

variable {α β : Type}

theorem ok_bind (a : α) (f : α → Outcome β) : ((.ok a : Outcome α) >>= f) = f a := rfl

theorem bind_eq_ok {x : Outcome α} {f : α → Outcome β} {b : β} :
    (x >>= f) = .ok b ↔ ∃ a, x = .ok a ∧ f a = .ok b := by
  cases x with
  | error e => exact iff_of_false nofun nofun
  | ok a =>
    constructor
    · intro h
      exact ⟨a, rfl, h⟩
    · rintro ⟨_, ⟨⟩, h⟩
      exact h

theorem bind_eq_error {x : Outcome α} {f : α → Outcome β} {e : Failure} :
    (x >>= f) = .error e ↔ x = .error e ∨ ∃ a, x = .ok a ∧ f a = .error e := by
  cases x with
  | error e' =>
    constructor
    · intro h
      cases h
      exact .inl rfl
    · rintro (h | ⟨_, h, _⟩)
      · cases h
        rfl
      · cases h
  | ok a =>
    constructor
    · intro h
      exact .inr ⟨a, rfl, h⟩
    · rintro (h | ⟨_, h, hf⟩)
      · cases h
      · cases h
        exact hf

theorem map_eq_ok {x : Outcome α} {f : α → β} {b : β} :
    x.map f = .ok b ↔ ∃ a, x = .ok a ∧ f a = b := by
  cases x with
  | error e => exact iff_of_false nofun nofun
  | ok a =>
    constructor
    · intro h
      exact ⟨a, rfl, Except.ok.inj h⟩
    · rintro ⟨_, ⟨⟩, h⟩
      exact congrArg Except.ok h

theorem map_eq_error {x : Outcome α} {f : α → β} {e : Failure} :
    x.map f = .error e ↔ x = .error e := by
  cases x with
  | error e' => exact ⟨fun h => congrArg Except.error (Except.error.inj h),
      fun h => congrArg Except.error (Except.error.inj h)⟩
  | ok a => exact iff_of_false nofun nofun

/-- If an operation fails, it is for a cause of some kind. -/
def FailsOnly (P : Failure → Prop) (x : Outcome α) : Prop :=
  ∀ e, x = .error e → P e

namespace FailsOnly

variable {P Q : Failure → Prop}

theorem ok (a : α) : FailsOnly P (.ok a : Outcome α) := nofun

theorem error {e : Failure} (h : P e) : FailsOnly P (.error e : Outcome α) := by
  rintro e' ⟨⟩
  exact h

theorem bind {x : Outcome α} {f : α → Outcome β} (hx : FailsOnly P x)
    (hf : ∀ a, x = .ok a → FailsOnly P (f a)) : FailsOnly P (x >>= f) := by
  cases x with
  | error e => exact error (hx e rfl)
  | ok a => exact hf a rfl

theorem map {x : Outcome α} (hx : FailsOnly P x) (f : α → β) : FailsOnly P (x.map f) := by
  cases x with
  | error e => exact error (hx e rfl)
  | ok a => exact ok (f a)

theorem mono {x : Outcome α} (hx : FailsOnly P x) (h : ∀ e, P e → Q e) : FailsOnly Q x :=
  fun e he => h e (hx e he)

end FailsOnly

/-- If an operation fails, it is not because a query could not be put together. -/
def SparesQuery (x : Outcome α) : Prop :=
  ∀ e, x = .error e → e.isCompilation = false

namespace SparesQuery

theorem ok (a : α) : SparesQuery (.ok a) := FailsOnly.ok a

theorem reject (r : Rejection) : SparesQuery (Clickstream.reject r : Outcome α) :=
  FailsOnly.error rfl

theorem raise (f : Fault) : SparesQuery (Clickstream.raise f : Outcome α) :=
  FailsOnly.error rfl

theorem bind {x : Outcome α} {f : α → Outcome β} (hx : SparesQuery x)
    (hf : ∀ a, x = .ok a → SparesQuery (f a)) : SparesQuery (x >>= f) :=
  FailsOnly.bind hx hf

theorem map {x : Outcome α} (hx : SparesQuery x) (f : α → β) : SparesQuery (x.map f) :=
  FailsOnly.map hx f

end SparesQuery

/-- If an operation fails, it is because the request is refused. -/
def Refuses (x : Outcome α) : Prop :=
  ∀ e, x = .error e → ∃ r, e = .rejected r

namespace Refuses

theorem ok (a : α) : Refuses (.ok a) := FailsOnly.ok a

theorem reject (r : Rejection) : Refuses (Clickstream.reject r : Outcome α) :=
  FailsOnly.error ⟨r, rfl⟩

theorem bind {x : Outcome α} {f : α → Outcome β} (hx : Refuses x)
    (hf : ∀ a, x = .ok a → Refuses (f a)) : Refuses (x >>= f) :=
  FailsOnly.bind hx hf

theorem map {x : Outcome α} (hx : Refuses x) (f : α → β) : Refuses (x.map f) :=
  FailsOnly.map hx f

theorem sparesQuery {x : Outcome α} (hx : Refuses x) : SparesQuery x := by
  refine FailsOnly.mono hx ?_
  rintro _ ⟨r, rfl⟩
  rfl

end Refuses

end Outcome

end Clickstream
