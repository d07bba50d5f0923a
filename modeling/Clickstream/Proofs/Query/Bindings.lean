import Mathlib.Data.List.Basic
import Clickstream.Bindings

/-!
# Bindings as partial functions

A list of bindings is read through `get?`.  Binding a name changes the value of that name only and
adds no other name (`get?_set`, `mem_names_set`).  A partial function on a list of names without
repetitions is read back from its bindings (`get?_ofNames`, `nodup_names_ofNames`).
-/

namespace Clickstream

theorem nodup_eraseDups {α : Type} [BEq α] [LawfulBEq α] (items : List α) :
    items.eraseDups.Nodup := by
  cases items with
  | nil => simp
  | cons item items =>
    have hlength := List.length_filter_le (fun other => !other == item) items
    rw [List.eraseDups_cons, List.nodup_cons]
    refine ⟨?_, nodup_eraseDups (items.filter fun other => !other == item)⟩
    simp [List.mem_eraseDups]
termination_by items.length
decreasing_by simp only [List.length_cons]; omega

namespace Bindings

variable {α : Type}

/-! ## Single names -/

@[simp] theorem get?_nil (name : String) : get? ([] : Bindings α) name = none := rfl

theorem get?_cons_self (name : String) (value : α) (rest : Bindings α) :
    get? ((name, value) :: rest) name = some value :=
  if_pos rfl

theorem get?_cons_of_ne {bound name : String} (h : bound ≠ name) (value : α) (rest : Bindings α) :
    get? ((bound, value) :: rest) name = get? rest name :=
  if_neg h

@[simp] theorem names_nil : names ([] : Bindings α) = [] := rfl

@[simp] theorem names_cons (name : String) (value : α) (rest : Bindings α) :
    names ((name, value) :: rest) = name :: names rest := rfl

/-- A name is bound if and only if it has a value. -/
theorem isSome_get?_iff {bindings : Bindings α} {name : String} :
    (bindings.get? name).isSome ↔ name ∈ bindings.names := by
  induction bindings with
  | nil => exact iff_of_false nofun nofun
  | cons binding rest ih =>
    obtain ⟨bound, value⟩ := binding
    rw [names_cons, List.mem_cons]
    by_cases h : bound = name
    · subst h
      rw [get?_cons_self]
      exact iff_of_true rfl (.inl rfl)
    · rw [get?_cons_of_ne h, ih]
      exact ⟨.inr, fun hm => hm.resolve_left fun he => h he.symm⟩

theorem get?_eq_none_iff {bindings : Bindings α} {name : String} :
    bindings.get? name = none ↔ name ∉ bindings.names := by
  rw [← isSome_get?_iff, Option.not_isSome_iff_eq_none]

theorem mem_of_get? {bindings : Bindings α} {name : String} {value : α}
    (h : bindings.get? name = some value) : (name, value) ∈ bindings := by
  induction bindings with
  | nil => cases h
  | cons binding rest ih =>
    obtain ⟨bound, old⟩ := binding
    by_cases hb : bound = name
    · subst hb
      rw [get?_cons_self] at h
      cases h
      exact List.mem_cons_self
    · rw [get?_cons_of_ne hb] at h
      exact List.mem_cons_of_mem _ (ih h)

theorem get?_of_mem {bindings : Bindings α} (hnodup : bindings.names.Nodup)
    {binding : String × α} (h : binding ∈ bindings) :
    bindings.get? binding.1 = some binding.2 := by
  induction bindings with
  | nil => cases h
  | cons first rest ih =>
    rw [names_cons, List.nodup_cons] at hnodup
    rcases List.mem_cons.mp h with rfl | h
    · exact get?_cons_self ..
    · have hne : first.1 ≠ binding.1 := fun he => hnodup.1 (he ▸ List.mem_map_of_mem h)
      exact (get?_cons_of_ne hne ..).trans (ih hnodup.2 h)

theorem exists_get? {bindings : Bindings α} {name : String} (h : name ∈ bindings.names) :
    ∃ value, bindings.get? name = some value :=
  Option.isSome_iff_exists.mp (isSome_get?_iff.mpr h)

/-! ## Binding a name -/

/-- Binding a name changes its own value only. -/
theorem get?_set (bindings : Bindings α) (bound : String) (value : α) (name : String) :
    (bindings.set bound value).get? name =
      if bound = name then some value else bindings.get? name := by
  induction bindings with
  | nil => rfl
  | cons binding rest ih =>
    obtain ⟨first, old⟩ := binding
    rw [set]
    by_cases hfirst : first = bound
    · subst hfirst
      rw [if_pos rfl]
      by_cases h : first = name
      · rw [if_pos h, h, get?_cons_self]
      · rw [if_neg h, get?_cons_of_ne h, get?_cons_of_ne h]
    · rw [if_neg hfirst]
      by_cases h : first = name
      · subst h
        rw [get?_cons_self, get?_cons_self, if_neg (Ne.symm hfirst)]
      · rw [get?_cons_of_ne h, get?_cons_of_ne h, ih]

/-- A new name comes last. -/
theorem set_of_notMem {bindings : Bindings α} {name : String} (h : name ∉ bindings.names)
    (value : α) : bindings.set name value = bindings ++ [(name, value)] := by
  induction bindings with
  | nil => rfl
  | cons binding rest ih =>
    obtain ⟨first, old⟩ := binding
    rw [names_cons, List.mem_cons, not_or] at h
    rw [set, if_neg (Ne.symm h.1), ih h.2, List.cons_append]

/-- A name that is bound keeps its place. -/
theorem names_set_of_mem {bindings : Bindings α} {name : String} (h : name ∈ bindings.names)
    (value : α) : (bindings.set name value).names = bindings.names := by
  induction bindings with
  | nil => cases h
  | cons binding rest ih =>
    obtain ⟨first, old⟩ := binding
    rw [set]
    by_cases hfirst : first = name
    · rw [if_pos hfirst, names_cons, names_cons, hfirst]
    · rw [names_cons, List.mem_cons] at h
      rw [if_neg hfirst, names_cons, names_cons, ih (h.resolve_left (Ne.symm hfirst))]

theorem names_set (bindings : Bindings α) (name : String) (value : α) :
    (bindings.set name value).names =
      if name ∈ bindings.names then bindings.names else bindings.names ++ [name] := by
  split
  · next h => exact names_set_of_mem h value
  · next h =>
    rw [set_of_notMem h, names, List.map_append]
    rfl

theorem mem_names_set {bindings : Bindings α} {bound name : String} {value : α} :
    name ∈ (bindings.set bound value).names ↔ name ∈ bindings.names ∨ name = bound := by
  rw [names_set]
  split
  · next h =>
    constructor
    · exact .inl
    · rintro (hm | rfl)
      · exact hm
      · exact h
  · rw [List.mem_append, List.mem_singleton]

/-- Bindings of other names are not touched. -/
theorem filter_set_of_false {bindings : Bindings α} {keep : String → Bool} {name : String}
    (h : keep name = false) (value : α) :
    (bindings.set name value).filter (fun binding => keep binding.1) =
      bindings.filter fun binding => keep binding.1 := by
  induction bindings with
  | nil => rw [set, List.filter_cons, h]; rfl
  | cons binding rest ih =>
    obtain ⟨first, old⟩ := binding
    rw [set]
    by_cases hfirst : first = name
    · subst hfirst
      rw [if_pos rfl, List.filter_cons, List.filter_cons, h]
      rfl
    · rw [if_neg hfirst, List.filter_cons, List.filter_cons, ih]

/-! ## Bindings that are kept -/

theorem names_filter (keep : String → Bool) (bindings : Bindings α) :
    names (bindings.filter fun binding => keep binding.1) = (names bindings).filter keep :=
  List.filter_map.symm

/-- A binding that is kept has its value, and no other one has any. -/
theorem get?_filter (keep : String → Bool) (bindings : Bindings α) (name : String) :
    get? (bindings.filter fun binding => keep binding.1) name =
      if keep name then get? bindings name else none := by
  induction bindings with
  | nil => exact (ite_self none).symm
  | cons binding rest ih =>
    obtain ⟨bound, value⟩ := binding
    by_cases hbound : bound = name
    · subst hbound
      cases hkeep : keep bound with
      | true => simp [hkeep, get?_cons_self]
      | false => simpa [hkeep] using ih
    · rw [List.filter_cons, get?_cons_of_ne hbound, ← ih]
      split
      · rw [get?_cons_of_ne hbound]
      · rfl

/-! ## Bindings of a partial function -/

/-- The names that have a value, bound to their values. -/
def ofNames (f : String → Option α) (names : List String) : Bindings α :=
  names.filterMap fun name => (f name).map fun value => (name, value)

theorem get?_ofNames (f : String → Option α) (names : List String) (name : String) :
    (ofNames f names).get? name = if name ∈ names then f name else none := by
  induction names with
  | nil => rfl
  | cons first rest ih =>
    rw [ofNames, List.filterMap_cons, ← ofNames]
    by_cases h : first = name
    · subst h
      cases hvalue : f first with
      | none => simp [ih, hvalue]
      | some value => simp [get?_cons_self]
    · have hmem : (name ∈ first :: rest) = (name ∈ rest) := by simp [Ne.symm h]
      cases f first with
      | none => simp [ih, hmem]
      | some value => simp [get?_cons_of_ne h, ih, hmem]

theorem names_ofNames_sublist (f : String → Option α) (names : List String) :
    (ofNames f names).names.Sublist names := by
  induction names with
  | nil => exact .slnil
  | cons first rest ih =>
    rw [ofNames, List.filterMap_cons, ← ofNames]
    cases f first with
    | none => exact ih.cons first
    | some value => exact ih.cons_cons first

theorem nodup_names_ofNames (f : String → Option α) {names : List String} (h : names.Nodup) :
    (ofNames f names).names.Nodup :=
  (names_ofNames_sublist f names).nodup h

/-! ## Conflicts -/

theorem conflicts_eq_false_iff [BEq α] {bindings : Bindings α} {name : String} {value : α} :
    bindings.conflicts name value = false ↔
      ∀ old, bindings.get? name = some old → (old == value) = true := by
  unfold conflicts
  cases bindings.get? name with
  | none => exact iff_of_true rfl nofun
  | some old => simp

end Bindings

end Clickstream
