import Mathlib.Data.List.Nodup
import Mathlib.Data.List.Perm.Subperm
import Clickstream.Proofs.Query.Binding

/-!
# Steps of a renderer

A step binds a parameter in one of three ways (`Renderer.bind_cases`): it is bound already, it gets
a name, or the name that it brings along holds another value.  A generated name is the first one
after the counter that is free (`Renderer.nextNumber_spec`), whatever the names in use look like.

A run binds parameters up to the first one that clashes (`Renderer.bindAll_eq_error_iff`).  A name
that was given is never taken back, also if the run fails later (`Renderer.keeps_bindAll`).
-/

namespace Clickstream

namespace Renderer

/-! ## Generated names -/

/-- The search ends at a free name, or when its fuel is used up. -/
theorem freeNumber_spec (r : Renderer) (fuel n : Nat) :
    n < r.freeNumber fuel n ∧
      (∀ m, n < m → m < r.freeNumber fuel n → r.generated m ∈ r.params.names) ∧
      (r.generated (r.freeNumber fuel n) ∉ r.params.names ∨
        r.freeNumber fuel n = n + fuel + 1) := by
  induction fuel generalizing n with
  | zero =>
    have hvalue : r.freeNumber 0 n = n + 1 := rfl
    rw [hvalue]
    exact ⟨Nat.lt_succ_self n, fun m hlow hhigh => by omega, .inr rfl⟩
  | succ fuel ih =>
    rw [freeNumber]
    split
    · next hused =>
      obtain ⟨hlt, hbetween, hend⟩ := ih (n + 1)
      refine ⟨by omega, fun m hlow hhigh => ?_, hend.imp_right fun h => by omega⟩
      by_cases hm : m = n + 1
      · subst hm
        exact Bindings.isSome_get?_iff.mp hused
      · exact hbetween m (by omega) hhigh
    · next hfree =>
      refine ⟨Nat.lt_succ_self n, fun m hlow hhigh => by omega, .inl ?_⟩
      rwa [← Bindings.isSome_get?_iff]

/-- The next generated name is the first one after the counter that is not in use.  Of one more
names than there are bindings, one is free. -/
theorem nextNumber_spec (r : Renderer) :
    r.counter < r.nextNumber ∧ r.generated r.nextNumber ∉ r.params.names ∧
      ∀ m, r.counter < m → m < r.nextNumber → r.generated m ∈ r.params.names := by
  obtain ⟨hlt, hbetween, hend⟩ := r.freeNumber_spec r.params.length r.counter
  refine ⟨hlt, ?_, hbetween⟩
  rcases hend with hfree | hlast
  · exact hfree
  · intro hused
    have hall : ((List.range' (r.counter + 1) (r.params.length + 1)).map r.generated) ⊆
        r.params.names := by
      intro name hname
      obtain ⟨m, hm, rfl⟩ := List.mem_map.mp hname
      rw [List.mem_range'_1] at hm
      by_cases hmax : m = r.nextNumber
      · rw [hmax]
        exact hused
      · have hnumber : r.nextNumber = r.counter + r.params.length + 1 := hlast
        exact hbetween m (by omega) (by rw [hlast]; omega)
    have hnodup : ((List.range' (r.counter + 1) (r.params.length + 1)).map r.generated).Nodup :=
      List.Nodup.map (fun m n h => generated_inj h) List.nodup_range'
    have hlength := (hnodup.subperm hall).length_le
    rw [List.length_map, List.length_range', Bindings.names, List.length_map] at hlength
    omega

/-! ## Steps -/

/-- A parameter gets a name, which holds its value from now on. -/
def enter (r : Renderer) (p : Param) (name : String) (counter : Nat) : Renderer :=
  ⟨r.stem, r.params.set name p.value, (p.id, name) :: r.bound, counter⟩

/-- The name that a parameter gets: its own one, unless it holds another value, or else the first
generated one that is free. -/
inductive Names (r : Renderer) (p : Param) : String → Nat → Prop
  | own {name : String} : p.name = some name → r.params.conflicts name p.value = false →
    Names r p name r.counter
  | generated : p.name = none → Names r p (r.generated r.nextNumber) r.nextNumber

/-- A parameter that is not bound brings along a name which holds another value. -/
def Clashes (r : Renderer) (p : Param) (name : String) : Prop :=
  r.nameOf? p.id = none ∧ p.name = some name ∧
    ∃ held, r.params.get? name = some held ∧ (held == p.value) = false

theorem conflicts_iff {bindings : Bindings Value} {name : String} {value : Value} :
    bindings.conflicts name value = true ↔
      ∃ held, bindings.get? name = some held ∧ (held == value) = false := by
  unfold Bindings.conflicts
  cases bindings.get? name with
  | none => simp
  | some held => simp

/-- What a step does. -/
theorem bind_cases (r : Renderer) (p : Param) :
    ((∃ name, r.nameOf? p.id = some name) ∧ r.bind p = .ok r) ∨
      (r.nameOf? p.id = none ∧
        ∃ name counter, r.Names p name counter ∧ r.bind p = .ok (r.enter p name counter)) ∨
      ∃ name, r.Clashes p name ∧ r.bind p = .error (.conflict name) := by
  unfold bind
  cases hp : r.nameOf? p.id with
  | some name => exact .inl ⟨⟨name, rfl⟩, rfl⟩
  | none =>
    refine .inr ?_
    cases hname : p.name with
    | none => exact .inl ⟨rfl, _, _, .generated hname, rfl⟩
    | some name =>
      dsimp only
      cases hc : r.params.conflicts name p.value with
      | true => exact .inr ⟨name, ⟨hp, hname, conflicts_iff.mp hc⟩, rfl⟩
      | false => exact .inl ⟨rfl, name, r.counter, .own hname hc, rfl⟩

theorem nameOf?_enter (r : Renderer) (p : Param) (name : String) (counter : Nat) (id : ParamId) :
    (r.enter p name counter).nameOf? id = if id = p.id then some name else r.nameOf? id :=
  nameOf?_cons r (r.params.set name p.value) p.id name counter id

namespace Names

variable {r : Renderer} {p : Param}
variable {name : String} {counter : Nat}

/-- What the name held before equals the value of the parameter. -/
theorem held (h : r.Names p name counter) {held : Value}
    (hheld : r.params.get? name = some held) : (held == p.value) = true := by
  cases h with
  | own hname hclear => exact Bindings.conflicts_eq_false_iff.mp hclear held hheld
  | generated hname =>
    have hfree := Bindings.get?_eq_none_iff.mpr r.nextNumber_spec.2.1
    rw [hfree] at hheld
    cases hheld

theorem own_eq (h : r.Names p name counter) {own : String} (hown : p.name = some own) :
    name = own := by
  cases h with
  | own hname hclear => exact Option.some.inj (hname.symm.trans hown)
  | generated hname =>
    rw [hname] at hown
    cases hown

/-- A generated name held nothing before. -/
theorem get?_ne_some (h : r.Names p name counter) (hname : p.name = none) (held : Value) :
    r.params.get? name ≠ some held := by
  cases h with
  | own hown hclear =>
    rw [hname] at hown
    cases hown
  | generated hname =>
    rw [Bindings.get?_eq_none_iff.mpr r.nextNumber_spec.2.1]
    exact nofun

end Names

/-! ## Runs over parameters -/

variable {r r' : Renderer} {p : Param} {ps : List Param}

/-- A property that every step keeps holds after a run, also after one that fails. -/
theorem bindAll_induction {P : Renderer → Prop}
    (hstep : ∀ r p r', p ∈ ps → P r → r.bind p = .ok r' → P r') (h : P r) :
    P (r.bindAll ps).2 := by
  induction ps generalizing r with
  | nil => exact h
  | cons p ps ih =>
    have hrest : ∀ r q r', q ∈ ps → P r → r.bind q = .ok r' → P r' := fun r q r' hq =>
      hstep r q r' (List.mem_cons_of_mem p hq)
    rw [bindAll]
    cases hp : r.bind p with
    | error e => exact h
    | ok r' => exact ih hrest (hstep r p r' List.mem_cons_self h hp)

/-- A parameter that is bound keeps its name. -/
theorem keeps_bind {id : ParamId} {name : String} (h : r.nameOf? id = some name)
    (hstep : r.bind p = .ok r') : r'.nameOf? id = some name := by
  rcases r.bind_cases p with ⟨-, hp⟩ | ⟨hunbound, given, counter, -, hp⟩ | ⟨given, -, hp⟩
  · rw [hp] at hstep
    cases hstep
    exact h
  · rw [hp] at hstep
    cases hstep
    rw [nameOf?_enter, if_neg]
    · exact h
    · rintro rfl
      rw [hunbound] at h
      cases h
  · rw [hp] at hstep
    cases hstep

theorem keeps_bindAll {id : ParamId} {name : String} (h : r.nameOf? id = some name)
    (ps : List Param) : (r.bindAll ps).2.nameOf? id = some name :=
  bindAll_induction (fun _ _ _ _ => keeps_bind) h

/-- A step that succeeds binds its parameter. -/
theorem exists_name_of_bind (h : r.bind p = .ok r') : ∃ name, r'.nameOf? p.id = some name := by
  rcases r.bind_cases p with ⟨hbound, hp⟩ | ⟨-, name, counter, -, hp⟩ | ⟨name, -, hp⟩
  · rw [hp] at h
    cases h
    exact hbound
  · rw [hp] at h
    cases h
    refine ⟨name, ?_⟩
    rw [nameOf?_enter, if_pos rfl]
  · rw [hp] at h
    cases h

theorem bindAll_cons_ok (h : r.bind p = .ok r') (ps : List Param) :
    r.bindAll (p :: ps) = r'.bindAll ps := by
  rw [bindAll, h]

theorem bindAll_cons_error {e : Failure} (h : r.bind p = .error e) (ps : List Param) :
    r.bindAll (p :: ps) = (some e, r) := by
  rw [bindAll, h]

/-- A run that succeeds binds all parameters. -/
theorem exists_name_of_bindAll (h : r.bindAll ps = (none, r')) :
    ∀ p ∈ ps, ∃ name, r'.nameOf? p.id = some name := by
  induction ps generalizing r with
  | nil => exact nofun
  | cons p ps ih =>
    cases hp : r.bind p with
    | error e =>
      rw [bindAll_cons_error hp] at h
      cases h
    | ok r₁ =>
      rw [bindAll_cons_ok hp] at h
      refine List.forall_mem_cons.mpr ⟨?_, ih h⟩
      obtain ⟨name, hname⟩ := exists_name_of_bind hp
      have hkept := keeps_bindAll hname ps
      rw [h] at hkept
      exact ⟨name, hkept⟩

/-- A step fails if its parameter clashes, and for no other reason. -/
theorem bind_eq_error_iff {e : Failure} :
    r.bind p = .error e ↔ ∃ name, r.Clashes p name ∧ e = .conflict name := by
  constructor
  · intro h
    rcases r.bind_cases p with ⟨-, hp⟩ | ⟨-, name, counter, -, hp⟩ | ⟨name, hclash, hp⟩
    · rw [hp] at h
      cases h
    · rw [hp] at h
      cases h
    · rw [hp] at h
      cases h
      exact ⟨name, hclash, rfl⟩
  · rintro ⟨name, ⟨hunbound, hname, hheld⟩, rfl⟩
    rw [bind, hunbound, hname]
    dsimp only
    rw [conflicts_iff.mpr hheld]
    rfl

/-- A run comes to a parameter that clashes: those before it are bound without a conflict. -/
def ComesToClash (r : Renderer) (ps : List Param) (name : String) : Prop :=
  ∃ before p later, ps = before ++ p :: later ∧ (r.bindAll before).1 = none ∧
    (r.bindAll before).2.Clashes p name

theorem comesToClash_cons_ok (h : r.bind p = .ok r') {name : String} :
    r.ComesToClash (p :: ps) name ↔ r'.ComesToClash ps name := by
  constructor
  · rintro ⟨before, q, later, heq, hrun, hq⟩
    cases before with
    | nil =>
      obtain ⟨rfl, rfl⟩ := List.cons.inj heq
      have hfail : r.bind p = .error (.conflict name) := bind_eq_error_iff.mpr ⟨name, hq, rfl⟩
      rw [h] at hfail
      cases hfail
    | cons first before =>
      obtain ⟨rfl, rfl⟩ := List.cons.inj heq
      rw [bindAll_cons_ok h] at hrun hq
      exact ⟨before, q, later, rfl, hrun, hq⟩
  · rintro ⟨before, q, later, rfl, hrun, hq⟩
    refine ⟨p :: before, q, later, rfl, ?_, ?_⟩
    · rwa [bindAll_cons_ok h]
    · rwa [bindAll_cons_ok h]

theorem comesToClash_cons_error {e : Failure} (h : r.bind p = .error e) {name : String} :
    r.ComesToClash (p :: ps) name ↔ r.Clashes p name := by
  constructor
  · rintro ⟨before, q, later, heq, hrun, hq⟩
    cases before with
    | nil =>
      obtain ⟨rfl, rfl⟩ := List.cons.inj heq
      exact hq
    | cons first before =>
      obtain ⟨rfl, rfl⟩ := List.cons.inj heq
      rw [bindAll_cons_error h] at hrun
      cases hrun
  · intro hclash
    exact ⟨[], p, ps, rfl, rfl, hclash⟩

/-- A run fails if it comes to a parameter that clashes, and for no other reason. -/
theorem bindAll_eq_error_iff {e : Failure} :
    (r.bindAll ps).1 = some e ↔ ∃ name, r.ComesToClash ps name ∧ e = .conflict name := by
  induction ps generalizing r with
  | nil =>
    refine iff_of_false nofun ?_
    rintro ⟨name, ⟨before, p, later, heq, -⟩, -⟩
    cases before <;> cases heq
  | cons p ps ih =>
    cases hp : r.bind p with
    | ok r₁ =>
      simp only [bindAll_cons_ok hp, ih, comesToClash_cons_ok hp]
    | error e' =>
      simp only [bindAll_cons_error hp, comesToClash_cons_error hp, Option.some.injEq]
      rw [← bind_eq_error_iff, hp, Except.error.injEq]

end Renderer

end Clickstream
