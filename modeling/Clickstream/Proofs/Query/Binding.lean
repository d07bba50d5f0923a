import Clickstream.Proofs.Query.Bindings
import Clickstream.Query.Renderer

/-!
# Bound parameters

What a renderer has bound after a list of parameters (`Renderer.Binds`).  The names that parameters
bring along are the reserved ones, which no generated name can be, since a generated name ends with
a digit.  So the generated names of a run are numbered without gaps, one for each parameter without
a name, and under them stand the values of these parameters in order.

A parameter that occurs again, under the same identity, is not bound a second time
(`unnamedFrom`).  Binding fails only if two parameters of one name have different values, so a list
in which they agree (`Consistent`) is bound to the end (`bindAll_ok`).

What is bound under which name depends on the identities and the names of the parameters but not on
their values: two runs over lists that differ in values only stay alike (`Alike.bindAll`).
-/

namespace Clickstream

/-! ## Names -/

/-- The names that parameters bring along. -/
def reservedNames : List String :=
  ["site_id", "time_start", "time_end"]

theorem toList_generated (stem : String) (n : Nat) :
    (stem ++ toString n).toList = stem.toList ++ Nat.toDigits 10 n := by
  rw [String.toList_append, Nat.toString_eq_ofList_toDigits, String.toList_ofList]

/-- Generated names of different numbers differ. -/
theorem generated_inj {stem : String} {m n : Nat} (h : stem ++ toString m = stem ++ toString n) :
    m = n := by
  have hlist := congrArg String.toList h
  rw [toList_generated, toList_generated, List.append_cancel_left_eq] at hlist
  rw [← @Nat.ofDigitChars_ten_toDigits m, hlist, Nat.ofDigitChars_ten_toDigits]

/-- Generated names differ if their stems begin with different characters. -/
theorem generated_ne {stem stem' : String} (h : stem.toList.head? ≠ stem'.toList.head?)
    (hne : stem.toList ≠ []) (hne' : stem'.toList ≠ []) (m n : Nat) :
    stem ++ toString m ≠ stem' ++ toString n := by
  intro heq
  have hhead := congrArg (fun s => s.toList.head?) heq
  simp only [toList_generated, List.head?_append_of_ne_nil _ hne,
    List.head?_append_of_ne_nil _ hne'] at hhead
  exact h hhead

/-- A reserved name ends with no digit. -/
theorem generated_notMem_reservedNames (stem : String) (n : Nat) :
    stem ++ toString n ∉ reservedNames := by
  intro h
  have hno : reservedNames.all (fun name => name.toList.getLast?.all (!·.isDigit)) = true := by
    decide
  have hne : Nat.toDigits 10 n ≠ [] := Nat.toDigits_ne_nil
  obtain ⟨c, hc⟩ := Option.isSome_iff_exists.mp (List.getLast?_isSome.mpr hne)
  have hlast : c ∈ (stem ++ toString n).toList.getLast? := by
    rw [toList_generated, List.getLast?_append, hc]
    rfl
  have hdigit := Nat.isDigit_of_mem_toDigits (by decide) (by decide) (List.mem_of_getLast? hc)
  have hletter := List.all_eq_true.mp hno _ h
  rw [Option.mem_def.mp hlast, Option.all_some, hdigit] at hletter
  cases hletter

theorem generated_isFree (stem : String) (n : Nat) :
    (!reservedNames.contains (stem ++ toString n)) = true := by
  rw [Bool.not_eq_true', List.contains_eq_mem, decide_eq_false_iff_not]
  exact generated_notMem_reservedNames stem n

/-- What naming a parameter depends on. -/
def Param.key (p : Param) : ParamId × Option String :=
  (p.id, p.name)

/-! ## Parameters without a name -/

/-- The parameters without a name, each at its first occurrence. -/
def unnamedFrom (seen : List ParamId) : List Param → List Param
  | [] => []
  | p :: rest =>
    if p.name.isNone ∧ p.id ∉ seen then p :: unnamedFrom (p.id :: seen) rest
    else unnamedFrom (p.id :: seen) rest

theorem unnamedFrom_congr {seen seen' : List ParamId} (h : ∀ id, id ∈ seen ↔ id ∈ seen')
    (ps : List Param) : unnamedFrom seen ps = unnamedFrom seen' ps := by
  induction ps generalizing seen seen' with
  | nil => rfl
  | cons p ps ih =>
    have hcons : ∀ id, id ∈ p.id :: seen ↔ id ∈ p.id :: seen' := by
      intro id
      rw [List.mem_cons, List.mem_cons, h]
    rw [unnamedFrom, unnamedFrom, ih hcons]
    simp only [h]

theorem unnamedFrom_append (seen : List ParamId) (ps qs : List Param) :
    unnamedFrom seen (ps ++ qs) =
      unnamedFrom seen ps ++ unnamedFrom (seen ++ ps.map (·.id)) qs := by
  induction ps generalizing seen with
  | nil => rw [List.map_nil, List.append_nil]; rfl
  | cons p ps ih =>
    have hmove : ∀ id, id ∈ p.id :: seen ++ ps.map (·.id) ↔
        id ∈ seen ++ (p :: ps).map (·.id) := by
      intro id
      simp only [List.map_cons, List.mem_append, List.mem_cons]
      rw [or_assoc, or_left_comm]
    rw [List.cons_append, unnamedFrom, unnamedFrom, ih, unnamedFrom_congr hmove]
    split
    · rfl
    · rfl

/-- A last parameter counts if it is new and has no name. -/
theorem unnamedFrom_concat (ps : List Param) (p : Param) :
    unnamedFrom [] (ps ++ [p]) = unnamedFrom [] ps ++
      if p.name.isNone ∧ p.id ∉ ps.map (·.id) then [p] else [] := by
  rw [unnamedFrom_append, List.nil_append, unnamedFrom]
  split
  · rfl
  · rfl

/-- The values of some parameters under generated names. -/
def numbered (stem : String) (ps : List Param) : Bindings Value :=
  ps.zipIdx.map fun p => (stem ++ toString (p.2 + 1), p.1.value)

theorem numbered_append_singleton (stem : String) (ps : List Param) (p : Param) :
    numbered stem (ps ++ [p]) =
      numbered stem ps ++ [(stem ++ toString (ps.length + 1), p.value)] := by
  simp [numbered, List.zipIdx_append]

theorem mem_names_numbered {stem name : String} {ps : List Param} :
    name ∈ (numbered stem ps).names ↔ ∃ n < ps.length, name = stem ++ toString (n + 1) := by
  constructor
  · intro h
    obtain ⟨binding, hb, rfl⟩ := List.mem_map.mp h
    obtain ⟨⟨p, n⟩, hp, rfl⟩ := List.mem_map.mp hb
    exact ⟨n, (List.mem_zipIdx' hp).1, rfl⟩
  · rintro ⟨n, hn, rfl⟩
    refine List.mem_map.mpr ⟨_, List.mem_map.mpr ⟨(ps[n], n), ?_, rfl⟩, rfl⟩
    exact List.mem_zipIdx_iff_getElem?.mpr (List.getElem?_eq_getElem hn)

/-! ## Runs -/

/-- Parameters that bring along reserved names only, and agree where they share one. -/
structure Consistent (ps : List Param) : Prop where
  reserved : ∀ p ∈ ps, ∀ name, p.name = some name → name ∈ reservedNames
  same : ∀ p ∈ ps, ∀ q ∈ ps, ∀ name, p.name = some name → q.name = some name →
    (p.value == q.value) = true

theorem Consistent.mono {ps qs : List Param} (h : Consistent qs) (hsub : ∀ p ∈ ps, p ∈ qs) :
    Consistent ps :=
  ⟨fun p hp => h.reserved p (hsub p hp),
   fun p hp q hq => h.same p (hsub p hp) q (hsub q hq)⟩

namespace Renderer

/-- A renderer that has bound some parameters. -/
structure Binds (ps : List Param) (r : Renderer) : Prop where
  nodup : r.params.names.Nodup
  /-- The parameters that have a name. -/
  bound : ∀ id, (∃ name, r.nameOf? id = some name) ↔ ∃ p ∈ ps, p.id = id
  /-- A name of a parameter has a value. -/
  known : ∀ id name, r.nameOf? id = some name → name ∈ r.params.names
  /-- A value comes from a parameter of that name. -/
  origin : ∀ name value, r.params.get? name = some value →
    ∃ p ∈ ps, r.nameOf? p.id = some name ∧ p.value = value ∧
      (p.name = some name ∨ ∃ n, name = r.generated n)
  counter : r.counter = (unnamedFrom [] ps).length
  /-- The bindings under generated names. -/
  generated : r.params.filter (fun binding => !reservedNames.contains binding.1) =
    numbered r.stem (unnamedFrom [] ps)

theorem start_binds (stem : String) : Binds [] (start stem) where
  nodup := List.nodup_nil
  bound := fun _ => iff_of_false nofun nofun
  known := nofun
  origin := nofun
  counter := rfl
  generated := rfl

theorem nameOf?_cons (r : Renderer) (params : Bindings Value) (bound : ParamId) (name : String)
    (counter : Nat) (id : ParamId) :
    nameOf? ⟨r.stem, params, (bound, name) :: r.bound, counter⟩ id =
      if id = bound then some name else r.nameOf? id := by
  unfold nameOf?
  rw [List.lookup_cons]
  by_cases h : id = bound
  · subst h
    rw [if_pos rfl, beq_self_eq_true]
  · rw [if_neg h, beq_false_of_ne h]

namespace Binds

variable {ps : List Param} {r : Renderer}

theorem notMem_of_unbound (h : Binds ps r) {p : Param} (hp : r.nameOf? p.id = none) :
    p.id ∉ ps.map (·.id) := by
  intro hm
  obtain ⟨q, hq, hid⟩ := List.mem_map.mp hm
  obtain ⟨name, hname⟩ := (h.bound p.id).mpr ⟨q, hq, hid⟩
  rw [hp] at hname
  cases hname

/-- Generated names are in use up to the counter. -/
theorem generated_notMem (h : Binds ps r) {n : Nat} (hn : r.counter < n) :
    r.generated n ∉ r.params.names := by
  intro hm
  obtain ⟨binding, hb, hname⟩ := List.mem_map.mp hm
  have hkeep : binding ∈ r.params.filter fun binding => !reservedNames.contains binding.1 := by
    refine List.mem_filter.mpr ⟨hb, ?_⟩
    rw [hname]
    exact generated_isFree r.stem n
  rw [h.generated] at hkeep
  obtain ⟨k, hk, heq⟩ := mem_names_numbered.mp (List.mem_map.mpr ⟨binding, hkeep, rfl⟩)
  rw [hname] at heq
  have := generated_inj heq
  have := h.counter
  omega

/-- Generated names are numbered without gaps. -/
theorem nextNumber_eq (h : Binds ps r) : r.nextNumber = r.counter + 1 := by
  have hfree : r.params.get? (r.generated (r.counter + 1)) = none :=
    Bindings.get?_eq_none_iff.mpr (h.generated_notMem (Nat.lt_succ_self _))
  unfold nextNumber
  cases r.params.length with
  | zero => rfl
  | succ fuel => rw [freeNumber, hfree]; rfl

/-- A parameter that occurs again changes nothing. -/
theorem again (h : Binds ps r) {p : Param} {name : String} (hp : r.nameOf? p.id = some name) :
    Binds (ps ++ [p]) r := by
  obtain ⟨q, hq, hid⟩ := (h.bound p.id).mp ⟨name, hp⟩
  have hseen : p.id ∈ ps.map (·.id) := List.mem_map.mpr ⟨q, hq, hid⟩
  have hunnamed : unnamedFrom [] (ps ++ [p]) = unnamedFrom [] ps := by
    rw [unnamedFrom_concat, if_neg (fun hc => hc.2 hseen), List.append_nil]
  refine ⟨h.nodup, ?_, h.known, ?_, ?_, ?_⟩
  · intro id
    rw [h.bound id]
    constructor
    · rintro ⟨q, hq, rfl⟩
      exact ⟨q, List.mem_append_left _ hq, rfl⟩
    · rintro ⟨t, ht, rfl⟩
      rcases List.mem_append.mp ht with ht | ht
      · exact ⟨t, ht, rfl⟩
      · rw [List.mem_singleton.mp ht]
        exact ⟨q, hq, hid⟩
  · intro name value hvalue
    obtain ⟨t, ht, hrest⟩ := h.origin name value hvalue
    exact ⟨t, List.mem_append_left _ ht, hrest⟩
  · rw [hunnamed]
    exact h.counter
  · rw [hunnamed]
    exact h.generated

/-- A new parameter gets a name and gives its value to it. -/
theorem add (h : Binds ps r) {p : Param} (hp : r.nameOf? p.id = none) {name : String}
    {counter : Nat} (horigin : p.name = some name ∨ ∃ n, name = r.generated n)
    (hcounter : counter = (unnamedFrom [] (ps ++ [p])).length)
    (hgenerated : (r.params.set name p.value).filter
        (fun binding => !reservedNames.contains binding.1) =
      numbered r.stem (unnamedFrom [] (ps ++ [p]))) :
    Binds (ps ++ [p])
      ⟨r.stem, r.params.set name p.value, (p.id, name) :: r.bound, counter⟩ := by
  refine ⟨?_, ?_, ?_, ?_, hcounter, hgenerated⟩
  · show (r.params.set name p.value).names.Nodup
    rw [Bindings.names_set]
    split
    · exact h.nodup
    · next hname =>
      refine List.nodup_append.mpr ⟨h.nodup, List.pairwise_singleton _ name, ?_⟩
      intro other hother same hsame heq
      rw [heq, List.mem_singleton.mp hsame] at hother
      exact hname hother
  · intro id
    rw [nameOf?_cons]
    split
    · next hid =>
      exact iff_of_true ⟨name, rfl⟩
        ⟨p, List.mem_append_right _ (List.mem_singleton.mpr rfl), hid.symm⟩
    · next hid =>
      rw [h.bound id]
      constructor
      · rintro ⟨q, hq, rfl⟩
        exact ⟨q, List.mem_append_left _ hq, rfl⟩
      · rintro ⟨q, hq, rfl⟩
        rcases List.mem_append.mp hq with hq | hq
        · exact ⟨q, hq, rfl⟩
        · rw [List.mem_singleton.mp hq] at hid
          exact absurd rfl hid
  · intro id other hother
    rw [nameOf?_cons] at hother
    rw [Bindings.mem_names_set]
    split at hother
    · cases hother
      exact .inr rfl
    · exact .inl (h.known id other hother)
  · intro other value hvalue
    simp only [nameOf?_cons]
    rw [Bindings.get?_set] at hvalue
    split at hvalue
    · next hname =>
      cases hvalue
      subst hname
      exact ⟨p, List.mem_append_right _ (List.mem_singleton.mpr rfl), if_pos rfl, rfl, horigin⟩
    · obtain ⟨q, hq, hbound, hrest⟩ := h.origin other value hvalue
      refine ⟨q, List.mem_append_left _ hq, ?_, hrest⟩
      rw [if_neg ?_]
      · exact hbound
      · intro hid
        rw [hid, hp] at hbound
        cases hbound

/-- One step of a run. -/
theorem bind_ok (h : Binds ps r) {p : Param} (hc : Consistent (ps ++ [p])) :
    ∃ r', r.bind p = .ok r' ∧ r'.stem = r.stem ∧ Binds (ps ++ [p]) r' := by
  have hlast : p ∈ ps ++ [p] := List.mem_append_right _ (List.mem_singleton.mpr rfl)
  unfold bind
  cases hp : r.nameOf? p.id with
  | some name => exact ⟨r, rfl, rfl, h.again hp⟩
  | none =>
    have hnew := h.notMem_of_unbound hp
    cases hname : p.name with
    | some name =>
      have hreserved := hc.reserved p hlast name hname
      -- A value that is there already came from a parameter with this name, so it is the same.
      have hclear : r.params.conflicts name p.value = false := by
        refine Bindings.conflicts_eq_false_iff.mpr fun old hold => ?_
        obtain ⟨q, hq, -, rfl, hq' | ⟨n, rfl⟩⟩ := h.origin name old hold
        · exact hc.same q (List.mem_append_left _ hq) p hlast name hq' hname
        · exact absurd hreserved (generated_notMem_reservedNames r.stem n)
      have hunnamed : unnamedFrom [] (ps ++ [p]) = unnamedFrom [] ps := by
        have hnamed : ¬ (p.name.isNone ∧ p.id ∉ ps.map (·.id)) := by
          rw [hname]
          exact fun hx => Bool.false_ne_true hx.1
        rw [unnamedFrom_concat, if_neg hnamed, List.append_nil]
      simp only [hclear]
      refine ⟨_, rfl, rfl, h.add hp (.inl hname) ?_ ?_⟩
      · rw [hunnamed]
        exact h.counter
      · rw [hunnamed, ← h.generated]
        have hkeep : (!reservedNames.contains name) = false := by
          rw [Bool.not_eq_false', List.contains_iff_mem]
          exact hreserved
        exact @Bindings.filter_set_of_false _ r.params (!reservedNames.contains ·) name hkeep _
    | none =>
      have hunnamed : unnamedFrom [] (ps ++ [p]) = unnamedFrom [] ps ++ [p] := by
        rw [unnamedFrom_concat, if_pos ⟨by rw [hname]; rfl, hnew⟩]
      refine ⟨_, rfl, rfl, h.add hp (.inr ⟨_, rfl⟩) ?_ ?_⟩
      · rw [h.nextNumber_eq, hunnamed, List.length_append, h.counter]
        rfl
      · have hfresh := h.generated_notMem (Nat.lt_succ_self r.counter)
        rw [h.nextNumber_eq, Bindings.set_of_notMem hfresh, List.filter_append, h.generated,
          hunnamed, numbered_append_singleton, ← h.counter]
        congr 1
        refine List.filter_eq_self.mpr ?_
        intro binding hb
        rw [List.mem_singleton.mp hb]
        exact generated_isFree r.stem _

/-- A run binds all parameters. -/
theorem bindAll_ok (h : Binds ps r) {qs : List Param} (hc : Consistent (ps ++ qs)) :
    ∃ r', r.bindAll qs = (none, r') ∧ r'.stem = r.stem ∧ Binds (ps ++ qs) r' := by
  induction qs generalizing ps r with
  | nil =>
    rw [List.append_nil]
    exact ⟨r, rfl, rfl, h⟩
  | cons q qs ih =>
    have hstep : Consistent (ps ++ [q]) := hc.mono (by
      intro p hp
      rcases List.mem_append.mp hp with hp | hp
      · exact List.mem_append_left _ hp
      · rw [List.mem_singleton.mp hp]
        exact List.mem_append_right _ List.mem_cons_self)
    obtain ⟨middle, hmiddle, hstem, hbinds⟩ := h.bind_ok hstep
    rw [show ps ++ q :: qs = (ps ++ [q]) ++ qs by simp] at hc ⊢
    obtain ⟨r', hrun, hstem', hbinds'⟩ := ih hbinds hc
    refine ⟨r', ?_, hstem'.trans hstem, hbinds'⟩
    rw [bindAll, hmiddle]
    exact hrun

/-! ### What is bound after a run -/

theorem nameOf?_eq (h : Binds ps r) {p : Param} (hp : p ∈ ps) :
    r.nameOf? p.id = some (r.name p) := by
  obtain ⟨name, hname⟩ := (h.bound p.id).mpr ⟨p, hp, rfl⟩
  rw [Renderer.name, hname]
  rfl

/-- The bound names are those of the parameters. -/
theorem mem_names_iff (h : Binds ps r) {name : String} :
    name ∈ r.params.names ↔ name ∈ ps.map r.name := by
  constructor
  · intro hn
    obtain ⟨value, hvalue⟩ := Bindings.exists_get? hn
    obtain ⟨p, hp, hname, -⟩ := h.origin name value hvalue
    rw [h.nameOf?_eq hp] at hname
    exact List.mem_map.mpr ⟨p, hp, Option.some.inj hname⟩
  · intro hn
    obtain ⟨p, hp, rfl⟩ := List.mem_map.mp hn
    exact h.known p.id _ (h.nameOf?_eq hp)

/-- A name is reserved or generated; a parameter that is not bound has the empty name. -/
theorem name_cases (h : Binds ps r) (hc : Consistent ps) (p : Param) :
    r.name p = "" ∨ r.name p ∈ reservedNames ∨ ∃ n, r.name p = r.generated n := by
  cases hp : r.nameOf? p.id with
  | none =>
    refine .inl ?_
    rw [Renderer.name, hp]
    rfl
  | some name =>
    refine .inr ?_
    obtain ⟨value, hvalue⟩ := Bindings.exists_get? (h.known p.id name hp)
    obtain ⟨q, hq, -, -, hn | hn⟩ := h.origin name value hvalue
    · rw [Renderer.name, hp]
      exact .inl (hc.reserved q hq name hn)
    · rw [Renderer.name, hp]
      exact .inr hn

/-- The value under a reserved name comes from a parameter that brings the name along. -/
theorem exists_of_get? (h : Binds ps r) {name : String} (hname : name ∈ reservedNames)
    {value : Value} (hvalue : r.params.get? name = some value) :
    ∃ p ∈ ps, p.name = some name ∧ p.value = value := by
  obtain ⟨p, hp, -, hv, hn | ⟨n, rfl⟩⟩ := h.origin name value hvalue
  · exact ⟨p, hp, hn, hv⟩
  · exact absurd hname (generated_notMem_reservedNames r.stem n)

end Binds

/-- Parameters that agree are all bound. -/
theorem bindAll_start {ps : List Param} (stem : String) (hc : Consistent ps) :
    ∃ r, (start stem).bindAll ps = (none, r) ∧ r.stem = stem ∧ Binds ps r := by
  rw [← List.nil_append ps] at hc
  exact (start_binds stem).bindAll_ok hc

/-! ## Two runs -/

theorem name_of_key (r : Renderer) {p q : Param} (h : p.key = q.key) : r.name p = r.name q := by
  rw [name, name, (Prod.mk.inj h).1]

/-- Two renderers that have bound the same parameters to the same names. -/
structure Alike (r s : Renderer) : Prop where
  stem : r.stem = s.stem
  bound : r.bound = s.bound
  counter : r.counter = s.counter
  names : r.params.names = s.params.names

namespace Alike

variable {r s : Renderer}

theorem nameOf? (h : Alike r s) (id : ParamId) : r.nameOf? id = s.nameOf? id := by
  rw [Renderer.nameOf?, Renderer.nameOf?, h.bound]

theorem name (h : Alike r s) : r.name = s.name := by
  funext p
  rw [Renderer.name, Renderer.name, h.nameOf?]

theorem generated (h : Alike r s) (n : Nat) : r.generated n = s.generated n := by
  rw [Renderer.generated, Renderer.generated, h.stem]

theorem freeNumber (h : Alike r s) (fuel n : Nat) : r.freeNumber fuel n = s.freeNumber fuel n := by
  induction fuel generalizing n with
  | zero => rfl
  | succ fuel ih =>
    have hsame : (r.params.get? (r.generated (n + 1))).isSome =
        (s.params.get? (s.generated (n + 1))).isSome := by
      rw [Bool.eq_iff_iff, Bindings.isSome_get?_iff, Bindings.isSome_get?_iff, h.names,
        h.generated]
    rw [Renderer.freeNumber, Renderer.freeNumber, hsame, ih]

theorem nextNumber (h : Alike r s) : r.nextNumber = s.nextNumber := by
  have hlength : r.params.length = s.params.length := by
    have := congrArg List.length h.names
    rwa [Bindings.names, Bindings.names, List.length_map, List.length_map] at this
  rw [Renderer.nextNumber, Renderer.nextNumber, hlength, h.counter, h.freeNumber]

theorem names_set (h : Alike r s) (name : String) (v w : Value) :
    (r.params.set name v).names = (s.params.set name w).names := by
  rw [Bindings.names_set, Bindings.names_set, h.names]

/-- Runs stay alike if a step binds parameters of one key. -/
theorem bind (h : Alike r s) {p q : Param} (hkey : p.key = q.key)
    {r' s' : Renderer} (hr : r.bind p = .ok r') (hs : s.bind q = .ok s') : Alike r' s' := by
  obtain ⟨hid, hname⟩ := Prod.mk.inj hkey
  unfold Renderer.bind at hr hs
  rw [h.nameOf? p.id, hid] at hr
  rw [← hname] at hs
  cases hbound : s.nameOf? q.id with
  | some name =>
    rw [hbound] at hr hs
    cases hr
    cases hs
    exact h
  | none =>
    rw [hbound] at hr hs
    cases hp : p.name with
    | some name =>
      rw [hp] at hr hs
      simp only at hr hs
      split at hr
      · cases hr
      · split at hs
        · cases hs
        · cases hr
          cases hs
          exact ⟨h.stem, congrArg ((_, name) :: ·) h.bound, h.counter, h.names_set ..⟩
    | none =>
      rw [hp] at hr hs
      cases hr
      cases hs
      refine ⟨h.stem, ?_, h.nextNumber, ?_⟩
      · rw [h.generated, h.nextNumber, h.bound]
      · rw [h.generated, h.nextNumber]
        exact h.names_set ..

/-- Runs over lists that differ in values only stay alike. -/
theorem bindAll (h : Alike r s) {ps qs : List Param}
    (hkeys : ps.map Param.key = qs.map Param.key) {r' s' : Renderer}
    (hr : r.bindAll ps = (none, r')) (hs : s.bindAll qs = (none, s')) : Alike r' s' := by
  induction ps generalizing qs r s with
  | nil =>
    rw [List.map_nil, eq_comm, List.map_eq_nil_iff] at hkeys
    subst hkeys
    cases hr
    cases hs
    exact h
  | cons p ps ih =>
    rw [List.map_cons, eq_comm, List.map_eq_cons_iff] at hkeys
    obtain ⟨q, qs, rfl, hkey, hkeys⟩ := hkeys
    rw [Renderer.bindAll] at hr hs
    cases hp : r.bind p with
    | error e =>
      rw [hp] at hr
      cases hr
    | ok r₁ =>
      cases hq : s.bind q with
      | error e =>
        rw [hq] at hs
        cases hs
      | ok s₁ =>
        rw [hp] at hr
        rw [hq] at hs
        exact ih (h.bind hkey.symm hp hq) hkeys.symm hr hs

end Alike

end Renderer

end Clickstream
