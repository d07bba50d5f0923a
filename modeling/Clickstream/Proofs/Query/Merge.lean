import Clickstream.Proofs.Outcome
import Clickstream.Proofs.Query.Union
import Clickstream.Proofs.Value.Equality
import Clickstream.Query.Fragment

/-!
# Merged parameters

Merging adds the lists of bindings to one another, from the left (`extend_eq_ok_iff`).  Each list is
compared only with what has been merged before it, and this is the value of the last list that has
the name; by transitivity it stands for the values of all of them, so that merging succeeds if and
only if the lists agree pairwise (`merge_eq_ok_iff`).  Then neither their order nor their grouping
matters.
-/

namespace Clickstream

namespace Bindings

variable {α : Type} [BEq α] {b s t : Bindings α} {sources : List (Bindings α)}

/-! ## Agreement -/

/-- On the values of a kind, equality is symmetric and transitive.  A value may differ from
itself. -/
structure ComparesOn (P : α → Prop) : Prop where
  symm : ∀ v w, P v → P w → (v == w) = true → (w == v) = true
  trans : ∀ v w u, P v → P w → P u → (v == w) = true → (w == u) = true → (v == u) = true

/-- Two lists that both have a name give equal values to it. -/
def AgreesAt (name : String) (s t : Bindings α) : Prop :=
  ∀ old new, s.get? name = some old → t.get? name = some new → (old == new) = true

namespace AgreesAt

variable {P : α → Prop} {name : String}

theorem nil_left (t : Bindings α) : AgreesAt name [] t := by
  rintro old new ⟨⟩

theorem nil_right (s : Bindings α) : AgreesAt name s [] := by
  rintro old new - ⟨⟩

theorem symm (hP : ComparesOn P) (hs : Over P s) (ht : Over P t) (h : AgreesAt name s t) :
    AgreesAt name t s :=
  fun old new hold hnew =>
    hP.symm new old (hs.value name new hnew) (ht.value name old hold) (h new old hnew hold)

theorem update (hs : s.names.Nodup) (hbt : AgreesAt name b t) (hst : AgreesAt name s t) :
    AgreesAt name (b.update s) t := by
  intro old new hold hnew
  rw [get?_update hs] at hold
  rcases Option.or_eq_some_iff.mp hold with hold | ⟨-, hold⟩
  · exact hst old new hold hnew
  · exact hbt old new hold hnew

/-- Lists that agree pairwise still do when the second has been put over the first. -/
theorem pairwise_update (hs : s.names.Nodup) (h : (b :: s :: sources).Pairwise (AgreesAt name)) :
    AgreesAt name b s ∧ (b.update s :: sources).Pairwise (AgreesAt name) := by
  rw [List.pairwise_cons, List.pairwise_cons, List.forall_mem_cons] at h
  obtain ⟨⟨hbs, hb⟩, hs', hrest⟩ := h
  exact ⟨hbs, List.pairwise_cons.mpr ⟨fun t ht => (hb t ht).update hs (hs' t ht), hrest⟩⟩

/-- What has been overwritten by an equal value is compared through that value. -/
theorem update_iff (hP : ComparesOn P) (hb : Over P b) (hs : Over P s) (ht : Over P t)
    (h : AgreesAt name b s) :
    AgreesAt name (b.update s) t ↔ AgreesAt name b t ∧ AgreesAt name s t := by
  refine ⟨fun hu => ⟨fun old new hold hnew => ?_, fun old new hold hnew => ?_⟩,
    fun hu => hu.1.update hs.nodup hu.2⟩
  · cases hmiddle : s.get? name with
    | none =>
      refine hu old new ?_ hnew
      rw [get?_update hs.nodup, hmiddle]
      exact hold
    | some middle =>
      have hfirst := h old middle hold hmiddle
      have hsecond : (middle == new) = true := by
        refine hu middle new ?_ hnew
        rw [get?_update hs.nodup, hmiddle]
        rfl
      exact hP.trans old middle new (hb.value name old hold) (hs.value name middle hmiddle)
        (ht.value name new hnew) hfirst hsecond
  · refine hu old new ?_ hnew
    rw [get?_update hs.nodup, hold]
    rfl

/-- A union is compared through each of its lists. -/
theorem updateAll_iff (hP : ComparesOn P) (hb : Over P b) (hsources : ∀ s ∈ sources, Over P s)
    (ht : Over P t) (h : (b :: sources).Pairwise (AgreesAt name)) :
    AgreesAt name (b.updateAll sources) t ↔ ∀ s ∈ b :: sources, AgreesAt name s t := by
  induction sources generalizing b with
  | nil => rw [List.forall_mem_singleton]; rfl
  | cons s sources ih =>
    rw [List.forall_mem_cons] at hsources
    obtain ⟨hbs, hrest⟩ := pairwise_update hsources.1.nodup h
    have hunion := ih (hb.update hsources.1) hsources.2 hrest
    rw [List.forall_mem_cons, update_iff hP hb hsources.1 ht hbs, and_assoc] at hunion
    rwa [List.forall_mem_cons, List.forall_mem_cons]

theorem union_iff (hP : ComparesOn P) (hsources : ∀ s ∈ sources, Over P s) (ht : Over P t)
    (h : sources.Pairwise (AgreesAt name)) :
    AgreesAt name (updateAll [] sources) t ↔ ∀ s ∈ sources, AgreesAt name s t := by
  rw [updateAll_iff hP .nil hsources ht (List.pairwise_cons.mpr ⟨fun s _ => nil_left s, h⟩),
    List.forall_mem_cons]
  exact and_iff_right (nil_left t)

/-- Two unions agree if and only if each list of the one agrees with each list of the other. -/
theorem unions_iff (hP : ComparesOn P) {others : List (Bindings α)}
    (hsources : ∀ s ∈ sources, Over P s) (hothers : ∀ t ∈ others, Over P t)
    (h : sources.Pairwise (AgreesAt name)) (h' : others.Pairwise (AgreesAt name)) :
    AgreesAt name (updateAll [] sources) (updateAll [] others) ↔
      ∀ s ∈ sources, ∀ t ∈ others, AgreesAt name s t := by
  have hunion := Over.nil.updateAll hothers
  rw [union_iff hP hsources hunion h]
  refine forall₂_congr fun s hs => ?_
  have hsym : ∀ {u v : Bindings α}, Over P u → Over P v → (AgreesAt name u v ↔ AgreesAt name v u) :=
    fun hu hv => ⟨symm hP hu hv, symm hP hv hu⟩
  rw [hsym (hsources s hs) hunion, union_iff hP hothers (hsources s hs) h']
  exact forall₂_congr fun t ht => hsym (hothers t ht) (hsources s hs)

end AgreesAt

/-- Lists agree pairwise if and only if the first two agree, and their union with the others. -/
theorem pairwise_update_iff {P : α → Prop} (hP : ComparesOn P) {name : String} (hb : Over P b)
    (hs : Over P s) (hsources : ∀ t ∈ sources, Over P t) :
    (b :: s :: sources).Pairwise (AgreesAt name) ↔
      AgreesAt name b s ∧ (b.update s :: sources).Pairwise (AgreesAt name) := by
  refine ⟨AgreesAt.pairwise_update hs.nodup, ?_⟩
  rw [List.pairwise_cons, List.pairwise_cons, List.pairwise_cons, List.forall_mem_cons]
  rintro ⟨hbs, hu, hrest⟩
  have hboth := fun t ht => (AgreesAt.update_iff hP hb hs (hsources t ht) hbs).mp (hu t ht)
  exact ⟨⟨hbs, fun t ht => (hboth t ht).1⟩, fun t ht => (hboth t ht).2, hrest⟩

/-! ## Merging -/

/-- The first binding of a list is compared with the value before it, the others with the result. -/
theorem agreesAt_cons_iff {first : String} {value : α} (hfirst : first ∉ s.names) {name : String} :
    AgreesAt name b ((first, value) :: s) ↔
      (first = name → b.conflicts first value = false) ∧ AgreesAt name (b.set first value) s := by
  by_cases h : first = name
  · subst h
    have hnone := get?_eq_none_iff.mpr hfirst
    rw [conflicts_eq_false_iff]
    constructor
    · intro hagree
      refine ⟨fun _ old hold => hagree old value hold (get?_cons_self ..), fun old new _ hnew => ?_⟩
      rw [hnone] at hnew
      cases hnew
    · rintro ⟨hagree, -⟩ old new hold hnew
      rw [get?_cons_self] at hnew
      cases hnew
      exact hagree rfl old hold
  · unfold AgreesAt
    rw [get?_cons_of_ne h, get?_set, if_neg h]
    exact ⟨fun hagree => ⟨fun he => absurd he h, hagree⟩, fun hagree => hagree.2⟩

theorem extend_eq_ok_iff {r : Bindings α} (hs : s.names.Nodup) :
    b.extend s = .ok r ↔ (∀ name, AgreesAt name b s) ∧ r = b.update s := by
  induction s generalizing b with
  | nil =>
    constructor
    · rintro ⟨⟩
      exact ⟨fun name => AgreesAt.nil_right _, rfl⟩
    · rintro ⟨-, rfl⟩
      rfl
  | cons binding s ih =>
    obtain ⟨first, value⟩ := binding
    rw [names_cons, List.nodup_cons] at hs
    simp only [agreesAt_cons_iff hs.1, forall_and, forall_eq', update_cons]
    rw [extend]
    cases hconflict : b.conflicts first value with
    | true => simp
    | false =>
      rw [if_neg Bool.false_ne_true, ih hs.2]
      exact ⟨fun h => ⟨⟨rfl, h.1⟩, h.2⟩, fun h => ⟨h.1.2, h.2⟩⟩

theorem not_agreesAt_of_extend {name : String} (hs : s.names.Nodup)
    (h : b.extend s = .error name) : ¬AgreesAt name b s := by
  induction s generalizing b with
  | nil => cases h
  | cons binding s ih =>
    obtain ⟨first, value⟩ := binding
    rw [names_cons, List.nodup_cons] at hs
    rw [agreesAt_cons_iff hs.1]
    rw [extend] at h
    split at h
    · next hconflict =>
      cases h
      exact fun hagree => absurd (hagree.1 rfl) (by simp [hconflict])
    · exact fun hagree => ih hs.2 h hagree.2

/-- Lists that agree pairwise are added, whatever equality is. -/
theorem extendAll_eq_ok (hsources : ∀ s ∈ sources, s.names.Nodup)
    (h : ∀ name, (b :: sources).Pairwise (AgreesAt name)) :
    b.extendAll sources = .ok (b.updateAll sources) := by
  induction sources generalizing b with
  | nil => rfl
  | cons s sources ih =>
    rw [List.forall_mem_cons] at hsources
    have hstep := fun name => AgreesAt.pairwise_update hsources.1 (h name)
    have hmiddle := (extend_eq_ok_iff hsources.1).mpr ⟨fun name => (hstep name).1, rfl⟩
    rw [extendAll, hmiddle]
    exact ih hsources.2 fun name => (hstep name).2

theorem extendAll_eq_ok_iff {P : α → Prop} (hP : ComparesOn P) {r : Bindings α} (hb : Over P b)
    (hsources : ∀ s ∈ sources, Over P s) :
    b.extendAll sources = .ok r ↔
      (∀ name, (b :: sources).Pairwise (AgreesAt name)) ∧ r = b.updateAll sources := by
  constructor
  · intro h
    induction sources generalizing b with
    | nil =>
      cases h
      exact ⟨fun name => List.pairwise_singleton .., rfl⟩
    | cons s sources ih =>
      rw [List.forall_mem_cons] at hsources
      rw [extendAll] at h
      cases hmiddle : b.extend s with
      | error name =>
        rw [hmiddle] at h
        cases h
      | ok middle =>
        rw [hmiddle] at h
        obtain ⟨hagree, rfl⟩ := (extend_eq_ok_iff hsources.1.nodup).mp hmiddle
        obtain ⟨hrest, hr⟩ := ih (hb.update hsources.1) hsources.2 h
        refine ⟨fun name => ?_, hr⟩
        exact (pairwise_update_iff hP hb hsources.1 hsources.2).mpr ⟨hagree name, hrest name⟩
  · rintro ⟨h, rfl⟩
    exact extendAll_eq_ok (fun s hs => (hsources s hs).nodup) h

theorem not_pairwise_of_extendAll {name : String} (hsources : ∀ s ∈ sources, s.names.Nodup)
    (h : b.extendAll sources = .error name) : ¬(b :: sources).Pairwise (AgreesAt name) := by
  induction sources generalizing b with
  | nil => cases h
  | cons s sources ih =>
    rw [List.forall_mem_cons] at hsources
    intro hpairwise
    obtain ⟨hbs, hrest⟩ := AgreesAt.pairwise_update hsources.1 hpairwise
    rw [extendAll] at h
    cases hmiddle : b.extend s with
    | error first =>
      rw [hmiddle] at h
      cases h
      exact not_agreesAt_of_extend hsources.1 hmiddle hbs
    | ok middle =>
      rw [hmiddle] at h
      obtain ⟨-, rfl⟩ := (extend_eq_ok_iff hsources.1).mp hmiddle
      exact ih hsources.2 h hrest

theorem merge_eq_ok_iff {P : α → Prop} (hP : ComparesOn P) {r : Bindings α}
    (hsources : ∀ s ∈ sources, Over P s) :
    merge sources = .ok r ↔
      (∀ name, sources.Pairwise (AgreesAt name)) ∧ r = updateAll [] sources := by
  rw [merge, extendAll_eq_ok_iff hP .nil hsources]
  simp only [List.pairwise_cons, AgreesAt.nil_left, implies_true, true_and]

theorem not_pairwise_of_merge {name : String} (hsources : ∀ s ∈ sources, s.names.Nodup)
    (h : merge sources = .error name) : ¬sources.Pairwise (AgreesAt name) :=
  fun hpairwise => not_pairwise_of_extendAll hsources h
    (List.pairwise_cons.mpr ⟨fun t _ => AgreesAt.nil_left t, hpairwise⟩)

/-- Groups of lists agree if and only if each of them does, and their unions do. -/
theorem pairwise_flatten_iff {P : α → Prop} (hP : ComparesOn P) {name : String}
    {groups : List (List (Bindings α))} (hgroups : ∀ group ∈ groups, ∀ s ∈ group, Over P s) :
    groups.flatten.Pairwise (AgreesAt name) ↔
      (∀ group ∈ groups, group.Pairwise (AgreesAt name)) ∧
        (groups.map (updateAll [])).Pairwise (AgreesAt name) := by
  rw [List.pairwise_flatten, List.pairwise_map]
  refine and_congr_right fun hwithin => List.Pairwise.iff_of_mem fun hg hh => ?_
  exact (AgreesAt.unions_iff hP (hgroups _ hg) (hgroups _ hh) (hwithin _ hg) (hwithin _ hh)).symm

end Bindings

/-! ## Parameters -/

open Bindings

variable {α : Type} [BEq α] {P : α → Prop} {sources : List (Bindings α)}

theorem mergeParams_eq_ok (hsources : ∀ s ∈ sources, s.names.Nodup)
    (h : ∀ name, sources.Pairwise (AgreesAt name)) :
    mergeParams sources = .ok (updateAll [] sources) := by
  have hall : ∀ name, ([] :: sources).Pairwise (AgreesAt name) :=
    fun name => List.pairwise_cons.mpr ⟨fun t _ => AgreesAt.nil_left t, h name⟩
  rw [mergeParams, Bindings.merge, extendAll_eq_ok hsources hall]

theorem mergeParams_eq_ok_iff (hP : ComparesOn P) (hsources : ∀ s ∈ sources, Over P s)
    {merged : Bindings α} : mergeParams sources = .ok merged ↔
      (∀ name, sources.Pairwise (AgreesAt name)) ∧ merged = updateAll [] sources := by
  rw [← merge_eq_ok_iff hP hsources, mergeParams]
  cases Bindings.merge sources with
  | error name => exact iff_of_false nofun nofun
  | ok r => exact ⟨fun h => congrArg Except.ok (Except.ok.inj h),
      fun h => congrArg Except.ok (Except.ok.inj h)⟩

theorem exists_of_mergeParams_eq_error (hsources : ∀ s ∈ sources, s.names.Nodup) {e : Failure}
    (h : mergeParams sources = .error e) :
    ∃ name, e = .conflict name ∧ ¬sources.Pairwise (AgreesAt name) := by
  unfold mergeParams at h
  split at h
  · cases h
  · next name hmerge =>
    cases h
    exact ⟨name, rfl, not_pairwise_of_merge hsources hmerge⟩

/-- Two of the lists give values to a name that are not equal. -/
def Conflict (sources : List (Bindings α)) (name : String) : Prop :=
  ∃ (i j : Nat) (s t : Bindings α) (v w : α), i ≠ j ∧ sources[i]? = some s ∧ sources[j]? = some t ∧
    s.get? name = some v ∧ t.get? name = some w ∧ (v == w) = false

theorem conflict_iff (hP : ComparesOn P) (hsources : ∀ s ∈ sources, Over P s) {name : String} :
    Conflict sources name ↔ ¬sources.Pairwise (AgreesAt name) := by
  rw [List.pairwise_iff_getElem]
  constructor
  · rintro ⟨i, j, s, t, v, w, hne, hs, ht, hv, hw, hdiffer⟩ hpairwise
    obtain ⟨hi, rfl⟩ := List.getElem?_eq_some_iff.mp hs
    obtain ⟨hj, rfl⟩ := List.getElem?_eq_some_iff.mp ht
    refine Bool.eq_false_iff.mp hdiffer ?_
    rcases Nat.lt_or_gt_of_ne hne with hlt | hlt
    · exact hpairwise i j hi hj hlt v w hv hw
    · have hover := fun k (hk : k < sources.length) => hsources _ (List.getElem_mem hk)
      exact (hpairwise j i hj hi hlt).symm hP (hover j hj) (hover i hi) v w hv hw
  · intro h
    unfold AgreesAt at h
    push Not at h
    obtain ⟨i, j, hi, hj, hlt, v, w, hv, hw, hdiffer⟩ := h
    exact ⟨i, j, _, _, v, w, Nat.ne_of_lt hlt, List.getElem?_eq_getElem hi,
      List.getElem?_eq_getElem hj, hv, hw, Bool.eq_false_iff.mpr hdiffer⟩

/-- All bindings of some lists: the names in the order of their first occurrence, each with the
value of the last list that has it, which equals those before it. -/
structure IsMerged (sources : List (Bindings α)) (merged : Bindings α) : Prop where
  names : merged.names = (sources.flatMap Bindings.names).eraseDups
  value : ∀ name v, merged.get? name = some v → ∃ before s after,
    sources = before ++ s :: after ∧ s.get? name = some v ∧ (∀ t ∈ after, t.get? name = none) ∧
      ∀ t ∈ before, ∀ w, t.get? name = some w → (v == w) = true

/-- The same names are bound, to values that are the same or equal. -/
structure SameUpToOrder (a b : Bindings α) : Prop where
  names : a.names.Perm b.names
  value : ∀ name v w, a.get? name = some v → b.get? name = some w → v = w ∨ (v == w) = true

theorem isMerged_updateAll (hP : ComparesOn P) (hsources : ∀ s ∈ sources, Over P s)
    (h : ∀ name, sources.Pairwise (AgreesAt name)) : IsMerged sources (updateAll [] sources) := by
  have hnodup := fun s hs => (hsources s hs).nodup
  refine ⟨names_updateAll List.nodup_nil hnodup, fun name v hv => ?_⟩
  rcases exists_last_of_get?_updateAll hnodup hv with ⟨hv, -⟩ | ⟨before, s, after, rfl, hs, hafter⟩
  · cases hv
  · refine ⟨before, s, after, rfl, hs, hafter, fun t ht w hw => ?_⟩
    rw [List.forall_mem_append, List.forall_mem_cons] at hsources
    have hts := (List.pairwise_append.mp (h name)).2.2 t ht s List.mem_cons_self
    exact hts.symm hP (hsources.1 t ht) hsources.2.1 v w hs hw

/-- Whatever the order of the lists, the value of a name is that of one of them, and the value that
another one has is equal to it. -/
theorem IsMerged.sameUpToOrder {others : List (Bindings α)} {merged merged' : Bindings α}
    (h : IsMerged sources merged) (h' : IsMerged others merged') (hperm : sources.Perm others) :
    SameUpToOrder merged merged' := by
  constructor
  · rw [h.names, h'.names]
    refine (List.perm_ext_iff_of_nodup (nodup_eraseDups _) (nodup_eraseDups _)).mpr fun name => ?_
    rw [List.mem_eraseDups, List.mem_eraseDups]
    exact (hperm.flatMap_right _).mem_iff
  · intro name v w hv hw
    obtain ⟨before, s, after, rfl, hs, hafter, hbefore⟩ := h.value name v hv
    obtain ⟨_, t, _, rfl, ht, -⟩ := h'.value name w hw
    have hmem : t ∈ before ++ s :: after := hperm.mem_iff.mpr (by simp)
    rcases List.mem_append.mp hmem with hmem | hmem
    · exact .inr (hbefore t hmem w ht)
    · rcases List.mem_cons.mp hmem with rfl | hmem
      · exact .inl (Option.some.inj (hs.symm.trans ht))
      · rw [hafter t hmem] at ht
        cases ht

theorem mapM_mergeParams_eq_ok_iff (hP : ComparesOn P) {groups : List (List (Bindings α))}
    (hgroups : ∀ group ∈ groups, ∀ s ∈ group, Over P s) {unions : List (Bindings α)} :
    groups.mapM mergeParams = .ok unions ↔
      (∀ group ∈ groups, ∀ name, group.Pairwise (AgreesAt name)) ∧
        unions = groups.map (updateAll []) := by
  induction groups generalizing unions with
  | nil => exact ⟨fun h => ⟨nofun, (Except.ok.inj h).symm⟩, fun h => h.2 ▸ rfl⟩
  | cons group groups ih =>
    rw [List.forall_mem_cons] at hgroups
    rw [List.mapM_cons, List.forall_mem_cons, Outcome.bind_eq_ok]
    constructor
    · rintro ⟨union, hunion, h⟩
      obtain ⟨rest, hrest, h⟩ := Outcome.bind_eq_ok.mp h
      obtain ⟨hagree, rfl⟩ := (mergeParams_eq_ok_iff hP hgroups.1).mp hunion
      obtain ⟨hothers, rfl⟩ := (ih hgroups.2).mp hrest
      exact ⟨⟨hagree, hothers⟩, (Except.ok.inj h).symm⟩
    · rintro ⟨⟨hagree, hothers⟩, rfl⟩
      refine ⟨_, (mergeParams_eq_ok_iff hP hgroups.1).mpr ⟨hagree, rfl⟩, ?_⟩
      exact Outcome.bind_eq_ok.mpr ⟨_, (ih hgroups.2).mpr ⟨hothers, rfl⟩, rfl⟩

/-- Merging merged lists is merging all of them. -/
theorem mergeParams_flatten (hP : ComparesOn P) {groups : List (List (Bindings α))}
    (hgroups : ∀ group ∈ groups, ∀ s ∈ group, Over P s) {merged : Bindings α} :
    (groups.mapM mergeParams >>= mergeParams) = .ok merged ↔
      mergeParams groups.flatten = .ok merged := by
  have hall : ∀ s ∈ groups.flatten, Over P s := by
    intro s hs
    obtain ⟨group, hgroup, hs⟩ := List.mem_flatten.mp hs
    exact hgroups group hgroup s hs
  have hunions : ∀ s ∈ groups.map (updateAll []), Over P s := by
    intro s hs
    obtain ⟨group, hgroup, rfl⟩ := List.mem_map.mp hs
    exact Over.nil.updateAll (hgroups group hgroup)
  have hflatten : updateAll [] (groups.map (updateAll [])) = updateAll [] groups.flatten :=
    updateAll_flatten List.nodup_nil fun group hgroup s hs => (hgroups group hgroup s hs).nodup
  simp only [Outcome.bind_eq_ok, mapM_mergeParams_eq_ok_iff hP hgroups,
    mergeParams_eq_ok_iff hP hall, pairwise_flatten_iff hP hgroups]
  constructor
  · rintro ⟨_, ⟨hwithin, rfl⟩, hmerged⟩
    obtain ⟨hbetween, rfl⟩ := (mergeParams_eq_ok_iff hP hunions).mp hmerged
    exact ⟨fun name => ⟨fun group hgroup => hwithin group hgroup name, hbetween name⟩, hflatten⟩
  · rintro ⟨hagree, rfl⟩
    refine ⟨_, ⟨fun group hgroup name => (hagree name).1 group hgroup, rfl⟩, ?_⟩
    exact (mergeParams_eq_ok_iff hP hunions).mpr ⟨fun name => (hagree name).2, hflatten.symm⟩

theorem pairwise_of_perm (hP : ComparesOn P) {others : List (Bindings α)}
    (hsources : ∀ s ∈ sources, Over P s) (hperm : sources.Perm others) {name : String}
    (h : sources.Pairwise (AgreesAt name)) : others.Pairwise (AgreesAt name) := by
  have hboth : sources.Pairwise fun s t => AgreesAt name s t ∧ AgreesAt name t s :=
    h.imp_of_mem fun hs ht hagree => ⟨hagree, hagree.symm hP (hsources _ hs) (hsources _ ht)⟩
  exact ((hperm.pairwise_iff And.symm).mp hboth).imp And.left

/-- Merging fails if and only if two of the lists give unequal values to a name, and the failure
names it.  Otherwise all bindings are in the result.  Neither the order of the lists nor merging
some of them first makes a difference, up to the order of the names and to equality. -/
theorem mergeParams_merges_unless_conflict (hP : ComparesOn P)
    (hsources : ∀ s ∈ sources, Over P s) :
    ((∃ e, mergeParams sources = .error e) ↔ ∃ name, Conflict sources name) ∧
    (∀ e, mergeParams sources = .error e → ∃ name, e = .conflict name ∧ Conflict sources name) ∧
    (∀ merged, mergeParams sources = .ok merged → IsMerged sources merged) ∧
    (∀ others, sources.Perm others →
      ((∃ merged, mergeParams sources = .ok merged) ↔ ∃ merged, mergeParams others = .ok merged) ∧
      ∀ merged merged', mergeParams sources = .ok merged → mergeParams others = .ok merged' →
        SameUpToOrder merged merged') ∧
    ∀ groups : List (List (Bindings α)), groups.flatten = sources → ∀ merged,
      (groups.mapM mergeParams >>= mergeParams) = .ok merged ↔
        mergeParams sources = .ok merged := by
  have hnodup := fun s hs => (hsources s hs).nodup
  have herror : ∀ e, mergeParams sources = .error e →
      ∃ name, e = .conflict name ∧ Conflict sources name := by
    intro e he
    obtain ⟨name, rfl, hname⟩ := exists_of_mergeParams_eq_error hnodup he
    exact ⟨name, rfl, (conflict_iff hP hsources).mpr hname⟩
  have hmerged : ∀ {others}, (∀ s ∈ others, Over P s) → ∀ merged,
      mergeParams others = .ok merged → IsMerged others merged := by
    intro others hothers merged h
    obtain ⟨hagree, rfl⟩ := (mergeParams_eq_ok_iff hP hothers).mp h
    exact isMerged_updateAll hP hothers hagree
  refine ⟨⟨fun ⟨e, he⟩ => ?_, fun ⟨name, hname⟩ => ?_⟩, herror, hmerged hsources,
    fun others hperm => ?_, ?_⟩
  · obtain ⟨name, -, hname⟩ := herror e he
    exact ⟨name, hname⟩
  · cases h : mergeParams sources with
    | error e => exact ⟨e, rfl⟩
    | ok merged =>
      have hagree := ((mergeParams_eq_ok_iff hP hsources).mp h).1 name
      exact absurd hagree ((conflict_iff hP hsources).mp hname)
  · have hothers : ∀ t ∈ others, Over P t := fun t ht => hsources t (hperm.mem_iff.mpr ht)
    refine ⟨?_, fun merged merged' h h' => ?_⟩
    · simp only [mergeParams_eq_ok_iff hP hsources, mergeParams_eq_ok_iff hP hothers,
        exists_and_left, exists_eq, and_true]
      exact forall_congr' fun name =>
        ⟨pairwise_of_perm hP hsources hperm, pairwise_of_perm hP hothers hperm.symm⟩
    · exact (hmerged hsources merged h).sameUpToOrder (hmerged hothers merged' h') hperm
  · rintro groups rfl merged
    exact mergeParams_flatten hP
      fun group hgroup s hs => hsources s (List.mem_flatten.mpr ⟨group, hgroup, hs⟩)

/-- NaN under one name in two lists is a conflict, since it differs from itself. -/
example : mergeParams [[("q1", Value.real .nan)], [("q1", .real .nan)]] =
    .error (.conflict "q1") := rfl

theorem comparesOn_isProper : ComparesOn Value.IsProper :=
  ⟨fun _ _ => Value.same_symm, fun _ _ _ hv _ _ => Value.same_trans hv⟩

/-- The site in three forms, and a value that differs from itself. -/
def siteForms : List (Bindings Value) :=
  [[("site_id", .bool true), ("q1", .real .nan)], [("f1", .text "a"), ("site_id", .int 1)],
    [("site_id", .real (.finite false 4503599627370496 (-52)))]]

theorem mergeParams_merges_siteForms :
    (∃ merged, mergeParams siteForms = .ok merged ∧ IsMerged siteForms merged) ∧
      ∀ others, siteForms.Perm others → ∃ merged, mergeParams others = .ok merged := by
  have hover : ∀ s ∈ siteForms, Over Value.IsProper s := by
    have hleaf : ∀ s ∈ siteForms, ∀ binding ∈ s, binding.2.isLeaf = true := by decide
    have hnames : ∀ s ∈ siteForms, (Bindings.names s).Nodup := by decide
    exact fun s hs => ⟨hnames s hs, fun name v hv => .leaf (hleaf s hs _ (mem_of_get? hv))⟩
  obtain ⟨-, -, hmerged, hperm, -⟩ := mergeParams_merges_unless_conflict comparesOn_isProper hover
  obtain ⟨merged, h⟩ : ∃ merged, mergeParams siteForms = .ok merged := ⟨_, rfl⟩
  exact ⟨⟨merged, h, hmerged merged h⟩, fun others ho => (hperm others ho).1.mp ⟨merged, h⟩⟩

end Clickstream
