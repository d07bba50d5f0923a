import Clickstream.Proofs.Query.Bindings

/-!
# Unions of bindings

Bindings are overwritten by those of other lists.  On lists of distinct names this is associative
with the empty list as its unit (`update_nil`, `update_assoc`), so that lists can be united in
groups (`updateAll_flatten`).  The names of a union are in the order of their first occurrence
(`names_updateAll`), and each has its last value (`exists_last_of_get?_updateAll`).
-/

namespace Clickstream

namespace Bindings

variable {α : Type} {b s t : Bindings α} {sources : List (Bindings α)}

/-! ## Overwriting bindings -/

theorem update_cons (b : Bindings α) (name : String) (value : α) (s : Bindings α) :
    b.update ((name, value) :: s) = (b.set name value).update s := rfl

/-- A name has its new value if there is one. -/
theorem get?_update (hs : s.names.Nodup) (b : Bindings α) (name : String) :
    (b.update s).get? name = (s.get? name).or (b.get? name) := by
  induction s generalizing b with
  | nil => rfl
  | cons binding s ih =>
    obtain ⟨first, value⟩ := binding
    rw [names_cons, List.nodup_cons] at hs
    rw [update_cons, ih hs.2, get?_set]
    by_cases h : first = name
    · subst h
      rw [get?_eq_none_iff.mpr hs.1, get?_cons_self, if_pos rfl]
      rfl
    · rw [get?_cons_of_ne h, if_neg h]

/-- New names come behind the others, in their order. -/
theorem names_update (hs : s.names.Nodup) (b : Bindings α) :
    (b.update s).names = b.names ++ s.names.filter (· ∉ b.names) := by
  induction s generalizing b with
  | nil => rw [names_nil, List.filter_nil, List.append_nil]; rfl
  | cons binding s ih =>
    obtain ⟨first, value⟩ := binding
    rw [names_cons, List.nodup_cons] at hs
    rw [update_cons, ih hs.2, names_set, names_cons, List.filter_cons]
    by_cases h : first ∈ b.names
    · simp [h]
    · have hrest : (names s).filter (· ∉ b.names ++ [first]) = (names s).filter (· ∉ b.names) := by
        refine List.filter_congr fun name hname => ?_
        have hne : name ≠ first := fun he => hs.1 (he ▸ hname)
        simp [hne]
      rw [if_neg h, if_pos (decide_eq_true h), hrest, List.append_assoc]
      rfl

theorem nodup_update (hb : b.names.Nodup) (hs : s.names.Nodup) : (b.update s).names.Nodup := by
  rw [names_update hs]
  refine List.nodup_append.mpr ⟨hb, hs.filter _, ?_⟩
  rintro name hname _ hnew rfl
  exact of_decide_eq_true (List.mem_filter.mp hnew).2 hname

/-- Bindings of distinct names are those of their partial function. -/
theorem ofNames_get? (hb : b.names.Nodup) : ofNames b.get? b.names = b := by
  induction b with
  | nil => rfl
  | cons binding b ih =>
    obtain ⟨first, value⟩ := binding
    rw [names_cons, List.nodup_cons] at hb
    have hrest : ofNames (get? ((first, value) :: b)) (names b) = ofNames (get? b) (names b) := by
      refine List.filterMap_congr fun name hname => ?_
      have hne : first ≠ name := fun he => hb.1 (he ▸ hname)
      rw [get?_cons_of_ne hne]
    rw [names_cons, ofNames, List.filterMap_cons, get?_cons_self, ← ofNames, hrest, ih hb.2]
    rfl

theorem ext_get? (hb : b.names.Nodup) (ht : t.names.Nodup) (hnames : b.names = t.names)
    (hget : ∀ name, b.get? name = t.get? name) : b = t := by
  rw [← ofNames_get? hb, ← ofNames_get? ht, hnames, funext hget]

theorem update_nil (hb : b.names.Nodup) : update [] b = b := by
  refine ext_get? (nodup_update List.nodup_nil hb) hb ?_ fun name => ?_
  · rw [names_update hb, names_nil, List.nil_append]
    exact List.filter_eq_self.mpr fun name _ => decide_eq_true List.not_mem_nil
  · rw [get?_update hb, get?_nil, Option.or_none]

theorem update_assoc (hb : b.names.Nodup) (hs : s.names.Nodup) (ht : t.names.Nodup) :
    (b.update s).update t = b.update (s.update t) := by
  have hst := nodup_update hs ht
  refine ext_get? (nodup_update (nodup_update hb hs) ht) (nodup_update hb hst) ?_ fun name => ?_
  · rw [names_update ht, names_update hs, names_update hst, names_update ht, List.filter_append,
      List.append_assoc, List.filter_filter]
    congr 2
    refine List.filter_congr fun name _ => ?_
    by_cases h : name ∈ b.names <;> simp [h]
  · rw [get?_update ht, get?_update hs, get?_update hst, get?_update ht, Option.or_assoc]

/-! ## Overwriting by several lists -/

/-- The bindings of several lists, the later ones over the earlier ones. -/
def updateAll (b : Bindings α) (sources : List (Bindings α)) : Bindings α :=
  sources.foldl update b

theorem nodup_updateAll (hb : b.names.Nodup) (hsources : ∀ s ∈ sources, s.names.Nodup) :
    (b.updateAll sources).names.Nodup := by
  induction sources generalizing b with
  | nil => exact hb
  | cons s sources ih =>
    rw [List.forall_mem_cons] at hsources
    exact ih (nodup_update hb hsources.1) hsources.2

theorem get?_updateAll (hsources : ∀ s ∈ sources, s.names.Nodup) (b : Bindings α)
    (name : String) : (b.updateAll sources).get? name =
      sources.foldl (fun found s => (s.get? name).or found) (b.get? name) := by
  induction sources generalizing b with
  | nil => rfl
  | cons s sources ih =>
    rw [List.forall_mem_cons] at hsources
    rw [List.foldl_cons, ← get?_update hsources.1]
    exact ih hsources.2 (b.update s)

/-- Overwriting by several lists is overwriting by their union. -/
theorem updateAll_eq (hb : b.names.Nodup) (hsources : ∀ s ∈ sources, s.names.Nodup) :
    b.updateAll sources = b.update (updateAll [] sources) := by
  induction sources generalizing b with
  | nil => rfl
  | cons s sources ih =>
    rw [List.forall_mem_cons] at hsources
    have hrest := nodup_updateAll (b := []) List.nodup_nil hsources.2
    calc b.updateAll (s :: sources)
        = (b.update s).updateAll sources := rfl
      _ = (b.update s).update (updateAll [] sources) :=
          ih (nodup_update hb hsources.1) hsources.2
      _ = b.update (s.update (updateAll [] sources)) := update_assoc hb hsources.1 hrest
      _ = b.update (s.updateAll sources) := by rw [ih hsources.1 hsources.2]
      _ = b.update ((update [] s).updateAll sources) := by rw [update_nil hsources.1]

theorem eraseDups_of_nodup {names : List String} (h : names.Nodup) : names.eraseDups = names := by
  induction names with
  | nil => rfl
  | cons name names ih =>
    rw [List.nodup_cons] at h
    have hfilter : names.filter (fun other => !other == name) = names := by
      refine List.filter_eq_self.mpr fun other hother => ?_
      have hne : other ≠ name := fun he => h.1 (he ▸ hother)
      simp [hne]
    rw [List.eraseDups_cons, hfilter, ih h.2]

theorem removeAll_eq_filter (names known : List String) :
    names.removeAll known = names.filter (· ∉ known) :=
  List.filter_congr fun name _ => by simp

/-- Names are in the order of their first occurrence. -/
theorem names_updateAll (hb : b.names.Nodup) (hsources : ∀ s ∈ sources, s.names.Nodup) :
    (b.updateAll sources).names = (b.names ++ sources.flatMap names).eraseDups := by
  induction sources generalizing b with
  | nil => rw [List.flatMap_nil, List.append_nil, eraseDups_of_nodup hb]; rfl
  | cons s sources ih =>
    rw [List.forall_mem_cons] at hsources
    have hstep : (b.update s).names = (b.names ++ s.names).eraseDups := by
      rw [names_update hsources.1, List.eraseDups_append, removeAll_eq_filter,
        eraseDups_of_nodup hb, eraseDups_of_nodup (hsources.1.filter _)]
    have hknown : ∀ known more : List String,
        (known.eraseDups ++ more).eraseDups = (known ++ more).eraseDups := by
      intro known more
      rw [List.eraseDups_append, List.eraseDups_append,
        eraseDups_of_nodup (nodup_eraseDups known), removeAll_eq_filter, removeAll_eq_filter]
      congr 2
      exact List.filter_congr fun name _ => by simp
    calc (b.updateAll (s :: sources)).names
        = ((b.update s).updateAll sources).names := rfl
      _ = ((b.names ++ s.names).eraseDups ++ sources.flatMap names).eraseDups := by
          rw [ih (nodup_update hb hsources.1) hsources.2, hstep]
      _ = (b.names ++ (s :: sources).flatMap names).eraseDups := by
          rw [hknown, List.append_assoc, List.flatMap_cons]

/-- The value of a name is that of the last list that has it. -/
theorem exists_last_of_get?_updateAll (hsources : ∀ s ∈ sources, s.names.Nodup) {name : String}
    {value : α} (h : (b.updateAll sources).get? name = some value) :
    (b.get? name = some value ∧ ∀ s ∈ sources, s.get? name = none) ∨
      ∃ before s after, sources = before ++ s :: after ∧ s.get? name = some value ∧
        ∀ t ∈ after, t.get? name = none := by
  induction sources generalizing b with
  | nil => exact .inl ⟨h, nofun⟩
  | cons s sources ih =>
    rw [List.forall_mem_cons] at hsources
    rcases ih hsources.2 h with ⟨hvalue, hnone⟩ | ⟨before, t, after, rfl, ht⟩
    · rw [get?_update hsources.1] at hvalue
      cases hs : s.get? name with
      | none =>
        rw [hs] at hvalue
        exact .inl ⟨hvalue, List.forall_mem_cons.mpr ⟨hs, hnone⟩⟩
      | some new =>
        rw [hs] at hvalue
        exact .inr ⟨[], s, sources, rfl, hs.trans hvalue, hnone⟩
    · exact .inr ⟨s :: before, t, after, rfl, ht⟩

/-- Overwriting by unions is overwriting by all lists of them. -/
theorem updateAll_flatten {groups : List (List (Bindings α))} (hb : b.names.Nodup)
    (hgroups : ∀ group ∈ groups, ∀ s ∈ group, s.names.Nodup) :
    b.updateAll (groups.map (updateAll [])) = b.updateAll groups.flatten := by
  induction groups generalizing b with
  | nil => rfl
  | cons group groups ih =>
    rw [List.forall_mem_cons] at hgroups
    calc b.updateAll ((group :: groups).map (updateAll []))
        = (b.update (updateAll [] group)).updateAll (groups.map (updateAll [])) := rfl
      _ = (b.updateAll group).updateAll (groups.map (updateAll [])) := by
          rw [updateAll_eq hb hgroups.1]
      _ = (b.updateAll group).updateAll groups.flatten :=
          ih (nodup_updateAll hb hgroups.1) hgroups.2
      _ = b.updateAll (group :: groups).flatten := by
          rw [List.flatten_cons, updateAll, updateAll, updateAll, List.foldl_append]

/-! ## Values of a kind -/

/-- Bindings of distinct names to values of a kind. -/
structure Over (P : α → Prop) (s : Bindings α) : Prop where
  nodup : s.names.Nodup
  value : ∀ name v, s.get? name = some v → P v

namespace Over

variable {P : α → Prop}

theorem nil : Over P [] :=
  ⟨List.nodup_nil, nofun⟩

theorem update (hb : Over P b) (hs : Over P s) : Over P (b.update s) := by
  refine ⟨nodup_update hb.nodup hs.nodup, fun name v hv => ?_⟩
  rw [get?_update hs.nodup] at hv
  rcases Option.or_eq_some_iff.mp hv with hv | ⟨-, hv⟩
  · exact hs.value name v hv
  · exact hb.value name v hv

theorem updateAll (hb : Over P b) (hsources : ∀ s ∈ sources, Over P s) :
    Over P (b.updateAll sources) := by
  induction sources generalizing b with
  | nil => exact hb
  | cons s sources ih =>
    rw [List.forall_mem_cons] at hsources
    exact ih (hb.update hsources.1) hsources.2

end Over

end Bindings

end Clickstream
