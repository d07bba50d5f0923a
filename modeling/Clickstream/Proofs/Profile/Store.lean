import Mathlib.Data.Finmap
import Clickstream.Profile.Store
import Clickstream.Proofs.Json.RoundTrip
import Clickstream.Proofs.Outcome

/-!
# Profiles as a finite map

Stored profiles are read through `find?`, by site and user.  Storing a profile changes what is found
for its own site and user only (`find?_put`).  Traits that are an object of JSON have a text, which
reads as the traits (`exists_readTraits`).  So the profiles stand for a finite map from sites and
users to traits (`Holds`): a write to them succeeds and inserts into the map (`Holds.exists_upsert`),
and a lookup reads the requested entries of the map, with nothing to report (`Holds.lookup_eq`).

Of profiles with any texts a lookup finds what they have for each user alone (`get?_of_lookup`), and
it fails only for a text of one of the requested users (`lookup_eq_ok_iff`).
-/

namespace Clickstream

/-- Traits by site and user. -/
abbrev TraitMap := Finmap fun _ : Int × String => Fields

namespace ProfileStore

/-! ## Profiles -/

/-- A stored profile is found for its site and its user, in place of the one before. -/
theorem find?_put (p : Profile) (profiles : List Profile) (site : Int) (user : String) :
    find? site user (put p profiles) =
      if p.site = site ∧ p.user = user then some p else find? site user profiles := by
  induction profiles with
  | nil => simp [put, find?]
  | cons q rest ih =>
    rw [find?, find?] at ih ⊢
    rw [put]
    by_cases hq : q.site = p.site ∧ q.user = p.user
    · rw [if_pos hq, List.find?_cons, List.find?_cons, hq.1, hq.2]
      by_cases hp : p.site = site ∧ p.user = user
      · simp [hp]
      · simp [hp]
    · rw [if_neg hq, List.find?_cons, List.find?_cons, ih]
      by_cases hp : p.site = site ∧ p.user = user
      · obtain ⟨rfl, rfl⟩ := hp
        simp [hq]
      · simp [hp]

theorem user_of_find? {site : Int} {user : String} {profiles : List Profile} {p : Profile}
    (h : find? site user profiles = some p) : p.user = user := by
  have hfound := List.find?_some h
  rw [decide_eq_true_iff] at hfound
  exact hfound.2

/-! ## Texts -/

/-- The text of a profile reads as some traits. -/
def HasTraits (p : Profile) (traits : Fields) : Prop :=
  readTraits p.traits = .ok (traits, false)

theorem exists_readTraits {traits : Fields} (h : Json.IsJson (.object traits)) :
    ∃ text, writeTraits traits = .ok text ∧ readTraits text = .ok (traits, false) := by
  obtain ⟨text, hwrite, hreads⟩ := h.exists_write
  refine ⟨text, ?_, ?_⟩
  · rw [writeTraits, hwrite]
  · rw [readTraits, hreads.readText_eq]

theorem readSite_int {site : Int} (h : fitsWord64 site = true) :
    readSite (.int site) = .ok site := by
  show (if fitsWord64 site then _ else _) = _
  rw [if_pos h]

/-! ## The map -/

/-- Profiles stand for a map: they have the same sites and users, and texts of the same traits. -/
def Holds (profiles : List Profile) (m : TraitMap) : Prop :=
  ∀ site user, Option.Rel HasTraits (find? site user profiles) (m.lookup (site, user))

theorem holds_empty : Holds [] ∅ := fun _ _ => .none

variable {profiles : List Profile} {m : TraitMap} {site : Int}

namespace Holds

theorem put (h : Holds profiles m) {p : Profile} {traits : Fields} (hp : HasTraits p traits) :
    Holds (put p profiles) (m.insert (p.site, p.user) traits) := by
  intro site user
  rw [find?_put]
  by_cases hkey : p.site = site ∧ p.user = user
  · obtain ⟨rfl, rfl⟩ := hkey
    rw [if_pos ⟨rfl, rfl⟩, Finmap.lookup_insert]
    exact .some hp
  · have hne : (site, user) ≠ (p.site, p.user) := fun heq =>
      hkey ⟨(congrArg Prod.fst heq).symm, (congrArg Prod.snd heq).symm⟩
    rw [if_neg hkey, Finmap.lookup_insert_of_ne m hne]
    exact h site user

/-- A write succeeds and replaces one entry of the map. -/
theorem exists_upsert (h : Holds profiles m) (hsite : fitsWord64 site = true) (user : String)
    {traits : Fields} (htraits : Json.IsJson (.object traits)) :
    ∃ written, upsert (some profiles) (.int site) (.text user) traits = .ok (some written) ∧
      Holds written (m.insert (site, user) traits) := by
  obtain ⟨text, hwrite, hread⟩ := exists_readTraits htraits
  refine ⟨ProfileStore.put ⟨site, user, text⟩ profiles, ?_, h.put hread⟩
  have hput : putText (some profiles) (.int site) (.text user) text =
      .ok (some (ProfileStore.put ⟨site, user, text⟩ profiles)) := by
    rw [putText, readSite_int hsite]
    rfl
  rw [upsert, hwrite]
  exact hput

/-- The profiles of some users have texts that can be read, and no text is reported. -/
theorem decodeProfiles_eq (h : Holds profiles m) (site : Int) (ids : List String) :
    decodeProfiles (ids.filterMap fun id => find? site id profiles) =
      ([], .ok (Bindings.ofNames (fun id => m.lookup (site, id)) ids)) := by
  induction ids with
  | nil => rfl
  | cons id rest ih =>
    have hrel := h site id
    simp only [Bindings.ofNames, List.filterMap_cons] at ih ⊢
    generalize hfound : find? site id profiles = found at hrel ⊢
    generalize m.lookup (site, id) = traits at hrel ⊢
    cases hrel with
    | none => exact ih
    | some hread =>
      rw [HasTraits] at hread
      simp only [Option.map_some, decodeProfiles, hread, ih, user_of_find? hfound]
      rfl

/-- A lookup reads the entries of the site for the requested users. -/
theorem lookup_eq (h : Holds profiles m) (hsite : fitsWord64 site = true) (ids : List String) :
    lookup (some profiles) (.int site) ids =
      ([], .ok (Bindings.ofNames (fun id => m.lookup (site, id)) (sortedIds ids))) := by
  cases ids with
  | nil => simp [lookup, sortedIds, Bindings.ofNames]
  | cons id rest =>
    rw [lookup, readSite_int hsite]
    · exact h.decodeProfiles_eq site _
    · intro hids
      cases hids

end Holds

/-! ## Requested users -/

theorem mem_sortedIds {ids : List String} {id : String} : id ∈ sortedIds ids ↔ id ∈ ids := by
  rw [sortedIds, List.mem_eraseDups, List.mem_mergeSort]

theorem nodup_sortedIds (ids : List String) : (sortedIds ids).Nodup :=
  nodup_eraseDups _

/-! ## Texts of any kind -/

/-- The traits in the stored text of a user, if the text can be read. -/
def storedTraits (site : Int) (profiles : List Profile) (user : String) : Option Fields :=
  (find? site user profiles).bind fun p => (readTraits p.traits).toOption.map (·.1)

/-- The traits that a store has for a user of a site. -/
def traitsOf (store : ProfileStore) (site : Value) (user : String) : Option Fields :=
  store.bind fun profiles => (readSite site).toOption.bind fun site =>
    storedTraits site profiles user

/-- The text of a user can be read, if there is one. -/
def CanRead (site : Int) (profiles : List Profile) (user : String) : Prop :=
  ∀ p, find? site user profiles = some p → ∃ r, readTraits p.traits = .ok r

/-- Decoding succeeds if and only if every text can be read, and gives the stored traits. -/
theorem decodeProfiles_eq_ok_iff (site : Int) (profiles : List Profile) {ids : List String}
    {found : Profiles} :
    (decodeProfiles (ids.filterMap fun id => find? site id profiles)).2 = .ok found ↔
      (∀ id ∈ ids, CanRead site profiles id) ∧
        found = Bindings.ofNames (storedTraits site profiles) ids := by
  induction ids generalizing found with
  | nil =>
    constructor
    · rintro ⟨⟩
      exact ⟨List.forall_mem_nil _, rfl⟩
    · rintro ⟨-, rfl⟩
      rfl
  | cons id ids ih =>
    rw [List.forall_mem_cons, List.filterMap_cons, Bindings.ofNames, List.filterMap_cons,
      ← Bindings.ofNames, storedTraits, CanRead]
    cases hp : find? site id profiles with
    | none =>
      have hself : ∀ p : Profile, none = some p → ∃ r, readTraits p.traits = .ok r := by
        rintro p ⟨⟩
      rw [ih, and_iff_right hself]
      rfl
    | some p =>
      rw [decodeProfiles, Option.bind_some]
      cases hread : readTraits p.traits with
      | error e =>
        constructor
        · rintro ⟨⟩
        · rintro ⟨⟨hself, -⟩, -⟩
          obtain ⟨r, hr⟩ := hself p rfl
          rw [hread] at hr
          cases hr
      | ok r =>
        have hself : ∀ q, some p = some q → ∃ r, readTraits q.traits = .ok r := by
          rintro _ ⟨⟩
          exact ⟨r, hread⟩
        have huser := user_of_find? hp
        show Except.map _ _ = _ ↔ (_ ∧ _) ∧ found = (id, r.1) :: _
        rw [Outcome.map_eq_ok, and_iff_right hself]
        constructor
        · rintro ⟨rest, hrest, rfl⟩
          obtain ⟨hall, rfl⟩ := ih.mp hrest
          exact ⟨hall, huser ▸ rfl⟩
        · rintro ⟨hall, rfl⟩
          exact ⟨_, ih.mpr ⟨hall, rfl⟩, huser ▸ rfl⟩

/-- A lookup of some users succeeds if the store is open, the site can be stored and every text can
be read. -/
theorem lookup_eq_ok_iff {store : ProfileStore} {site : Value} {ids : List String}
    (hids : ids ≠ []) {found : Profiles} :
    (lookup store site ids).2 = .ok found ↔ ∃ profiles s, store = some profiles ∧
      readSite site = .ok s ∧ (∀ id ∈ ids, CanRead s profiles id) ∧
      found = Bindings.ofNames (storedTraits s profiles) (sortedIds ids) := by
  obtain ⟨id, rest, rfl⟩ := List.exists_cons_of_ne_nil hids
  cases store with
  | none =>
    constructor
    · rintro ⟨⟩
    · rintro ⟨_, _, ⟨⟩, -⟩
  | some profiles =>
    unfold lookup
    cases hsite : readSite site with
    | error e =>
      constructor
      · rintro ⟨⟩
      · rintro ⟨_, _, -, ⟨⟩, -⟩
    | ok s =>
      dsimp only
      rw [decodeProfiles_eq_ok_iff]
      simp only [mem_sortedIds]
      constructor
      · exact fun h => ⟨profiles, s, rfl, rfl, h⟩
      · rintro ⟨_, _, ⟨⟩, ⟨⟩, h⟩
        exact h

/-- A lookup of fewer users succeeds, too. -/
theorem exists_lookup_of_subset {store : ProfileStore} {site : Value} {ids ids' : List String}
    (hsubset : ids' ⊆ ids) (h : ∃ found, (lookup store site ids).2 = .ok found) :
    ∃ found, (lookup store site ids').2 = .ok found := by
  by_cases hids' : ids' = []
  · subst hids'
    exact ⟨[], rfl⟩
  · have hids : ids ≠ [] := by
      rintro rfl
      exact hids' (List.subset_nil.mp hsubset)
    obtain ⟨found, h⟩ := h
    obtain ⟨profiles, s, rfl, hsite, hread, -⟩ := (lookup_eq_ok_iff hids).mp h
    exact ⟨_, (lookup_eq_ok_iff hids').mpr
      ⟨profiles, s, rfl, hsite, fun id hid => hread id (hsubset hid), rfl⟩⟩

/-- What a lookup finds for a user is what the store has for it. -/
theorem get?_of_lookup {store : ProfileStore} {site : Value} {ids : List String} {found : Profiles}
    (h : (lookup store site ids).2 = .ok found) (id : String) :
    found.get? id = if id ∈ ids then store.traitsOf site id else none := by
  by_cases hids : ids = []
  · subst hids
    cases h
    rfl
  · obtain ⟨profiles, s, rfl, hsite, -, rfl⟩ := (lookup_eq_ok_iff hids).mp h
    rw [Bindings.get?_ofNames, traitsOf, hsite]
    simp only [mem_sortedIds]
    rfl

/-- What a store has for its users is the map that its profiles stand for. -/
theorem Holds.traitsOf_eq (h : Holds profiles m) (hsite : fitsWord64 site = true) (user : String) :
    traitsOf (some profiles) (.int site) user = m.lookup (site, user) := by
  have hfound := get?_of_lookup (congrArg Prod.snd (h.lookup_eq hsite [user])) user
  rw [Bindings.get?_ofNames, if_pos (mem_sortedIds.mpr (List.mem_singleton.mpr rfl)),
    if_pos (List.mem_singleton.mpr rfl)] at hfound
  exact hfound.symm

end ProfileStore

end Clickstream
