import Mathlib.Data.List.Forall2
import Mathlib.Data.List.Perm.Subperm
import Clickstream.Proofs.Query.Bindings
import Clickstream.Value.Equality

/-!
# Laws of the equality of values

The equality of values is symmetric and transitive (`same_symm`, `same_trans`).  It is not
reflexive, since NaN differs from itself: a value without parts has a key unless it is NaN, and two
of them are equal if they have the same key (`sameLeaf_iff`).  Objects are compared from one side
only, field by field, so that the fields have to have distinct names (`IsProper`).
-/

namespace Clickstream.Value

/-! ## Values without parts -/

/-- What a value without parts is up to equality. -/
inductive LeafKey
  | null
  | number (k : NumberKey)
  | text (s : String)
  | bytes (bs : List UInt8)
  | moment (aware : Bool) (ticks : Int)

/-- The key of a value.  NaN has none, lists and objects have none. -/
def leafKey? (v : Value) : Option LeafKey :=
  match v.numberView with
  | .key k => some (.number k)
  | .nan => none
  | .none =>
    match v with
    | .null => some .null
    | .text s => some (.text s)
    | .bytes bs => some (.bytes bs)
    | .moment m => some (.moment m.offset.isSome m.utcTicks)
    | _ => none

theorem sameLeaf_iff {v w : Value} :
    sameLeaf v w = true ↔ v.leafKey?.isSome ∧ v.leafKey? = w.leafKey? := by
  unfold sameLeaf leafKey?
  cases hv : v.numberView with
  | key j =>
    cases hw : w.numberView with
    | key k => simp
    | nan => simp
    | none => cases w <;> simp
  | nan => simp
  | none =>
    cases hw : w.numberView with
    | key k => cases v <;> simp
    | nan => cases v <;> simp
    | none => cases v <;> cases w <;> simp [Moment.same]

theorem sameLeaf_symm {v w : Value} (h : sameLeaf v w = true) : sameLeaf w v = true := by
  rw [sameLeaf_iff] at h ⊢
  exact ⟨h.2 ▸ h.1, h.2.symm⟩

theorem sameLeaf_trans {v w u : Value} (h : sameLeaf v w = true) (h' : sameLeaf w u = true) :
    sameLeaf v u = true := by
  rw [sameLeaf_iff] at h h' ⊢
  exact ⟨h.1, h.2.trans h'.2⟩

/-- Neither a list nor an object. -/
def isLeaf : Value → Bool
  | .list _ => false
  | .object _ => false
  | _ => true

theorem isLeaf_of_key {v : Value} (h : v.leafKey?.isSome) : v.isLeaf = true := by
  cases v with
  | list items => cases h
  | object fields => cases h
  | _ => rfl

theorem same_leaf {v : Value} (hv : v.isLeaf = true) (w : Value) : same v w = sameLeaf v w := by
  cases v with
  | list items => cases hv
  | object fields => cases hv
  | _ => rw [same]; all_goals exact nofun

/-! ## Lists and objects -/

/-- The items of two lists are equal, one by one. -/
def SameItems (vs ws : List Value) : Prop :=
  List.Forall₂ (fun v w => same v w = true) vs ws

/-- Every field has an equal one of the same name on the other side. -/
def SameFields (fields others : Fields) : Prop :=
  ∀ field ∈ fields, ∃ w, Bindings.get? others field.1 = some w ∧ same field.2 w = true

theorem sameItems_iff {vs ws : List Value} : sameItems vs ws = true ↔ SameItems vs ws := by
  unfold SameItems
  induction vs generalizing ws with
  | nil => cases ws <;> simp [sameItems]
  | cons v vs ih => cases ws <;> simp [sameItems, ih]

theorem sameFields_iff {fields others : Fields} :
    sameFields fields others = true ↔ SameFields fields others := by
  unfold SameFields
  induction fields with
  | nil => exact iff_of_true rfl nofun
  | cons field fields ih =>
    obtain ⟨name, v⟩ := field
    rw [sameFields, Bool.and_eq_true, ih, List.forall_mem_cons]
    cases Bindings.get? others name <;> simp

theorem same_list {vs : List Value} {w : Value} :
    same (.list vs) w = true ↔ ∃ ws, w = .list ws ∧ SameItems vs ws := by
  constructor
  · intro h
    cases w with
    | list ws => exact ⟨ws, rfl, sameItems_iff.mp (by rwa [same] at h)⟩
    | _ => rw [same, sameLeaf_iff] at h <;> first | cases h.1 | exact nofun
  · rintro ⟨ws, rfl, h⟩
    rwa [same, sameItems_iff]

theorem same_object {fields : Fields} {w : Value} :
    same (.object fields) w = true ↔
      ∃ others, w = .object others ∧ fields.length = others.length ∧ SameFields fields others := by
  constructor
  · intro h
    cases w with
    | object others =>
      rw [same, Bool.and_eq_true, sameFields_iff] at h
      exact ⟨others, rfl, eq_of_beq h.1, h.2⟩
    | _ => rw [same, sameLeaf_iff] at h <;> first | cases h.1 | exact nofun
  · rintro ⟨others, rfl, hlength, h⟩
    rw [same, hlength, beq_self_eq_true, Bool.true_and, sameFields_iff]
    exact h

theorem SameItems.symm {vs ws : List Value} (h : SameItems vs ws)
    (hsymm : ∀ v ∈ vs, ∀ w ∈ ws, same v w = true → same w v = true) : SameItems ws vs := by
  induction h with
  | nil => exact .nil
  | cons hvw hrest ih =>
    refine .cons (hsymm _ List.mem_cons_self _ List.mem_cons_self hvw) (ih ?_)
    exact fun v hv w hw => hsymm v (List.mem_cons_of_mem _ hv) w (List.mem_cons_of_mem _ hw)

theorem SameItems.trans {vs ws us : List Value} (h : SameItems vs ws) (h' : SameItems ws us)
    (htrans : ∀ v ∈ vs, ∀ w u, same v w = true → same w u = true → same v u = true) :
    SameItems vs us := by
  induction h generalizing us with
  | nil => exact h'
  | cons hvw hrest ih =>
    cases h' with
    | cons hwu hrest' =>
      refine .cons (htrans _ List.mem_cons_self _ _ hvw hwu) (ih hrest' ?_)
      exact fun v hv => htrans v (List.mem_cons_of_mem _ hv)

/-- Objects with as many fields of distinct names have the same names. -/
theorem SameFields.symm {fields others : Fields} (h : SameFields fields others)
    (hfields : (Bindings.names fields).Nodup) (hothers : (Bindings.names others).Nodup)
    (hlength : fields.length = others.length)
    (hsymm : ∀ field ∈ fields, ∀ other ∈ others, same field.2 other.2 = true →
      same other.2 field.2 = true) : SameFields others fields := by
  have hsubset : Bindings.names fields ⊆ Bindings.names others := by
    intro name hname
    obtain ⟨field, hfield, rfl⟩ := List.mem_map.mp hname
    obtain ⟨w, hw, -⟩ := h field hfield
    exact Bindings.isSome_get?_iff.mp (hw ▸ rfl)
  have hperm : (Bindings.names fields).Perm (Bindings.names others) := by
    refine (hfields.subperm hsubset).perm_of_length_le ?_
    rw [Bindings.names, Bindings.names, List.length_map, List.length_map]
    exact Nat.le_of_eq hlength.symm
  intro other hother
  have hname : other.1 ∈ Bindings.names fields := hperm.mem_iff.mpr (List.mem_map_of_mem hother)
  obtain ⟨v, hv⟩ := Bindings.exists_get? hname
  have hmem := Bindings.mem_of_get? hv
  obtain ⟨w, hw, hsame⟩ := h _ hmem
  rw [Bindings.get?_of_mem hothers hother] at hw
  cases hw
  exact ⟨v, hv, hsymm _ hmem other hother hsame⟩

theorem SameFields.trans {fields others more : Fields} (h : SameFields fields others)
    (h' : SameFields others more) (htrans : ∀ field ∈ fields, ∀ w u, same field.2 w = true →
      same w u = true → same field.2 u = true) : SameFields fields more := by
  intro field hfield
  obtain ⟨w, hw, hsame⟩ := h field hfield
  obtain ⟨u, hu, hsame'⟩ := h' _ (Bindings.mem_of_get? hw)
  exact ⟨u, hu, htrans field hfield w u hsame hsame'⟩

/-! ## Values -/

/-- All objects in a value have fields of distinct names. -/
inductive IsProper : Value → Prop
  | leaf {v : Value} (h : v.isLeaf = true) : IsProper v
  | list {items : List Value} (h : ∀ v ∈ items, IsProper v) : IsProper (.list items)
  | object {fields : Fields} (hnames : (Bindings.names fields).Nodup)
    (h : ∀ field ∈ fields, IsProper field.2) : IsProper (.object fields)

theorem same_symm {v w : Value} (hv : v.IsProper) (hw : w.IsProper) (h : same v w = true) :
    same w v = true := by
  induction hv generalizing w with
  | leaf hleaf =>
    rw [same_leaf hleaf] at h
    have hsymm := sameLeaf_symm h
    rwa [same_leaf (isLeaf_of_key (sameLeaf_iff.mp hsymm).1)]
  | list hitems ih =>
    obtain ⟨ws, rfl, hall⟩ := same_list.mp h
    cases hw with
    | leaf hleaf => cases hleaf
    | list hothers =>
      exact same_list.mpr ⟨_, rfl, hall.symm fun v hv w hw => ih v hv (hothers w hw)⟩
  | object hnames hfields ih =>
    obtain ⟨others, rfl, hlength, hall⟩ := same_object.mp h
    cases hw with
    | leaf hleaf => cases hleaf
    | object hnames' hothers =>
      refine same_object.mpr ⟨_, rfl, hlength.symm, hall.symm hnames hnames' hlength ?_⟩
      exact fun field hfield other hother => ih field hfield (hothers other hother)

theorem same_trans {v w u : Value} (hv : v.IsProper) (h : same v w = true) (h' : same w u = true) :
    same v u = true := by
  induction hv generalizing w u with
  | leaf hleaf =>
    rw [same_leaf hleaf] at h ⊢
    rw [same_leaf (isLeaf_of_key (sameLeaf_iff.mp (sameLeaf_symm h)).1)] at h'
    exact sameLeaf_trans h h'
  | list hitems ih =>
    obtain ⟨ws, rfl, hall⟩ := same_list.mp h
    obtain ⟨us, rfl, hall'⟩ := same_list.mp h'
    exact same_list.mpr ⟨us, rfl, hall.trans hall' fun v hv w u => ih v hv⟩
  | object hnames hfields ih =>
    obtain ⟨others, rfl, hlength, hall⟩ := same_object.mp h
    obtain ⟨more, rfl, hlength', hall'⟩ := same_object.mp h'
    exact same_object.mpr
      ⟨more, rfl, hlength.trans hlength', hall.trans hall' fun field hfield w u => ih field hfield⟩

/-- NaN is no number, and nothing equals it. -/
theorem same_nan (v : Value) : same (.real .nan) v = false := by
  rw [same_leaf rfl, ← Bool.not_eq_true, sameLeaf_iff]
  exact fun h => absurd h.1 (by decide)

end Clickstream.Value
