import Clickstream.Proofs.Json.RoundTrip
import Clickstream.Proofs.Value.Equality
import Clickstream.Value.Display

/-!
# Well-formed values

A value is well-formed if its doubles are in standard form and the fields of its objects have
distinct names.  Among the well-formed values, only byte strings and moments have no JSON text, and
only long integers have one that is not read again.  All others are values of JSON
(`Value.IsWellFormed.isJson`).
-/

namespace Clickstream

/-! ## Parts that are written -/

namespace Json

theorem exists_write_of_writeItems {items : List Value} {ts : List String}
    (h : writeItems items = .ok ts) : ∀ v ∈ items, ∃ t, write v = .ok t := by
  induction items generalizing ts with
  | nil => exact nofun
  | cons v items ih =>
    rw [writeItems] at h
    split at h
    · cases h
    · next t ht =>
      cases hitems : writeItems items with
      | error e =>
        rw [hitems] at h
        cases h
      | ok ts => exact List.forall_mem_cons.mpr ⟨⟨t, ht⟩, ih hitems⟩

theorem exists_write_of_writeFields {fields : Fields} {ts : List String}
    (h : writeFields fields = .ok ts) : ∀ field ∈ fields, ∃ t, write field.2 = .ok t := by
  induction fields generalizing ts with
  | nil => exact nofun
  | cons field fields ih =>
    rw [writeFields] at h
    split at h
    · cases h
    · next t ht =>
      cases hfields : writeFields fields with
      | error e =>
        rw [hfields] at h
        cases h
      | ok ts => exact List.forall_mem_cons.mpr ⟨⟨t, ht⟩, ih hfields⟩

end Json

namespace Value

/-! ## Values -/

/-- Doubles are in standard form, and the fields of objects have distinct names. -/
inductive IsWellFormed : Value → Prop
  | leaf {v : Value} (hleaf : v.isLeaf = true) (h : ∀ x, v = .real x → x.WellFormed) :
    IsWellFormed v
  | list {items : List Value} (h : ∀ v ∈ items, IsWellFormed v) : IsWellFormed (.list items)
  | object {fields : Fields} (hnames : (Bindings.names fields).Nodup)
    (h : ∀ field ∈ fields, IsWellFormed field.2) : IsWellFormed (.object fields)

theorem itemsHoldLong_eq_false {items : List Value} :
    itemsHoldLong items = false ↔ ∀ v ∈ items, v.holdsLong = false := by
  induction items with
  | nil => exact iff_of_true rfl nofun
  | cons v items ih => rw [itemsHoldLong, Bool.or_eq_false_iff, ih, List.forall_mem_cons]

theorem fieldsHoldLong_eq_false {fields : Fields} :
    fieldsHoldLong fields = false ↔ ∀ field ∈ fields, field.2.holdsLong = false := by
  induction fields with
  | nil => exact iff_of_true rfl nofun
  | cons field fields ih =>
    rw [fieldsHoldLong, Bool.or_eq_false_iff, ih, List.forall_mem_cons]

/-- Besides byte strings and moments, only long integers keep a value from being one of JSON. -/
theorem IsWellFormed.isJson {v : Value} (hv : v.IsWellFormed) (hlong : v.holdsLong = false)
    {t : String} (hwrite : Json.write v = .ok t) : Json.IsJson v := by
  induction hv generalizing t with
  | @leaf v hleaf h =>
    cases v with
    | null => exact .null
    | bool b => exact .bool b
    | int n => exact .int (not_lt.mp (of_decide_eq_false hlong))
    | real x => exact .real (h x rfl)
    | text s => exact .text s
    | bytes bs => cases hwrite
    | moment m => cases hwrite
    | list items => cases hleaf
    | object fields => cases hleaf
  | @list items h ih =>
    rw [Json.write] at hwrite
    cases hitems : Json.writeItems items with
    | error e =>
      rw [hitems] at hwrite
      cases hwrite
    | ok ts =>
      refine .list fun v hv => ?_
      obtain ⟨t, ht⟩ := Json.exists_write_of_writeItems hitems v hv
      exact ih v hv (itemsHoldLong_eq_false.mp hlong v hv) ht
  | @object fields hnames h ih =>
    rw [Json.write] at hwrite
    cases hfields : Json.writeFields fields with
    | error e =>
      rw [hfields] at hwrite
      cases hwrite
    | ok ts =>
      refine .object hnames fun field hfield => ?_
      obtain ⟨t, ht⟩ := Json.exists_write_of_writeFields hfields field hfield
      exact ih field hfield (fieldsHoldLong_eq_false.mp hlong field hfield) ht

end Value

end Clickstream
