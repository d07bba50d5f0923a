import Clickstream.Proofs.Outcome
import Clickstream.Result.Normalize

/-!
# Normalized rows

Only texts are ever changed, and only in fields that hold neither identifiers nor texts: these keep
their values (`map_get_of_normalize`).  A row whose other fields hold no texts is normal
(`Schema.IsNormal`), and normalizing leaves it as it is (`normalize_of_isNormal`).
-/

namespace Clickstream.Schema

variable {schema : Schema}

/-- The texts of a row stand in fields that are never changed. -/
def IsNormal (schema : Schema) (row : Fields) : Prop :=
  ∀ field ∈ row, (∃ s, field.2 = .text s) → (schema.kindOf field.1).isFixed = true

theorem normalizeValue_of_fixed {field : String} {v : Value}
    (h : (∃ s, v = .text s) → (schema.kindOf field).isFixed = true) :
    schema.normalizeValue field v = .ok (v, []) := by
  unfold normalizeValue
  split
  · rfl
  · rw [if_pos (h ⟨_, rfl⟩)]
  · rfl

theorem normalizeRow_of_isNormal {row : Fields} (h : schema.IsNormal row) :
    schema.normalizeRow row = .ok (row, []) := by
  induction row with
  | nil => rfl
  | cons field row ih =>
    obtain ⟨hfield, hrow⟩ := List.forall_mem_cons.mp h
    rw [normalizeRow, normalizeValue_of_fixed hfield, Outcome.ok_bind]
    simp only [ih hrow, Outcome.ok_bind]
    rfl

/-- Normal rows stay as they are, and there is nothing to warn of. -/
theorem normalize_of_isNormal {rows : List Fields} (h : ∀ row ∈ rows, schema.IsNormal row) :
    schema.normalize rows = .ok (rows, []) := by
  induction rows with
  | nil => rfl
  | cons row rows ih =>
    obtain ⟨hrow, hrows⟩ := List.forall_mem_cons.mp h
    rw [normalize, normalizeRow_of_isNormal hrow, Outcome.ok_bind]
    simp only [ih hrows, Outcome.ok_bind]
    rfl

/-! ## Fields that keep their values -/

theorem get?_of_normalizeRow {field : String} (hfixed : (schema.kindOf field).isFixed = true)
    {row row' : Fields} {warnings : List NotNumeric}
    (h : schema.normalizeRow row = .ok (row', warnings)) : row'.get? field = row.get? field := by
  induction row generalizing row' warnings with
  | nil =>
    cases h
    rfl
  | cons binding row ih =>
    obtain ⟨⟨v, first⟩, hv, h⟩ := Outcome.bind_eq_ok.mp h
    obtain ⟨⟨rest, more⟩, hrest, h⟩ := Outcome.bind_eq_ok.mp h
    cases h
    by_cases hname : binding.1 = field
    · rw [hname, normalizeValue_of_fixed fun _ => hfixed] at hv
      cases hv
      rw [Bindings.get?, Bindings.get?, if_pos hname, if_pos hname]
    · rw [Bindings.get?, Bindings.get?, if_neg hname, if_neg hname, ih hrest]

/-- A field of identifiers or texts holds the same values in normalized rows. -/
theorem map_get_of_normalize {field : String} (hfixed : (schema.kindOf field).isFixed = true)
    {rows rows' : List Fields} {warnings : List NotNumeric}
    (h : schema.normalize rows = .ok (rows', warnings)) :
    rows'.map (Fields.get · field) = rows.map (Fields.get · field) := by
  induction rows generalizing rows' warnings with
  | nil =>
    cases h
    rfl
  | cons row rows ih =>
    obtain ⟨⟨first, w⟩, hfirst, h⟩ := Outcome.bind_eq_ok.mp h
    obtain ⟨⟨rest, more⟩, hrest, h⟩ := Outcome.bind_eq_ok.mp h
    cases h
    rw [List.map_cons, List.map_cons, ih hrest, Fields.get, Fields.get,
      get?_of_normalizeRow hfixed hfirst]

end Clickstream.Schema
