import Mathlib.Data.List.Forall2
import Clickstream.Proofs.Json.Number
import Clickstream.Proofs.Json.Text
import Clickstream.Proofs.Query.Bindings

/-!
# Reading what was written

All values but byte strings and moments have a JSON text, and the text reads as the value
(`IsJson.exists_write`, `ReadsAs.readChars_eq`).  For the induction this is said of a text in front
of other characters that may follow a value (`ReadsAs`): a list is read item by item up to its
bracket, and an object field by field up to its brace, each with the fuel that the length of its own
text gives.
-/

namespace Clickstream.Json

open Text (IsPlain)

/-! ## Beginnings -/

/-- The characters begin an item of a list or a field of an object: neither with white space nor
with the mark behind the last one. -/
def BeginsItem (cs : List Char) : Prop :=
  ∃ c rest, cs = c :: rest ∧ isSpace c = false ∧ c ≠ ']' ∧ c ≠ '\x7d'

namespace BeginsItem

variable {cs : List Char}

theorem append (h : BeginsItem cs) (ds : List Char) : BeginsItem (cs ++ ds) := by
  obtain ⟨c, rest, rfl, hc⟩ := h
  exact ⟨c, rest ++ ds, rfl, hc⟩

theorem skipSpace_eq (h : BeginsItem cs) : skipSpace cs = cs := by
  obtain ⟨c, rest, rfl, hspace, -⟩ := h
  simp [skipSpace, hspace]

theorem readValue_bracket (h : BeginsItem cs) (fuel : Nat) :
    readValue (fuel + 1) ('[' :: cs) = (readItems fuel cs).map fun r => (.list r.1, r.2) := by
  obtain ⟨c, rest, rfl, hspace, hclose, -⟩ := h
  have hskip : skipSpace (c :: rest) = c :: rest := by simp [skipSpace, hspace]
  simp [readValue, hskip, hclose]

theorem readValue_brace (h : BeginsItem cs) (fuel : Nat) :
    readValue (fuel + 1) ('\x7b' :: cs) =
      (readFields fuel [] cs).map fun r => (.object r.1, r.2) := by
  obtain ⟨c, rest, rfl, hspace, -, hclose⟩ := h
  have hskip : skipSpace (c :: rest) = c :: rest := by simp [skipSpace, hspace]
  simp [readValue, hskip, hclose]

end BeginsItem

theorem skipSpace_comma (cs : List Char) : skipSpace (',' :: cs) = ',' :: cs := rfl

theorem skipSpace_colon (cs : List Char) : skipSpace (':' :: cs) = ':' :: cs := rfl

theorem skipSpace_brace (cs : List Char) : skipSpace ('\x7d' :: cs) = '\x7d' :: cs := rfl

theorem skipSpace_blank (cs : List Char) : skipSpace (' ' :: cs) = skipSpace cs := rfl

/-! ## Values -/

/-- The values of JSON: doubles are in standard form, integers have no more digits than are read,
and the fields of objects have distinct names. -/
inductive IsJson : Value → Prop
  | null : IsJson .null
  | bool (b : Bool) : IsJson (.bool b)
  | int {n : Int} (h : (Nat.toDigits 10 n.natAbs).length ≤ maxIntegerDigits) : IsJson (.int n)
  | real {x : Binary64} (h : x.WellFormed) : IsJson (.real x)
  | text (s : String) : IsJson (.text s)
  | list {items : List Value} (h : ∀ v ∈ items, IsJson v) : IsJson (.list items)
  | object {fields : Fields} (hnames : (Bindings.names fields).Nodup)
    (h : ∀ field ∈ fields, IsJson field.2) : IsJson (.object fields)

/-- A text that is read as a value, with anything behind it that may follow a value. -/
structure ReadsAs (t : String) (v : Value) : Prop where
  begins : BeginsItem t.toList
  isPlain : IsPlain t.toList
  read : ∀ fuel rest, EndsValue rest → 2 * t.toList.length ≤ fuel →
    readValue fuel (t.toList ++ rest) = .ok (v, rest)

/-- The text of a field of an object. -/
def ReadsAsField (s : String) (field : String × Value) : Prop :=
  ∃ t, s = writeText field.1 ++ ": " ++ t ∧ ReadsAs t field.2

/-! ## Texts -/

/-- There is enough fuel for a string: it is no longer than its written form. -/
theorem readString_quoted (s : String) (rest : List Char) :
    readString ((s.toList.flatMap writeChar ++ '"' :: rest).length + 1)
      (s.toList.flatMap writeChar ++ '"' :: rest) = .ok (s.toList, rest) := by
  refine readString_write ?_ rest
  have := length_le_flatMap_writeChar s.toList
  rw [List.length_append]
  omega

theorem readsAs_text (s : String) : ReadsAs (writeText s) (.text s) where
  begins := ⟨'"', _, toList_writeText s, by decide⟩
  isPlain := isPlain_writeText s
  read fuel rest _ hfuel := by
    rw [toList_writeText] at hfuel ⊢
    obtain ⟨fuel, rfl⟩ := Nat.exists_eq_succ_of_ne_zero (show fuel ≠ 0 by rintro rfl; cases hfuel)
    simp only [List.cons_append, List.append_assoc, List.nil_append, readValue, readString_quoted]
    simp [Except.map]

/-! ## Atoms -/

/-- Characters that no atom begins with: white space and the marks of other values. -/
def nonAtomic : List Char :=
  [' ', '\t', '\n', '\r', '"', '[', ']', '\x7b', '\x7d']

/-- A text of an atom that is read in front of what may follow it. -/
theorem readsAs_atom {t : String} {v : Value} {c : Char} {cs : List Char} (ht : t.toList = c :: cs)
    (hc : c ∉ nonAtomic) (hplain : IsPlain t.toList)
    (hread : ∀ rest, EndsValue rest → readAtom (t.toList ++ rest) = .ok (v, rest)) :
    ReadsAs t v := by
  simp only [nonAtomic, List.mem_cons, List.not_mem_nil, or_false, not_or] at hc
  obtain ⟨hblank, htab, hfeed, hreturn, hquote, hopen, hclose, hopenBrace, hcloseBrace⟩ := hc
  have hspace : isSpace c = false := by simp [isSpace, hblank, htab, hfeed, hreturn]
  refine ⟨⟨c, cs, ht, hspace, hclose, hcloseBrace⟩, hplain, fun fuel rest hrest hfuel => ?_⟩
  rw [ht, List.length_cons] at hfuel
  obtain ⟨fuel, rfl⟩ := Nat.exists_eq_succ_of_ne_zero (show fuel ≠ 0 by omega)
  rw [← hread rest hrest, ht, List.cons_append, readValue]
  · rintro _ ⟨⟩
    exact hquote rfl
  · rintro _ ⟨⟩
    exact hopen rfl
  · rintro _ ⟨⟩
    exact hopenBrace rfl

theorem readsAs_null : ReadsAs "null" .null :=
  readsAs_atom rfl (by decide) (by decide) fun _ _ => rfl

theorem readsAs_bool (b : Bool) : ReadsAs (if b then "true" else "false") (.bool b) := by
  cases b with
  | false => exact readsAs_atom rfl (by decide) (by decide) fun _ _ => rfl
  | true => exact readsAs_atom rfl (by decide) (by decide) fun _ _ => rfl

theorem readsAs_number {t : String} {v : Value} {negative : Bool} {cs : List Char}
    (ht : t.toList = signText negative ++ cs) (hbegins : BeginsDigit cs) (hplain : IsPlain cs)
    (hread : ∀ rest, EndsValue rest → readAtom (t.toList ++ rest) = .ok (v, rest)) :
    ReadsAs t v := by
  cases negative with
  | false =>
    obtain ⟨c, tail, rfl, hc⟩ := hbegins
    have hdigits : ∀ d ∈ nonAtomic, Text.isAsciiDigit d = false := by
      simp [nonAtomic, Text.isAsciiDigit]
    refine readsAs_atom ht (fun hmem => ?_) (ht ▸ hplain) hread
    rw [hdigits c hmem] at hc
    cases hc
  | true =>
    have hsigned : IsPlain ('-' :: cs) := List.forall_mem_cons.mpr ⟨by decide, hplain⟩
    exact readsAs_atom ht (by decide) (ht ▸ hsigned) hread

theorem readsAs_int {n : Int} (h : (Nat.toDigits 10 n.natAbs).length ≤ maxIntegerDigits) :
    ReadsAs (toString n) (.int n) := by
  have hwhole := isWhole_toDigits n.natAbs
  have hbegins := hwhole.beginsDigit []
  rw [List.append_nil] at hbegins
  exact readsAs_number (toList_toString n) hbegins (isDigits_toDigits _).isPlain
    fun rest => readAtom_int h

theorem readsAs_real {x : Binary64} (h : x.WellFormed) : ReadsAs (writeBinary64 x) (.real x) := by
  cases x with
  | nan => exact readsAs_atom rfl (by decide) (by decide) fun _ _ => rfl
  | infinite negative =>
    cases negative with
    | false => exact readsAs_atom rfl (by decide) (by decide) fun _ _ => rfl
    | true => exact readsAs_atom rfl (by decide) (by decide) fun _ _ => rfl
  | finite negative m e =>
    obtain ⟨text, x, hnotation, htext, -⟩ := exists_notation h
    exact readsAs_number (htext negative) hnotation.beginsDigit hnotation.isPlain
      fun rest => readAtom_real h

/-! ## Rows -/

theorem toList_intercalate_cons_cons (t u : String) (ts : List String) :
    (", ".intercalate (t :: u :: ts)).toList =
      t.toList ++ ',' :: ' ' :: (", ".intercalate (u :: ts)).toList := by
  simp [String.intercalate_cons_cons]

theorem isPlain_intercalate {ts : List String} (h : ∀ t ∈ ts, IsPlain t.toList) :
    IsPlain (", ".intercalate ts).toList := by
  induction ts with
  | nil => exact nofun
  | cons t ts ih =>
    obtain ⟨ht, hts⟩ := List.forall_mem_cons.mp h
    cases ts with
    | nil => simpa using ht
    | cons u ts =>
      have hsep : IsPlain [',', ' '] := by simp [IsPlain, Text.isPlainByte]
      rw [toList_intercalate_cons_cons]
      exact ht.append (hsep.append (ih hts))

theorem beginsItem_intercalate {t : String} (h : BeginsItem t.toList) (ts : List String) :
    BeginsItem (", ".intercalate (t :: ts)).toList := by
  cases ts with
  | nil => simpa using h
  | cons u ts =>
    rw [toList_intercalate_cons_cons]
    exact h.append _

/-! ## Lists -/

/-- The items of a list are read up to the closing bracket. -/
theorem readItems_intercalate {ts : List String} {items : List Value}
    (h : List.Forall₂ ReadsAs ts items) (hne : items ≠ []) {fuel : Nat}
    (hfuel : 2 * (", ".intercalate ts).toList.length < fuel) (rest : List Char) :
    readItems fuel ((", ".intercalate ts).toList ++ ']' :: rest) = .ok (items, rest) := by
  induction h generalizing fuel with
  | nil => exact absurd rfl hne
  | @cons t v ts items ht hts ih =>
    obtain ⟨fuel, rfl⟩ := Nat.exists_eq_succ_of_ne_zero (Nat.ne_of_gt (Nat.zero_lt_of_lt hfuel))
    cases hts with
    | nil =>
      rw [String.intercalate_singleton] at hfuel ⊢
      rw [readItems, ht.read fuel _ (endsValue_bracket rest) (by omega)]
      rfl
    | @cons u w us ws hu hus =>
      rw [toList_intercalate_cons_cons] at hfuel ⊢
      simp only [List.length_append, List.length_cons] at hfuel
      have hbegins := (beginsItem_intercalate hu.begins us).append (']' :: rest)
      have hread := ih (List.cons_ne_nil _ _) (show _ < fuel by omega)
      rw [List.append_assoc, List.cons_append, List.cons_append, readItems,
        ht.read fuel _ (endsValue_comma _) (by omega)]
      simp only [skipSpace_comma, skipSpace_blank, hbegins.skipSpace_eq, hread]
      rfl

theorem readsAs_list {ts : List String} {items : List Value} (h : List.Forall₂ ReadsAs ts items) :
    ReadsAs ("[" ++ ", ".intercalate ts ++ "]") (.list items) := by
  have htext : ("[" ++ ", ".intercalate ts ++ "]").toList =
      '[' :: ((", ".intercalate ts).toList ++ [']']) := by simp
  constructor
  · exact ⟨'[', _, htext, by decide⟩
  · have hitems : ∀ t ∈ ts, IsPlain t.toList :=
      ((List.forall₂_and_left ts items).mp (h.imp fun t v hv => ⟨hv.isPlain, hv⟩)).1
    rw [htext]
    refine List.forall_mem_cons.mpr ⟨by decide, (isPlain_intercalate hitems).append ?_⟩
    simp [IsPlain, Text.isPlainByte]
  · intro fuel rest _ hfuel
    rw [htext] at hfuel ⊢
    simp only [List.length_append, List.length_cons] at hfuel
    obtain ⟨fuel, rfl⟩ := Nat.exists_eq_succ_of_ne_zero (show fuel ≠ 0 by omega)
    rw [List.cons_append, List.append_assoc, List.singleton_append]
    cases h with
    | nil => rfl
    | cons ht hts =>
      rw [((beginsItem_intercalate ht.begins _).append _).readValue_bracket,
        readItems_intercalate (.cons ht hts) (List.cons_ne_nil _ _) (by omega)]
      rfl

/-! ## Objects -/

namespace ReadsAsField

variable {s : String} {field : String × Value}

theorem beginsItem (h : ReadsAsField s field) : BeginsItem s.toList := by
  obtain ⟨t, rfl, -⟩ := h
  rw [String.toList_append, String.toList_append, toList_writeText]
  exact ⟨'"', _, rfl, by decide⟩

theorem isPlain (h : ReadsAsField s field) : IsPlain s.toList := by
  obtain ⟨t, rfl, ht⟩ := h
  rw [String.toList_append, String.toList_append]
  exact ((isPlain_writeText _).append (by simp [IsPlain, Text.isPlainByte])).append ht.isPlain

/-- A field is its name, a colon and its value, whatever follows it. -/
theorem exists_read (h : ReadsAsField s field) {fuel : Nat} (hfuel : 2 * s.toList.length ≤ fuel)
    {rest : List Char} (hrest : EndsValue rest) :
    ∃ tail, s.toList ++ rest = '"' :: (field.1.toList.flatMap writeChar ++ '"' :: ':' :: tail) ∧
      readValue fuel (skipSpace tail) = .ok (field.2, rest) := by
  obtain ⟨t, rfl, ht⟩ := h
  rw [String.toList_append, String.toList_append, List.length_append] at hfuel
  refine ⟨' ' :: (t.toList ++ rest), by simp [toList_writeText], ?_⟩
  rw [skipSpace_blank, (ht.begins.append rest).skipSpace_eq]
  exact ht.read fuel rest hrest (by omega)

theorem readFields_brace (h : ReadsAsField s field) {fuel : Nat}
    (hfuel : 2 * s.toList.length ≤ fuel) {acc : Fields} (hname : field.1 ∉ Bindings.names acc)
    (rest : List Char) :
    readFields (fuel + 1) acc (s.toList ++ '\x7d' :: rest) = .ok (acc ++ [field], rest) := by
  obtain ⟨tail, htext, hread⟩ := h.exists_read hfuel (endsValue_brace rest)
  rw [htext, readFields]
  simp only [readString_quoted, skipSpace_colon, hread, skipSpace_brace, String.ofList_toList,
    Bindings.set_of_notMem hname]

theorem readFields_comma (h : ReadsAsField s field) {fuel : Nat}
    (hfuel : 2 * s.toList.length ≤ fuel) {acc : Fields} (hname : field.1 ∉ Bindings.names acc)
    (rest : List Char) :
    readFields (fuel + 1) acc (s.toList ++ ',' :: rest) =
      readFields fuel (acc ++ [field]) (skipSpace rest) := by
  obtain ⟨tail, htext, hread⟩ := h.exists_read hfuel (endsValue_comma rest)
  rw [htext, readFields]
  simp only [readString_quoted, skipSpace_colon, hread, skipSpace_comma, String.ofList_toList,
    Bindings.set_of_notMem hname]

end ReadsAsField

/-- The fields of an object are read up to the closing brace. -/
theorem readFields_intercalate {ss : List String} {fields : Fields}
    (h : List.Forall₂ ReadsAsField ss fields) (hne : fields ≠ []) {acc : Fields}
    (hnames : (Bindings.names (acc ++ fields)).Nodup) {fuel : Nat}
    (hfuel : 2 * (", ".intercalate ss).toList.length < fuel) (rest : List Char) :
    readFields fuel acc ((", ".intercalate ss).toList ++ '\x7d' :: rest) =
      .ok (acc ++ fields, rest) := by
  induction h generalizing acc fuel with
  | nil => exact absurd rfl hne
  | @cons s field ss fields hs hss ih =>
    obtain ⟨fuel, rfl⟩ := Nat.exists_eq_succ_of_ne_zero (Nat.ne_of_gt (Nat.zero_lt_of_lt hfuel))
    have hname : field.1 ∉ Bindings.names acc := by
      intro hmem
      rw [Bindings.names, List.map_append] at hnames
      exact (List.nodup_append.mp hnames).2.2 _ hmem _ List.mem_cons_self rfl
    cases hss with
    | nil =>
      rw [String.intercalate_singleton] at hfuel ⊢
      exact hs.readFields_brace (by omega) hname rest
    | @cons u w us ws hu hus =>
      rw [toList_intercalate_cons_cons] at hfuel ⊢
      simp only [List.length_append, List.length_cons] at hfuel
      have hbegins := (beginsItem_intercalate hu.beginsItem us).append ('\x7d' :: rest)
      rw [List.append_cons] at hnames
      have hread := ih (List.cons_ne_nil _ _) hnames (show _ < fuel by omega)
      rw [List.append_assoc, List.cons_append, List.cons_append,
        hs.readFields_comma (by omega) hname, skipSpace_blank, hbegins.skipSpace_eq, hread,
        ← List.append_cons]

theorem readsAs_object {ss : List String} {fields : Fields}
    (h : List.Forall₂ ReadsAsField ss fields) (hnames : (Bindings.names fields).Nodup) :
    ReadsAs ("\x7b" ++ ", ".intercalate ss ++ "\x7d") (.object fields) := by
  have htext : ("\x7b" ++ ", ".intercalate ss ++ "\x7d").toList =
      '\x7b' :: ((", ".intercalate ss).toList ++ ['\x7d']) := by simp
  constructor
  · exact ⟨'\x7b', _, htext, by decide⟩
  · have hfields : ∀ s ∈ ss, IsPlain s.toList :=
      ((List.forall₂_and_left ss fields).mp (h.imp fun s field hs => ⟨hs.isPlain, hs⟩)).1
    rw [htext]
    refine List.forall_mem_cons.mpr ⟨by decide, (isPlain_intercalate hfields).append ?_⟩
    simp [IsPlain, Text.isPlainByte]
  · intro fuel rest _ hfuel
    rw [htext] at hfuel ⊢
    simp only [List.length_append, List.length_cons] at hfuel
    obtain ⟨fuel, rfl⟩ := Nat.exists_eq_succ_of_ne_zero (show fuel ≠ 0 by omega)
    rw [List.cons_append, List.append_assoc, List.singleton_append]
    cases h with
    | nil => rfl
    | @cons s field ss fields hs hss =>
      rw [((beginsItem_intercalate hs.beginsItem _).append _).readValue_brace,
        readFields_intercalate (.cons hs hss) (List.cons_ne_nil _ _) hnames (by omega)]
      rfl

/-! ## Written values -/

theorem exists_writeItems {items : List Value} (h : ∀ v ∈ items, ∃ t, write v = .ok t ∧ ReadsAs t v) :
    ∃ ts, writeItems items = .ok ts ∧ List.Forall₂ ReadsAs ts items := by
  induction items with
  | nil => exact ⟨[], rfl, .nil⟩
  | cons v items ih =>
    obtain ⟨⟨t, ht, hv⟩, hitems⟩ := List.forall_mem_cons.mp h
    obtain ⟨ts, hts, hreads⟩ := ih hitems
    exact ⟨t :: ts, by rw [writeItems, ht, hts]; rfl, .cons hv hreads⟩

theorem exists_writeFields {fields : Fields}
    (h : ∀ field ∈ fields, ∃ t, write field.2 = .ok t ∧ ReadsAs t field.2) :
    ∃ ss, writeFields fields = .ok ss ∧ List.Forall₂ ReadsAsField ss fields := by
  induction fields with
  | nil => exact ⟨[], rfl, .nil⟩
  | cons field fields ih =>
    obtain ⟨⟨t, ht, hv⟩, hfields⟩ := List.forall_mem_cons.mp h
    obtain ⟨ss, hss, hreads⟩ := ih hfields
    exact ⟨_ :: ss, by rw [writeFields, ht, hss]; rfl, .cons ⟨t, rfl, hv⟩ hreads⟩

/-- A value of JSON has a written form, which reads as the value. -/
theorem IsJson.exists_write {v : Value} (h : IsJson v) : ∃ t, write v = .ok t ∧ ReadsAs t v := by
  induction h with
  | null => exact ⟨_, rfl, readsAs_null⟩
  | bool b => exact ⟨_, rfl, readsAs_bool b⟩
  | int h => exact ⟨_, rfl, readsAs_int h⟩
  | real h => exact ⟨_, rfl, readsAs_real h⟩
  | text s => exact ⟨_, rfl, readsAs_text s⟩
  | list _ ih =>
    obtain ⟨ts, hts, hreads⟩ := exists_writeItems ih
    exact ⟨_, by rw [write, hts]; rfl, readsAs_list hreads⟩
  | object hnames _ ih =>
    obtain ⟨ss, hss, hreads⟩ := exists_writeFields ih
    exact ⟨_, by rw [write, hss]; rfl, readsAs_object hreads hnames⟩

/-- A whole text is read as its value. -/
theorem ReadsAs.readChars_eq {t : String} {v : Value} (h : ReadsAs t v) :
    readChars t.toList = .ok v := by
  have hread := h.read (2 * t.toList.length + 2) [] endsValue_nil (by omega)
  rw [List.append_nil] at hread
  rw [readChars, h.begins.skipSpace_eq, hread]
  rfl

theorem ReadsAs.readText_eq {t : String} {v : Value} (h : ReadsAs t v) : readText t = .ok v := by
  have hread := h.readChars_eq
  obtain ⟨c, cs, hcs, -⟩ := h.begins
  have hc : Text.isPlainByte c = true := h.isPlain c (by rw [hcs]; exact List.mem_cons_self)
  rw [readText]
  rw [hcs] at hread ⊢
  split
  · next heq =>
    cases heq
    exact absurd hc (by decide)
  · exact hread

end Clickstream.Json
