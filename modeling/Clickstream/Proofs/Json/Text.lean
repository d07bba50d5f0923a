import Clickstream.Json.Reader
import Clickstream.Json.Writer
import Clickstream.Proofs.Text.Ascii
import Clickstream.Proofs.Text.Digits

/-!
# Texts in JSON

A text is written in printable ASCII (`isPlain_writeChar`), and reading undoes writing
(`readString_write`): every character is read back from its written form, whether this is the
character itself, an escape of one letter, the escape of its code, or the escapes of a pair of
surrogates (`readString_writeChar`).
-/

namespace Clickstream.Json

open Text (IsPlain hex isHighSurrogate isLowSurrogate charOfCode joinSurrogates)

/-! ## Codes -/

theorem hexValue?_digitChar : ∀ d < 16, hexValue? d.digitChar = some d := by decide

/-- Four hexadecimal digits are read back, if something follows. -/
theorem readUnit?_hex {n : Nat} (h : n < 0x10000) (c : Char) (rest : List Char) :
    readUnit? (hex 4 n ++ c :: rest) = some (n, c :: rest) := by
  have hvalue : (((n / 16 ^ 3) * 16 + n / 16 ^ 2 % 16) * 16 + n / 16 % 16) * 16 + n % 16 = n := by
    omega
  rw [Text.hex_four h]
  simp only [List.cons_append, List.nil_append, readUnit?]
  rw [hexValue?_digitChar _ (by omega), hexValue?_digitChar _ (by omega),
    hexValue?_digitChar _ (by omega), hexValue?_digitChar _ (by omega)]
  simp only [Option.bind_eq_bind, Option.bind_some, hvalue]
  rfl

theorem partner_unitEscape {n : Nat} (h : n < 0x10000) (c : Char) (rest : List Char) :
    partner (unitEscape n ++ c :: rest) = .unit n (c :: rest) := by
  have hread := readUnit?_hex h c rest
  rw [unitEscape]
  rw [Text.hex_four h] at hread ⊢
  simp only [List.cons_append, List.nil_append] at hread ⊢
  rw [partner, hread]

/-- The codes of characters leave out those of the surrogates. -/
theorem toNat_range (c : Char) : c.toNat < 0xd800 ∨ 0xdfff < c.toNat ∧ c.toNat < 0x110000 := by
  have h := c.valid
  simp only [UInt32.isValidChar, Nat.isValidChar] at h
  exact h

theorem charOfCode_toNat (c : Char) : charOfCode c.toNat = c := by
  have hvalid : c.toNat.isValidChar := c.valid
  rw [charOfCode, if_pos hvalid, Char.ofNat_toNat]

/-- The character of a single escape. -/
theorem readUnicodeEscape_single {ch : Char} (h : ch.toNat < 0x10000) (c : Char)
    (rest : List Char) :
    readUnicodeEscape (hex 4 ch.toNat ++ c :: rest) = .ok (ch, c :: rest) := by
  have hsurrogate : isHighSurrogate ch.toNat = false := by
    have := toNat_range ch
    simp only [isHighSurrogate, Bool.and_eq_false_iff, decide_eq_false_iff_not]
    omega
  rw [readUnicodeEscape, readUnit?_hex h]
  simp only [hsurrogate, charOfCode_toNat, Bool.false_eq_true, if_false]

/-- The character of the escapes of a pair of surrogates. -/
theorem readUnicodeEscape_pair {ch : Char} {high low : Nat} (h : 0x10000 ≤ ch.toNat)
    (hhigh : 0xd800 + (ch.toNat - 0x10000) / 0x400 = high)
    (hlow : 0xdc00 + (ch.toNat - 0x10000) % 0x400 = low) (c : Char) (rest : List Char) :
    readUnicodeEscape (hex 4 high ++ (unitEscape low ++ c :: rest)) = .ok (ch, c :: rest) := by
  have hrange := toNat_range ch
  have hisHigh : isHighSurrogate high = true := by
    simp only [isHighSurrogate, Bool.and_eq_true, decide_eq_true_eq]
    omega
  have hisLow : isLowSurrogate low = true := by
    simp only [isLowSurrogate, Bool.and_eq_true, decide_eq_true_eq]
    omega
  have hjoin : joinSurrogates high low = ch.toNat := by
    unfold joinSurrogates
    omega
  have hread : readUnit? (hex 4 high ++ (unitEscape low ++ c :: rest)) =
      some (high, unitEscape low ++ c :: rest) := by
    have hbound : high < 0x10000 := by omega
    rw [unitEscape, List.cons_append, readUnit?_hex hbound]
  rw [readUnicodeEscape, hread]
  simp only [hisHigh, if_true, partner_unitEscape (show low < 0x10000 by omega), hisLow, hjoin,
    charOfCode_toNat]

/-! ## Strings -/

theorem readString_unicodeEscape {cs rest : List Char} {ch : Char}
    (h : readUnicodeEscape cs = .ok (ch, rest)) (fuel : Nat) :
    readString (fuel + 1) ('\\' :: 'u' :: cs) =
      (readString fuel rest).map fun r => (ch :: r.1, r.2) := by
  simp only [readString, h]

/-- A character is read back from its written form, if something follows. -/
theorem readString_writeChar (fuel : Nat) (ch c : Char) (rest : List Char) :
    readString (fuel + 1) (writeChar ch ++ c :: rest) =
      (readString fuel (c :: rest)).map fun r => (ch :: r.1, r.2) := by
  unfold writeChar
  simp only [Bool.or_eq_true, Bool.and_eq_true, decide_eq_true_eq]
  split_ifs with hquote hfeed hreturn htab hback hform hshown hshort
  · rcases hquote with rfl | rfl <;> simp [readString, simpleEscape?]
  · simp [readString, simpleEscape?, hfeed]
  · simp [readString, simpleEscape?, hreturn]
  · simp [readString, simpleEscape?, htab]
  · simp [readString, simpleEscape?, hback]
  · simp [readString, simpleEscape?, hform]
  · rw [not_or] at hquote
    have hcontrol : ¬ ch.toNat < 32 := by omega
    rw [List.singleton_append, readString.eq_def]
    simp only
    split
    · next heq => cases heq
    · next heq => exact absurd (List.cons.inj heq).1 hquote.1
    · next heq => cases heq
    · next heq => exact absurd (List.cons.inj heq).1 hquote.2
    · next heq => exact absurd (List.cons.inj heq).1 hquote.2
    · next heq =>
      cases heq
      rw [if_neg hcontrol]
  · exact readString_unicodeEscape (readUnicodeEscape_single hshort c rest) fuel
  · generalize hhigh : 0xd800 + (ch.toNat - 0x10000) / 0x400 = high
    generalize hlow : 0xdc00 + (ch.toNat - 0x10000) % 0x400 = low
    have hread := readUnicodeEscape_pair (Nat.le_of_not_lt hshort) hhigh hlow c rest
    rw [unitEscape, List.append_assoc, List.cons_append, List.cons_append,
      readString_unicodeEscape hread]

theorem writeChar_ne_nil (c : Char) : writeChar c ≠ [] := by
  unfold writeChar
  split_ifs <;> exact List.cons_ne_nil _ _

/-- What is written takes at least one character for each. -/
theorem length_le_flatMap_writeChar (cs : List Char) :
    cs.length ≤ (cs.flatMap writeChar).length := by
  induction cs with
  | nil => exact Nat.le_refl 0
  | cons c cs ih =>
    have := List.length_pos_iff.mpr (writeChar_ne_nil c)
    rw [List.flatMap_cons, List.length_append, List.length_cons]
    omega

/-- A string is read back up to its closing quotation mark. -/
theorem readString_write {fuel : Nat} {cs : List Char} (h : cs.length < fuel) (rest : List Char) :
    readString fuel (cs.flatMap writeChar ++ '"' :: rest) = .ok (cs, rest) := by
  induction cs generalizing fuel with
  | nil =>
    obtain ⟨fuel, rfl⟩ := Nat.exists_eq_succ_of_ne_zero (Nat.ne_of_gt h)
    rfl
  | cons ch cs ih =>
    obtain ⟨fuel, rfl⟩ := Nat.exists_eq_succ_of_ne_zero (Nat.ne_of_gt (Nat.zero_lt_of_lt h))
    have hlt : cs.length < fuel := Nat.lt_of_succ_lt_succ h
    -- What follows a character is never empty: the closing mark is still to come.
    obtain ⟨c, tail, htail⟩ : ∃ c tail, cs.flatMap writeChar ++ '"' :: rest = c :: tail :=
      List.exists_cons_of_ne_nil (by simp)
    rw [List.flatMap_cons, List.append_assoc, htail, readString_writeChar, ← htail, ih hlt]
    rfl

/-! ## Written characters -/

theorem isPlainByte_digitChar : ∀ d < 16, Text.isPlainByte d.digitChar = true := by decide

theorem isPlain_unitEscape {n : Nat} (h : n < 0x10000) : IsPlain (unitEscape n) := by
  rw [unitEscape, Text.hex_four h]
  simp only [IsPlain, List.forall_mem_cons]
  refine ⟨by decide, by decide, ?_, ?_, ?_, ?_, nofun⟩
  all_goals exact isPlainByte_digitChar _ (by omega)

theorem isPlain_writeChar (c : Char) : IsPlain (writeChar c) := by
  unfold writeChar
  simp only [Bool.or_eq_true, Bool.and_eq_true, decide_eq_true_eq]
  split_ifs with hquote hfeed hreturn htab hback hform hshown hshort
  · rcases hquote with rfl | rfl <;> simp [IsPlain, Text.isPlainByte]
  · simp [IsPlain, Text.isPlainByte]
  · simp [IsPlain, Text.isPlainByte]
  · simp [IsPlain, Text.isPlainByte]
  · simp [IsPlain, Text.isPlainByte]
  · simp [IsPlain, Text.isPlainByte]
  · simpa [IsPlain, Text.isPlainByte] using hshown
  · exact isPlain_unitEscape hshort
  · have hrange := toNat_range c
    exact (isPlain_unitEscape (by omega)).append (isPlain_unitEscape (by omega))

/-- The characters of a written text. -/
theorem toList_writeText (s : String) :
    (writeText s).toList = '"' :: (s.toList.flatMap writeChar ++ ['"']) := by
  rw [writeText, String.toList_ofList, List.cons_append]

theorem isPlain_writeText (s : String) : IsPlain (writeText s).toList := by
  rw [toList_writeText]
  refine List.forall_mem_cons.mpr ⟨by decide, ?_⟩
  exact (IsPlain.flatMap fun c _ => isPlain_writeChar c).append (by simp [IsPlain, Text.isPlainByte])

end Clickstream.Json
