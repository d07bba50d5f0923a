import Mathlib.Data.List.Basic
import Clickstream.Text.Encoding
import Clickstream.Text.Quoted

/-!
# Printable ASCII

Texts of printable ASCII characters (`IsPlain`).  Their UTF-8 bytes are the codes of the characters
(`toUTF8_toList`), and as no byte is zero the bytes are recognised as UTF-8 and decode to the text
(`decode_toUTF8`).
-/

namespace Clickstream.Text

/-- All characters are printable ASCII characters. -/
def IsPlain (cs : List Char) : Prop :=
  ∀ c ∈ cs, isPlainByte c = true

instance (cs : List Char) : Decidable (IsPlain cs) :=
  decidable_of_iff (cs.all isPlainByte = true) List.all_eq_true

theorem isPlainByte_iff {c : Char} : isPlainByte c = true ↔ 32 ≤ c.toNat ∧ c.toNat < 127 := by
  simp [isPlainByte]

namespace IsPlain

variable {cs ds : List Char}

theorem append (hcs : IsPlain cs) (hds : IsPlain ds) : IsPlain (cs ++ ds) := by
  intro c hc
  rcases List.mem_append.mp hc with hc | hc
  · exact hcs c hc
  · exact hds c hc

theorem flatMap {α : Type} {xs : List α} {f : α → List Char} (h : ∀ x ∈ xs, IsPlain (f x)) :
    IsPlain (xs.flatMap f) := by
  intro c hc
  obtain ⟨x, hx, hc⟩ := List.mem_flatMap.mp hc
  exact h x hx c hc

/-! ## Bytes -/

theorem utf8EncodeChar_eq {c : Char} (h : isPlainByte c = true) :
    String.utf8EncodeChar c = [c.toUInt8] := by
  have hc := isPlainByte_iff.mp h
  have hval : c.toNat = c.val.toNat := rfl
  have hsize : c.utf8Size = 1 := by
    rw [Char.utf8Size_eq_one_iff, UInt32.le_iff_toNat_le]
    show c.val.toNat ≤ 127
    omega
  rw [String.utf8EncodeChar_eq_singleton hsize]
  rfl

theorem flatMap_utf8EncodeChar (h : IsPlain cs) :
    cs.flatMap String.utf8EncodeChar = cs.map Char.toUInt8 := by
  induction cs with
  | nil => rfl
  | cons c cs ih =>
    obtain ⟨hc, hcs⟩ := List.forall_mem_cons.mp h
    rw [List.flatMap_cons, utf8EncodeChar_eq hc, ih hcs]
    rfl

theorem toNat_toUInt8 {c : Char} (h : isPlainByte c = true) : c.toUInt8.toNat = c.toNat := by
  have hc := isPlainByte_iff.mp h
  have hval : c.toNat = c.val.toNat := rfl
  show c.val.toUInt8.toNat = _
  rw [UInt32.toNat_toUInt8]
  omega

theorem decodeUtf8_map (h : IsPlain cs) (pos : Nat) :
    decodeUtf8 pos (cs.map Char.toUInt8) = .ok cs := by
  induction cs generalizing pos with
  | nil => rfl
  | cons c cs ih =>
    obtain ⟨hc, hcs⟩ := List.forall_mem_cons.mp h
    have hlt : c.toUInt8 < 0x80 := by
      rw [UInt8.lt_iff_toNat_lt, toNat_toUInt8 hc]
      have := isPlainByte_iff.mp hc
      show c.toNat < 128
      omega
    rw [List.map_cons, decodeUtf8.eq_def]
    simp only [hlt, if_true, ih hcs, toNat_toUInt8 hc, Char.ofNat_toNat]
    rfl

end IsPlain

/-! ## Detection -/

/-- All bytes are codes of ASCII characters, and none is zero. -/
def IsAscii (bytes : List UInt8) : Prop :=
  ∀ b ∈ bytes, b ≠ 0 ∧ b < 0x80

namespace IsAscii

variable {bytes : List UInt8}

theorem ne_zero {a b : UInt8} (h : IsAscii (a :: b :: bytes)) : a ≠ 0 ∧ b ≠ 0 :=
  ⟨(h a List.mem_cons_self).1, (h b (List.mem_cons_of_mem _ List.mem_cons_self)).1⟩

theorem ofZeros_eq (h : IsAscii bytes) : Encoding.ofZeros bytes = .utf8 := by
  unfold Encoding.ofZeros
  split
  · obtain ⟨ha, hb⟩ := h.ne_zero
    rw [if_neg ha, if_neg hb]
  · obtain ⟨ha, hb⟩ := h.ne_zero
    rw [if_neg ha, if_neg hb]
  · rfl

theorem exists_mem_mark : ∀ mark ∈ Encoding.marks, ∃ b ∈ mark.1, ¬ (b ≠ 0 ∧ b < 0x80) := by
  decide

/-- Such bytes are recognised as UTF-8 without a mark. -/
theorem detect_eq (h : IsAscii bytes) : Encoding.detect bytes = (.utf8, 0) := by
  have hmarks : Encoding.marks.find? (fun mark => mark.1.isPrefixOf bytes) = none := by
    refine List.find?_eq_none.mpr fun mark hmark hprefix => ?_
    obtain ⟨b, hb, hnot⟩ := exists_mem_mark mark hmark
    exact hnot (h b ((List.isPrefixOf_iff_prefix.mp hprefix).subset hb))
  rw [Encoding.detect, hmarks, h.ofZeros_eq]

end IsAscii

theorem IsPlain.isAscii {cs : List Char} (h : IsPlain cs) : IsAscii (cs.map Char.toUInt8) := by
  intro b hb
  obtain ⟨c, hc, rfl⟩ := List.mem_map.mp hb
  have hcode := IsPlain.toNat_toUInt8 (h c hc)
  have hrange := isPlainByte_iff.mp (h c hc)
  constructor
  · intro hzero
    rw [hzero] at hcode
    have : (0 : UInt8).toNat = 0 := rfl
    omega
  · rw [UInt8.lt_iff_toNat_lt]
    show c.toUInt8.toNat < 128
    omega

theorem toUTF8_toList {t : String} (h : IsPlain t.toList) :
    t.toUTF8.data.toList = t.toList.map Char.toUInt8 := by
  rw [← h.flatMap_utf8EncodeChar]
  conv_lhs => rw [← String.ofList_toList (s := t), String.toUTF8_eq_toByteArray]
  exact List.toList_data_toByteArray

/-- A printable ASCII text is decoded from its bytes. -/
theorem decode_toUTF8 {t : String} (h : IsPlain t.toList) :
    decode t.toUTF8.data.toList = .ok t.toList := by
  rw [toUTF8_toList h, decode, h.isAscii.detect_eq]
  exact h.decodeUtf8_map 0

end Clickstream.Text
