import Clickstream.Filter.Reader
import Clickstream.Proofs.Json.Faults
import Clickstream.Proofs.Outcome

/-!
# Refused filters

Once the payload of a request is decoded, its filters are read or refused (`readList_refuses`), and
a text that is not JSON is refused, too.  Two faults come before that and are passed on as they are:
bytes that are no text in their encoding, and an integer with more digits than are read (`Unread`).
-/

namespace Clickstream.Filter

open Outcome
open Json (HoldsLong holdsLong_of_readChars holdsLong_of_readText)

/-! ## Decoded filters -/

theorem readValues_refuses (v : Value) : Refuses (readValues v) := by
  unfold readValues
  split
  · exact .reject _
  · split
    · exact .ok _
    · exact .reject _
  · exact .reject _

theorem readParameter_refuses (v : Value) : Refuses (readParameter v) := by
  unfold readParameter
  split
  · split
    · exact .ok _
    · exact .reject _
  · exact .reject _

theorem readKind_refuses (v : Value) : Refuses (readKind v) := by
  unfold readKind
  split
  · exact .ok _
  · exact .reject _

theorem ofValue_refuses (v : Value) : Refuses (ofValue v) := by
  unfold ofValue
  split
  · split
    · exact .bind (readParameter_refuses _) fun _ _ => .bind (readKind_refuses _) fun _ _ =>
        .bind (readValues_refuses _) fun _ _ => .ok _
    · exact .reject _
  · exact .reject _

theorem readAll_refuses (items : List Value) : Refuses (readAll items) := by
  induction items with
  | nil => exact .ok _
  | cons v rest ih =>
    exact .bind (ofValue_refuses v) fun _ _ => .bind ih fun _ _ => .ok _

theorem readList_refuses (v : Value) : Refuses (readList v) := by
  unfold readList
  split
  · exact readAll_refuses _
  · exact .reject _

/-! ## Payloads -/

/-- Behind the decoding, only an integer that is too long is no refusal. -/
theorem readDecoded_failsOnly {P : Failure → Prop} {read : Except Json.ReadFault Value}
    (hreject : ∀ r, P (.rejected r))
    (hlong : ∀ n, read = .error (.longInteger n) → P (.fault (.integerDigits n))) :
    FailsOnly P (decoded read >>= readList) := by
  refine .bind ?_ fun v _ => FailsOnly.mono (readList_refuses v) ?_
  · match read with
    | .ok v => exact .ok v
    | .error (.malformed m) => exact .error (hreject _)
    | .error (.longInteger n) => exact .error (hlong n rfl)
  · rintro _ ⟨r, rfl⟩
    exact hreject r

/-- The characters of a payload that is a text or bytes of one. -/
def characters? : Value → Option (List Char)
  | .text s => some s.toList
  | .bytes bytes => (Text.decode bytes).toOption
  | _ => none

/-- A payload cannot be looked at: its bytes are no text, or an integer is too long to be read. -/
inductive Unread : Value → Fault → Prop
  | undecodable {bytes : List UInt8} {fault : Text.DecodeFault}
    (h : Text.decode bytes = .error fault) : Unread (.bytes bytes) (.undecodable fault)
  | integerInBytes {bytes : List UInt8} {cs : List Char} {n : Nat}
    (hdecode : Text.decode bytes = .ok cs) (h : Json.readChars cs = .error (.longInteger n)) :
    Unread (.bytes bytes) (.integerDigits n)
  | integerInText {s : String} {n : Nat} (h : Json.readText s = .error (.longInteger n)) :
    Unread (.text s) (.integerDigits n)

variable {payload : Value} {fault : Fault}

/-- A request fails because it is refused or because its payload cannot be looked at. -/
theorem readRequest_failsOnly (payload : Value) :
    FailsOnly (fun e => (∃ r, e = .rejected r) ∨ ∃ fault, e = .fault fault ∧ Unread payload fault)
      (readRequest payload) := by
  unfold readRequest
  split
  · exact .ok _
  · exact .ok _
  · exact .ok _
  · exact readDecoded_failsOnly (fun r => .inl ⟨r, rfl⟩) fun n h =>
      .inr ⟨_, rfl, .integerInText h⟩
  · split
    · next hdecode => exact .error (.inr ⟨_, rfl, .undecodable hdecode⟩)
    · next hdecode =>
      exact readDecoded_failsOnly (fun r => .inl ⟨r, rfl⟩) fun n h =>
        .inr ⟨_, rfl, .integerInBytes hdecode h⟩
  · exact FailsOnly.mono (readList_refuses payload) fun _ => .inl

theorem readRequest_text_of_ne {s : String} (h : s ≠ "") :
    readRequest (.text s) = (decoded (Json.readText s) >>= readList) := by
  rw [readRequest]
  exact h

theorem readRequest_bytes_of_ne {bytes : List UInt8} (h : bytes ≠ []) :
    readRequest (.bytes bytes) = match Text.decode bytes with
      | .error fault => raise (.undecodable fault)
      | .ok cs => decoded (Json.readChars cs) >>= readList := by
  cases bytes with
  | nil => exact absurd rfl h
  | cons b bytes => rfl

/-- A payload that cannot be looked at is not empty, so it is not taken as one without filters. -/
theorem Unread.readRequest_eq (h : Unread payload fault) :
    readRequest payload = .error (.fault fault) := by
  cases h with
  | @undecodable bytes _ h =>
    have hne : bytes ≠ [] := by
      rintro rfl
      cases h
    rw [readRequest_bytes_of_ne hne, h]
    rfl
  | @integerInBytes bytes cs n hdecode h =>
    have hne : bytes ≠ [] := by
      rintro rfl
      cases hdecode
      cases h
    rw [readRequest_bytes_of_ne hne, hdecode]
    dsimp only
    rw [h]
    rfl
  | @integerInText s n h =>
    have hne : s ≠ "" := by
      rintro rfl
      cases h
    rw [readRequest_text_of_ne hne, h]
    rfl

/-- The digits of an integer that is too long stand in the payload. -/
theorem Unread.holdsLong {n : Nat} (h : Unread payload (.integerDigits n)) :
    ∃ cs, characters? payload = some cs ∧ HoldsLong n cs := by
  cases h with
  | @integerInBytes bytes cs _ hdecode h =>
    refine ⟨cs, ?_, holdsLong_of_readChars h⟩
    rw [characters?, hdecode]
    rfl
  | integerInText h => exact ⟨_, rfl, holdsLong_of_readText h⟩

/-- Reading the filters of a request fails because the request is refused, or because its payload
cannot be looked at; if an integer is the reason, its digits stand in the payload. -/
theorem readRequest_refuses_or_unread (payload : Value) :
    FailsOnly (fun e => (∃ r, e = .rejected r) ∨ (∃ fault, e = .fault (.undecodable fault)) ∨
        ∃ n cs, e = .fault (.integerDigits n) ∧ characters? payload = some cs ∧ HoldsLong n cs)
      (readRequest payload) ∧
    ∀ fault, readRequest payload = .error (.fault fault) ↔ Unread payload fault := by
  have honly := readRequest_failsOnly payload
  refine ⟨honly.mono ?_, fun fault => ⟨fun h => ?_, Unread.readRequest_eq⟩⟩
  · rintro e (hrejected | ⟨fault, rfl, hunread⟩)
    · exact .inl hrejected
    · cases fault with
      | undecodable fault => exact .inr (.inl ⟨fault, rfl⟩)
      | integerDigits n =>
        obtain ⟨cs, hcs, hlong⟩ := hunread.holdsLong
        exact .inr (.inr ⟨n, cs, rfl, hcs, hlong⟩)
      | _ => cases hunread
  · obtain ⟨r, hr⟩ | ⟨fault', heq, hunread⟩ := honly _ h
    · cases hr
    · cases heq
      exact hunread

/-- A byte that begins no character is passed on as a fault of the decoding, not refused. -/
theorem invalidByte_not_refused :
    readRequest (.bytes [0xff]) = .error (.fault (.undecodable ⟨.utf8, 0, [0xff], .startByte⟩)) ∧
    ¬ Refuses (readRequest (.bytes [0xff])) := by
  have hfault : readRequest (.bytes [0xff]) =
    .error (.fault (.undecodable ⟨.utf8, 0, [0xff], .startByte⟩)) := rfl
  refine ⟨hfault, fun hrefuses => ?_⟩
  obtain ⟨r, hr⟩ := hrefuses _ hfault
  cases hr

end Clickstream.Filter
