import Clickstream.Proofs.Json.Number

/-!
# Faults of JSON texts

A reader takes characters from the front of a text and leaves an end of it.  A text that cannot be
read is malformed, or it holds an integer with more digits than are read, and then these digits
stand side by side in the text.  Both are said together of one step (`Within`), and by induction on
the fuel of values, items and fields (`within_read`).
-/

namespace Clickstream.Json

variable {α β : Type} {cs ds rest : List Char} {n : Nat}

/-- So many digits stand side by side in a text, and they are too many for an integer. -/
structure HoldsLong (n : Nat) (cs : List Char) : Prop where
  long : maxIntegerDigits < n
  digits : ∃ run, run <:+: cs ∧ IsDigits run ∧ run.length = n

theorem HoldsLong.mono (h : HoldsLong n cs) (hcs : cs <:+ ds) : HoldsLong n ds := by
  obtain ⟨run, hrun, hdigits⟩ := h.digits
  exact ⟨h.long, run, hrun.trans hcs.isInfix, hdigits⟩

/-- A step stays within a text: it leaves an end of the text, and an integer that it finds too long
stands in the text. -/
structure Within (cs : List Char) (step : Step α) : Prop where
  rest : ∀ {v rest}, step = .ok (v, rest) → rest <:+ cs
  long : ∀ {n}, step = .error (.longInteger n) → HoldsLong n cs

namespace Within

theorem ok {v : α} (h : rest <:+ cs) : Within cs (.ok (v, rest)) where
  rest := by
    rintro _ _ ⟨⟩
    exact h
  long := nofun

theorem fail (m : Malformed) : Within cs (Json.fail m : Step α) where
  rest := nofun
  long := nofun

variable {step : Step α}

theorem mono (h : Within cs step) (hcs : cs <:+ ds) : Within ds step where
  rest heq := (h.rest heq).trans hcs
  long heq := (h.long heq).mono hcs

theorem map (h : Within cs step) (f : α → β) : Within cs (step.map fun r => (f r.1, r.2)) := by
  cases step with
  | ok r => exact ok (h.rest rfl)
  | error e =>
    refine ⟨nofun, ?_⟩
    rintro n ⟨⟩
    exact h.long rfl

/-- A fault is passed on. -/
theorem error {e : ReadFault} (h : Within cs step) (he : step = .error e) :
    Within cs (.error e : Step β) := by
  refine ⟨nofun, ?_⟩
  rintro n ⟨⟩
  exact h.long he

end Within

theorem skipSpace_suffix (cs : List Char) : skipSpace cs <:+ cs :=
  List.dropWhile_suffix _

/-- What stands behind a token and white space is an end of the text, too. -/
theorem suffix_of_skipSpace {c : Char} (h : skipSpace cs = c :: rest) : rest <:+ cs :=
  (List.suffix_cons c rest).trans (h ▸ skipSpace_suffix cs)

/-! ## Strings -/

theorem readUnit?_suffix (h : readUnit? cs = some (n, rest)) : rest <:+ cs := by
  unfold readUnit? at h
  split at h
  · next a b c d e tail =>
    obtain ⟨_, -, h⟩ := Option.bind_eq_some_iff.mp h
    obtain ⟨_, -, h⟩ := Option.bind_eq_some_iff.mp h
    obtain ⟨_, -, h⟩ := Option.bind_eq_some_iff.mp h
    obtain ⟨_, -, h⟩ := Option.bind_eq_some_iff.mp h
    cases h
    exact List.suffix_append [a, b, c, d] _
  · cases h

theorem partner_suffix (h : partner cs = .unit n rest) : rest <:+ cs := by
  unfold partner at h
  split at h
  · split at h
    · next hunit =>
      cases h
      exact (readUnit?_suffix hunit).trans (List.suffix_append ['\\', 'u'] _)
    · cases h
  · cases h

theorem within_readUnicodeEscape (cs : List Char) : Within cs (readUnicodeEscape cs) := by
  unfold readUnicodeEscape
  split
  · exact .fail _
  · next hunit =>
    have hrest := readUnit?_suffix hunit
    split
    · split
      · exact .fail _
      · next hpartner =>
        split
        · exact .ok ((partner_suffix hpartner).trans hrest)
        · exact .ok hrest
      · exact .ok hrest
    · exact .ok hrest

theorem within_readString (fuel : Nat) (cs : List Char) : Within cs (readString fuel cs) := by
  induction fuel generalizing cs with
  | zero => exact .fail _
  | succ fuel ih =>
    unfold readString
    split
    · exact .fail _
    · exact .ok (List.suffix_cons _ _)
    · exact .fail _
    · next tail =>
      have hescape := (within_readUnicodeEscape tail).mono (List.suffix_append ['\\', 'u'] tail)
      split
      · next heq => exact hescape.error heq
      · next heq => exact ((ih _).map _).mono (hescape.rest heq)
    · next c tail _ =>
      split
      · exact .fail _
      · exact ((ih _).map _).mono (List.suffix_append ['\\', c] tail)
    · split
      · exact .fail _
      · exact ((ih _).map _).mono (List.suffix_cons _ _)

/-! ## Numbers -/

theorem isDigits_spanAsciiDigits (cs : List Char) : IsDigits (spanAsciiDigits cs).1 := by
  rw [spanAsciiDigits, List.span_eq_takeWhile_dropWhile]
  exact List.all_eq_true.mp List.all_takeWhile

theorem spanAsciiDigits_fst_append_snd (cs : List Char) :
    (spanAsciiDigits cs).1 ++ (spanAsciiDigits cs).2 = cs := by
  rw [spanAsciiDigits, List.span_eq_takeWhile_dropWhile]
  exact List.takeWhile_append_dropWhile

theorem spanAsciiDigits_suffix (h : spanAsciiDigits cs = (ds, rest)) : rest <:+ cs := by
  have happend := spanAsciiDigits_fst_append_snd cs
  rw [h] at happend
  exact ⟨ds, happend⟩

/-- The whole part of a number is made of the digits that the text begins with. -/
theorem append_of_readWhole? (h : readWhole? cs = some (ds, rest)) :
    ds ++ rest = cs ∧ IsDigits ds := by
  unfold readWhole? at h
  split at h
  · cases h
    exact ⟨rfl, List.forall_mem_singleton.mpr rfl⟩
  · next c tail _ =>
    split at h
    · next hc =>
      cases h
      exact ⟨congrArg (c :: ·) (spanAsciiDigits_fst_append_snd tail),
        List.forall_mem_cons.mpr ⟨hc, isDigits_spanAsciiDigits tail⟩⟩
    · cases h
  · cases h

theorem readFraction?_suffix (h : readFraction? cs = some (ds, rest)) : rest <:+ cs := by
  unfold readFraction? at h
  split at h
  · split at h
    · cases h
    · next hspan =>
      cases h
      exact (spanAsciiDigits_suffix hspan).trans (List.suffix_cons _ _)
  · cases h

theorem spanSign_suffix (cs : List Char) : (Numeral.spanSign cs).2 <:+ cs := by
  unfold Numeral.spanSign
  split
  · exact List.suffix_cons _ _
  · exact List.suffix_cons _ _
  · exact List.suffix_rfl

theorem readExponent?_suffix {e : Int} (h : readExponent? cs = some (e, rest)) : rest <:+ cs := by
  unfold readExponent? at h
  split at h
  · next c tail =>
    split at h
    · dsimp only at h
      split at h
      · cases h
      · next hspan =>
        cases h
        exact (spanAsciiDigits_suffix hspan).trans
          ((spanSign_suffix tail).trans (List.suffix_cons c tail))
    · cases h
  · cases h

theorem within_readNumber (negative : Bool) (cs : List Char) :
    Within cs (readNumber negative cs) := by
  unfold readNumber
  split
  · exact .fail _
  · next whole rest hwhole =>
    obtain ⟨rfl, hdigits⟩ := append_of_readWhole? hwhole
    have hrest : rest <:+ whole ++ rest := List.suffix_append whole rest
    split
    · split
      · next hlong =>
        refine ⟨nofun, ?_⟩
        rintro n ⟨⟩
        exact ⟨hlong, whole, (List.prefix_append whole rest).isInfix, hdigits, rfl⟩
      · exact .ok hrest
    · next hexponent => exact .ok ((readExponent?_suffix hexponent).trans hrest)
    · next hfraction =>
      have hfraction := (readFraction?_suffix hfraction).trans hrest
      dsimp only
      split
      · exact .ok hfraction
      · next hexponent => exact .ok ((readExponent?_suffix hexponent).trans hfraction)

/-! ## Values -/

theorem within_readAtom (cs : List Char) : Within cs (readAtom cs) := by
  unfold readAtom
  split
  · exact .ok (List.suffix_append ['n', 'u', 'l', 'l'] _)
  · exact .ok (List.suffix_append ['t', 'r', 'u', 'e'] _)
  · exact .ok (List.suffix_append ['f', 'a', 'l', 's', 'e'] _)
  · exact .ok (List.suffix_append ['N', 'a', 'N'] _)
  · exact .ok (List.suffix_append ['I', 'n', 'f', 'i', 'n', 'i', 't', 'y'] _)
  · exact .ok (List.suffix_append ['-', 'I', 'n', 'f', 'i', 'n', 'i', 't', 'y'] _)
  · exact (within_readNumber true _).mono (List.suffix_cons _ _)
  · exact within_readNumber false cs

/-- Reading stays within the text, at every depth. -/
theorem within_read (fuel : Nat) :
    (∀ cs, Within cs (readValue fuel cs)) ∧ (∀ cs, Within cs (readItems fuel cs)) ∧
      ∀ fields cs, Within cs (readFields fuel fields cs) := by
  induction fuel with
  | zero => exact ⟨fun _ => .fail _, fun _ => .fail _, fun _ _ => .fail _⟩
  | succ fuel ih =>
    obtain ⟨hvalue, hitems, hfields⟩ := ih
    refine ⟨fun cs => ?_, fun cs => ?_, fun fields cs => ?_⟩
    · unfold readValue
      split
      · exact ((within_readString _ _).map fun s => Value.text (String.ofList s)).mono
          (List.suffix_cons _ _)
      · next tail =>
        have htail : tail <:+ '[' :: tail := List.suffix_cons _ _
        split
        · next hskip => exact .ok ((suffix_of_skipSpace hskip).trans htail)
        · exact ((hitems _).map _).mono ((skipSpace_suffix tail).trans htail)
      · next tail =>
        have htail : tail <:+ '\x7b' :: tail := List.suffix_cons _ _
        split
        · next hskip => exact .ok ((suffix_of_skipSpace hskip).trans htail)
        · exact ((hfields _ _).map _).mono ((skipSpace_suffix tail).trans htail)
      · exact within_readAtom cs
    · unfold readItems
      split
      · next heq => exact (hvalue cs).error heq
      · next heq =>
        have hrest := (hvalue cs).rest heq
        split
        · next hskip => exact .ok ((suffix_of_skipSpace hskip).trans hrest)
        · next hskip =>
          exact ((hitems _).map _).mono
            ((skipSpace_suffix _).trans ((suffix_of_skipSpace hskip).trans hrest))
        · exact .fail _
    · unfold readFields
      split
      · next tail =>
        have hname := (within_readString (tail.length + 1) tail).mono (List.suffix_cons '"' tail)
        split
        · next heq => exact hname.error heq
        · next heq =>
          have hrest := hname.rest heq
          split
          · next hskip =>
            have hcolon := (suffix_of_skipSpace hskip).trans hrest
            have hmember := (hvalue _).mono ((skipSpace_suffix _).trans hcolon)
            split
            · next heq => exact hmember.error heq
            · next heq =>
              have hrest := hmember.rest heq
              dsimp only
              split
              · next hskip => exact .ok ((suffix_of_skipSpace hskip).trans hrest)
              · next hskip =>
                exact (hfields _ _).mono
                  ((skipSpace_suffix _).trans ((suffix_of_skipSpace hskip).trans hrest))
              · exact .fail _
          · exact .fail _
      · exact .fail _

/-- An integer that is too long to be read stands in the text. -/
theorem holdsLong_of_readChars (h : readChars cs = .error (.longInteger n)) : HoldsLong n cs := by
  have hwithin := ((within_read (2 * cs.length + 2)).1 (skipSpace cs)).mono (skipSpace_suffix cs)
  unfold readChars at h
  split at h
  · next heq =>
    cases h
    exact hwithin.long heq
  · split at h
    · cases h
    · cases h

theorem holdsLong_of_readText {s : String} (h : readText s = .error (.longInteger n)) :
    HoldsLong n s.toList := by
  unfold readText at h
  split at h
  · cases h
  · exact holdsLong_of_readChars h

end Clickstream.Json
