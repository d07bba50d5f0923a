import Clickstream.Proofs.QueryText.Phrase
import Clickstream.Query.Expr

/-!
# Texts of operands

The texts that conditions are built from are phrases: literals with any characters, since a quote
inside a literal is written twice (`sqlLiteral_phrase`), finite numbers, since positional notation
has no letters (`number_phrase`), the operators, and the columns, computed ones included
(`Column.phrase`).
-/

namespace Clickstream

open QueryText

/-! ## Literals -/

theorem after_literal_doubleQuotes (depth : Nat) (cs : List Char) :
    (Place.literal depth).after (doubleQuotes cs) = .literal depth := by
  induction cs with
  | nil => rfl
  | cons c cs ih =>
    rw [doubleQuotes, List.flatMap_cons, Place.after_append]
    by_cases hc : c = '\''
    · subst hc
      exact ih
    · rw [if_neg hc, Place.after_cons, Place.next, if_neg hc]
      exact ih

theorem isBreak_of_mem_marked_literal (depth : Nat) (cs : List Char) :
    ∀ m ∈ marked (.literal depth) (doubleQuotes cs), isBreak m := by
  induction cs with
  | nil => intro m hm; cases hm
  | cons c cs ih =>
    rw [doubleQuotes, List.flatMap_cons, marked_append]
    intro m hm
    by_cases hc : c = '\''
    · subst hc
      rcases List.mem_append.mp hm with h | h
      · rcases List.mem_cons.mp h with rfl | h
        · rfl
        · rw [List.mem_singleton.mp h]
          simp [isBreak, isWordChar, Place.next]
      · exact ih m h
    · rw [if_neg hc] at hm
      rcases List.mem_cons.mp hm with rfl | h
      · rfl
      · rw [Place.after_cons, Place.next, if_neg hc] at h
        exact ih m h

theorem placeholdersFrom_literal (depth : Nat) (cs ds : List Char) :
    placeholdersFrom (.literal depth) (doubleQuotes cs ++ ds) =
      placeholdersFrom (.literal depth) ds := by
  induction cs with
  | nil => rfl
  | cons c cs ih =>
    rw [doubleQuotes, List.flatMap_cons, List.append_assoc]
    by_cases hc : c = '\''
    · subst hc
      exact ih
    · have hquoted : ¬ ((Place.literal depth).isText ∧ c = '$') :=
        fun h => absurd h.1 Bool.false_ne_true
      rw [if_neg hc, List.singleton_append, placeholdersFrom, if_neg hquoted,
        Place.next, if_neg hc]
      exact ih

/-- A literal is a phrase, whatever its characters. -/
theorem sqlLiteral_phrase (text : String) : Phrase (sqlLiteral text) [] := by
  have hlist : (sqlLiteral text).toList = '\'' :: (doubleQuotes text.toList ++ ['\'']) := by
    simp [sqlLiteral]
  refine ⟨⟨?_, ?_⟩, ?_⟩
  · intro depth
    rw [hlist, Place.after_cons, show (Place.text depth).next '\'' = .literal depth from rfl,
      Place.after_append, after_literal_doubleQuotes]
    rfl
  · intro depth
    rw [hlist, placeholdersFrom, if_neg (fun h => absurd h.2 (by decide)),
      show (Place.text depth).next '\'' = .literal depth from rfl, placeholdersFrom_literal]
    rfl
  · have hbreak : isBreak ((Place.literal 0).after (doubleQuotes text.toList), '\'') = true := by
      rw [after_literal_doubleQuotes]
      rfl
    rw [hlist, wordsFrom_cons_break rfl, show Place.start.next '\'' = .literal 0 from rfl,
      wordsFrom_append_cons hbreak, after_literal_doubleQuotes]
    intro word hw
    rw [List.mem_cons, List.mem_append] at hw
    rcases hw with rfl | hw | hw
    · rfl
    · rw [eq_nil_of_mem_wordsFrom (isBreak_of_mem_marked_literal 0 _) word hw]
      rfl
    · rw [show (Place.literal 0).next '\'' = .start from rfl, wordsFrom_nil] at hw
      rw [List.mem_singleton.mp hw]
      rfl

/-! ## Numbers -/

/-- A character of a number in positional notation. -/
def isNumeralChar (c : Char) : Bool :=
  c.isDigit || c == '.' || c == '-'

theorem toUpper_of_isNumeralChar {c : Char} (h : isNumeralChar c = true) : c.toUpper = c := by
  have hlower : ¬ ('a'.val ≤ c.val ∧ c.val ≤ 'z'.val) := by
    simp only [isNumeralChar, Char.isDigit, Bool.or_eq_true, beq_iff_eq, Bool.and_eq_true,
      decide_eq_true_eq, UInt32.le_iff_toNat_le] at h
    rw [UInt32.le_iff_toNat_le, UInt32.le_iff_toNat_le]
    rintro ⟨ha, hz⟩
    have hval : 'a'.val.toNat = 97 := rfl
    rcases h with (⟨-, h9⟩ | rfl) | rfl
    · have : '9'.val.toNat = 57 := rfl
      omega
    · exact absurd ha (by decide)
    · exact absurd ha (by decide)
  exact dif_neg hlower

/-- The words of a text are made of its characters. -/
theorem mem_of_mem_wordsFrom {p : Place} {cs word : List Char} (hw : word ∈ wordsFrom p cs) :
    ∀ c ∈ word, c ∈ cs := by
  induction cs generalizing p word with
  | nil =>
    rw [wordsFrom_nil, List.mem_singleton] at hw
    subst hw
    intro c hc
    exact hc
  | cons d cs ih =>
    cases hb : isBreak (p, d) with
    | true =>
      rw [wordsFrom_cons_break hb] at hw
      rcases List.mem_cons.mp hw with rfl | hw
      · intro c hc
        cases hc
      · exact fun c hc => List.mem_cons_of_mem d (ih hw c hc)
    | false =>
      rw [wordsFrom_cons_word hb] at hw
      cases hrest : wordsFrom (p.next d) cs with
      | nil =>
        rw [hrest] at hw
        cases hw
      | cons first rest =>
        rw [hrest, List.modifyHead_cons] at hw
        rcases List.mem_cons.mp hw with rfl | hw
        · intro c hc
          rcases List.mem_cons.mp hc with rfl | hc
          · exact List.mem_cons_self
          · exact List.mem_cons_of_mem d (ih (hrest ▸ List.mem_cons_self) c hc)
        · exact fun c hc => List.mem_cons_of_mem d (ih (hrest ▸ List.mem_cons_of_mem _ hw) c hc)

theorem after_start_of_isNumeralChar {cs : List Char} (h : ∀ c ∈ cs, isNumeralChar c = true) :
    Place.start.after cs = .start := by
  induction cs with
  | nil => rfl
  | cons c cs ih =>
    rw [List.forall_mem_cons] at h
    have hc : c ∉ ['\'', '"', '(', ')'] := by
      intro hc
      have hno : ['\'', '"', '(', ')'].all (!isNumeralChar ·) = true := by decide
      have hmark := List.all_eq_true.mp hno c hc
      rw [h.1] at hmark
      cases hmark
    rw [Place.after_cons, Place.start, Place.next_text hc]
    exact ih h.2

theorem numeral_phrase {s : String} (h : ∀ c ∈ s.toList, isNumeralChar c = true) :
    Phrase s [] := by
  refine ⟨Reads.of_closed (after_start_of_isNumeralChar h) ?_, ?_⟩
  · intro hd
    exact absurd (h _ hd) (by decide)
  · intro word hw
    have hsame : word.map Char.toUpper = word := by
      refine (List.map_congr_left fun c hc => ?_).trans (List.map_id word)
      exact toUpper_of_isNumeralChar (h c (mem_of_mem_wordsFrom hw c hc))
    rw [isJunction, hsame]
    cases hj : [['A', 'N', 'D'], ['O', 'R']].contains word with
    | false => rfl
    | true =>
      rw [List.contains_iff_mem] at hj
      rcases List.mem_cons.mp hj with rfl | hj
      · exact absurd (h 'A' (mem_of_mem_wordsFrom hw _ (by decide))) (by decide)
      · rw [List.mem_singleton.mp hj] at hw
        exact absurd (h 'O' (mem_of_mem_wordsFrom hw _ (by decide))) (by decide)

theorem isNumeralChar_of_mem_toDigits {c : Char} {n : Nat} (h : c ∈ Nat.toDigits 10 n) :
    isNumeralChar c = true := by
  rw [isNumeralChar, Nat.isDigit_of_mem_toDigits (by decide) (by decide) h]
  rfl

theorem isNumeralChar_of_mem_writePlaces {ds : List Char} (h : ∀ c ∈ ds, isNumeralChar c = true)
    (places : Nat) : ∀ c ∈ (Decimal.writePlaces ds places).toList, isNumeralChar c = true := by
  intro c hc
  unfold Decimal.writePlaces at hc
  split at hc
  · rw [String.toList_ofList] at hc
    exact h c hc
  · have hpadded : ∀ d ∈ List.replicate (places + 1 - ds.length) '0' ++ ds,
        isNumeralChar d = true := by
      intro d hd
      rcases List.mem_append.mp hd with hd | hd
      · rw [List.eq_of_mem_replicate hd]
        rfl
      · exact h d hd
    simp only [String.toList_append, String.toList_ofList, List.mem_append] at hc
    rcases hc with (hc | hc) | hc
    · exact hpadded c (List.mem_of_mem_take hc)
    · rw [List.mem_singleton.mp hc]
      rfl
    · exact hpadded c (List.mem_of_mem_drop hc)

theorem isNumeralChar_of_mem_toText {d : Decimal} (hd : d.isFinite = true) :
    ∀ c ∈ d.toText.toList, isNumeralChar c = true := by
  cases d with
  | infinite _ => exact nomatch hd
  | nan _ _ _ => exact nomatch hd
  | finite negative coefficient exponent =>
    have hbody : ∀ c ∈ (if 0 ≤ exponent then
        String.ofList (if coefficient = 0 then Nat.toDigits 10 coefficient
          else Nat.toDigits 10 coefficient ++ List.replicate exponent.toNat '0')
      else Decimal.writePlaces (Nat.toDigits 10 coefficient) (-exponent).toNat).toList,
        isNumeralChar c = true := by
      split_ifs with he hz
      · rw [String.toList_ofList]
        exact fun c hc => isNumeralChar_of_mem_toDigits hc
      · rw [String.toList_ofList]
        intro c hc
        rcases List.mem_append.mp hc with hc | hc
        · exact isNumeralChar_of_mem_toDigits hc
        · rw [List.eq_of_mem_replicate hc]
          rfl
      · exact isNumeralChar_of_mem_writePlaces (fun c hc => isNumeralChar_of_mem_toDigits hc) _
    cases negative with
    | false => exact hbody
    | true =>
      intro c hc
      rw [Decimal.toText, if_pos rfl, String.toList_append] at hc
      rcases List.mem_append.mp hc with hc | hc
      · rw [List.mem_singleton.mp hc]
        rfl
      · exact hbody c hc

/-- A finite number is a phrase. -/
theorem number_phrase {d : Decimal} (hd : d.isFinite = true) : Phrase d.toText [] :=
  numeral_phrase (isNumeralChar_of_mem_toText hd)

/-! ## Columns and operators -/

/-- A text of its own is a phrase without placeholders. -/
def Column.isPlain : Column → Bool
  | .other sql => isPhrase sql
  | _ => true

theorem Comparison.phrase (comparison : Comparison) : Phrase comparison.sql [] := by
  cases comparison <;> exact Phrase.of_check (by decide)

theorem Attribute.phrase (a : Attribute) : Phrase a.name [] := by
  cases a <;> exact Phrase.of_isName (by decide)

theorem asText_phrase {column : String} (h : isName column = true) :
    Phrase (Column.asText column) [] := by
  have hcall := (Phrase.of_isName (s := "CAST") (by decide)).call
    ((Phrase.of_isName h).append (.of_check (s := " AS VARCHAR") (by decide))
      (by rintro c ⟨⟩; rfl)).toReads
  have hshape : Column.asText column = "CAST" ++ "(" ++ (column ++ " AS VARCHAR") ++ ")" :=
    String.toList_inj.mp (by simp [Column.asText])
  rw [hshape]
  exact hcall

theorem joined_phrase {first second : String} (hfirst : isName first = true)
    (hsecond : isName second = true) (separator : String) :
    Phrase (Column.joined first separator second) [] := by
  have hcomma : Reads ", " [] := .of_closed rfl (by decide)
  have hrest : Reads (", " ++ (sqlLiteral separator ++ (", " ++ Column.asText second))) [] :=
    hcomma.prepend (by decide) ((sqlLiteral_phrase separator).toReads.append
      (hcomma.prepend (by decide) (asText_phrase hsecond).toReads) (endsWord_append rfl rfl _))
  have hcall := (Phrase.of_isName (s := "concat") (by decide)).call
    ((asText_phrase hfirst).toReads.append hrest (endsWord_append rfl rfl _))
  simp only [← String.append_assoc] at hcall
  exact hcall

theorem systemWithVersion_phrase {system : String} (hsystem : Phrase system []) :
    Phrase ("CASE WHEN " ++ system ++ " = 'Windows 10' THEN 'Windows 10/11' ELSE " ++ system ++
      " END") [] := by
  have hcase := (Phrase.of_check (s := "CASE WHEN") (by decide)).space hsystem
  have helse := (hcase.space (.of_check (s := "= 'Windows 10' THEN 'Windows 10/11' ELSE")
    (by decide))).space hsystem
  have hend := helse.space (.of_check (s := "END") (by decide))
  have hshape : "CASE WHEN " ++ system ++
      " = 'Windows 10' THEN 'Windows 10/11' ELSE " ++ system ++ " END" =
      "CASE WHEN" ++ " " ++ system ++ " " ++ "= 'Windows 10' THEN 'Windows 10/11' ELSE" ++ " " ++
        system ++ " " ++ "END" :=
    String.toList_inj.mp (by simp)
  rw [hshape]
  exact hend

theorem referrerDomain_phrase {host www : String} (hhost : Phrase host []) (hwww : Phrase www []) :
    Phrase ("regexp_replace(regexp_extract(referrer, " ++ host ++ ", 1), " ++ www ++ ", '')")
      [] := by
  have hextract := (Phrase.of_isName (s := "regexp_extract") (by decide)).call
    ((Reads.of_closed (s := "referrer, ") rfl (by decide)).prepend (by decide)
      (hhost.toReads.append (.of_closed (s := ", 1") rfl (by decide)) (by rintro c ⟨⟩; rfl)))
  have hrest := (Reads.of_closed (s := ", ") rfl (by decide)).prepend (by decide)
    (hwww.toReads.append (.of_closed (s := ", ''") rfl (by decide)) (by rintro c ⟨⟩; rfl))
  have hcall := (Phrase.of_isName (s := "regexp_replace") (by decide)).call
    (hextract.toReads.append hrest (endsWord_append rfl rfl _))
  have hshape : "regexp_replace(regexp_extract(referrer, " ++ host ++ ", 1), " ++ www ++ ", '')" =
      "regexp_replace" ++ "(" ++ ("regexp_extract" ++ "(" ++ ("referrer, " ++ (host ++ ", 1")) ++
        ")" ++ (", " ++ (www ++ ", ''"))) ++ ")" :=
    String.toList_inj.mp (by simp)
  rw [hshape]
  exact hcall

/-- The text of a column is a phrase without placeholders. -/
theorem Column.phrase : ∀ {c : Column}, c.isPlain = true → Phrase c.sql []
  | .attribute a, _ => a.phrase
  | .urlParameter name, _ => by
    have hcall : Phrase ("json_extract_string" ++ "(" ++
        ("url_parameters, " ++ sqlLiteral (Column.parameterPath name)) ++ ")") [] :=
      (Phrase.of_isName (by decide)).call
        ((Reads.of_closed rfl (by decide)).prepend (by decide) (sqlLiteral_phrase _).toReads)
    rwa [← String.append_assoc] at hcall
  | .other _, h => Phrase.of_check h
  | .browserWithVersion, _ | .regionCity, _ | .dimensions, _ =>
    joined_phrase (by decide) (by decide) _
  | .systemWithVersion, _ => systemWithVersion_phrase (joined_phrase (by decide) (by decide) _)
  | .referrerDomain, _ => referrerDomain_phrase (sqlLiteral_phrase _) (sqlLiteral_phrase _)
  | .timestamp, _ => Phrase.of_check (by decide)
  | .siteId, _ | .sessionId, _ | .userId, _ | .type, _ | .lat, _ | .lon, _ | .screenWidth, _
  | .screenHeight, _ => Phrase.of_isName (by decide)

end Clickstream
