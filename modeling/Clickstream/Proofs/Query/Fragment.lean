import Clickstream.Proofs.Query.Binding
import Clickstream.Proofs.QueryText.Condition
import Clickstream.Query.Fragment

/-!
# Rendered fragments

A fragment of conditions that agree on their names is always rendered: its text is a row of the
texts of the conditions, and its parameters are what the run has bound (`Fragment.Renders`).  Rows
put behind a first condition make one conjunction (`intercalate_rowText`).

The names of a rendered fragment are words (`Renders.isName`), so the texts of plain conditions are
phrases and their placeholders are the bound names (`Renders.phrases`).
-/

namespace Clickstream

open QueryText

/-! ## Rows of conditions -/

theorem intercalate_cons (sep s : String) (rest : List String) :
    sep.intercalate (s :: rest) = s ++ String.join (rest.map (sep ++ ·)) := by
  induction rest generalizing s with
  | nil => rw [String.intercalate_singleton, List.map_nil, String.join_nil, String.append_empty]
  | cons t rest ih =>
    rw [String.intercalate_cons_cons, ih, List.map_cons, String.join_cons, String.append_assoc,
      String.append_assoc]

/-- Some conditions as they stand behind a clause. -/
def rowText (texts : List String) : String :=
  if texts.isEmpty then "" else "AND " ++ " AND ".intercalate texts

theorem rowText_cons (t : String) (ts : List String) :
    " " ++ rowText (t :: ts) = String.join ((t :: ts).map (" AND " ++ ·)) := by
  have hblank : " " ++ ("AND " ++ (t ++ String.join (ts.map (" AND " ++ ·)))) =
      " AND " ++ (t ++ String.join (ts.map (" AND " ++ ·))) := by
    rw [← String.append_assoc]
    rfl
  rw [rowText, if_neg nofun, intercalate_cons, List.map_cons, String.join_cons, hblank,
    String.append_assoc]

theorem rowText_cons_ne (t : String) (ts : List String) : (rowText (t :: ts) != "") = true := by
  rw [bne_iff_ne]
  intro h
  have := congrArg String.toList h
  rw [rowText, if_neg nofun, String.toList_append] at this
  cases this

theorem join_rowTexts (rows : List (List String)) :
    String.join (((rows.map rowText).filter (· != "")).map (" " ++ ·)) =
      String.join (rows.flatten.map (" AND " ++ ·)) := by
  induction rows with
  | nil => rfl
  | cons row rows ih =>
    cases row with
    | nil => exact ih
    | cons t ts =>
      rw [List.map_cons, List.filter_cons, if_pos (rowText_cons_ne t ts), List.map_cons,
        String.join_cons, ih, rowText_cons, List.flatten_cons, List.map_append, String.join_append]

/-- Rows of conditions behind a first condition are one conjunction. -/
theorem intercalate_rowText (first : String) (rows : List (List String)) :
    " ".intercalate (first :: (rows.map rowText).filter (· != "")) =
      " AND ".intercalate (first :: rows.flatten) := by
  rw [intercalate_cons, intercalate_cons, join_rowTexts]

/-! ## Rendering -/

namespace Fragment

/-- A fragment with the run that it was rendered by. -/
structure Renders (stem : String) (conditions : List Expr) (r : Renderer) (f : Fragment) :
    Prop where
  run : (Renderer.start stem).bindAll (paramsOfAll conditions) = (none, r)
  stem : r.stem = stem
  binds : r.Binds (paramsOfAll conditions)
  consistent : Consistent (paramsOfAll conditions)
  sql : f.sql = rowText (sqlOfAll r.name conditions)
  params : f.params = r.params

/-- Conditions that agree on their names are rendered. -/
theorem ofConditions_ok {stem : String} {items : List (Option Expr)}
    (hc : Consistent (paramsOfAll items.reduceOption)) :
    ∃ f r, ofConditions stem items = .ok f ∧ Renders stem items.reduceOption r f ∧
      f.condition = Expr.conjoin items := by
  obtain ⟨r, hrun, hstem, hbinds⟩ := Renderer.bindAll_start stem hc
  cases hkept : items.reduceOption with
  | nil =>
    rw [hkept] at hrun hbinds hc
    refine ⟨.empty, r, ?_, ⟨hrun, hstem, hbinds, hc, rfl, ?_⟩, ?_⟩
    · rw [ofConditions, hkept]
    · cases hrun
      rfl
    · rw [Expr.conjoin, hkept]
      rfl
  | cons e es =>
    rw [hkept] at hrun hbinds hc
    refine ⟨⟨joinedSql r.name (e :: es), r.params, Expr.conjoin items⟩, r, ?_,
      ⟨hrun, hstem, hbinds, hc, ?_, rfl⟩, rfl⟩
    · rw [ofConditions, hkept]
      simp only [hrun]
    · rw [joinedSql, rowText, sqlOfAll, List.isEmpty_cons, if_neg Bool.false_ne_true]

/-- A condition without parameters is rendered. -/
theorem exists_ofConditions {e : Expr} (h : e.params = []) (stem : String) :
    ∃ f, ofConditions stem [some e] = .ok f := by
  have hnone : paramsOfAll [some e].reduceOption = [] := by
    show e.params ++ [] = []
    rw [h, List.append_nil]
  have hconsistent : Consistent (paramsOfAll [some e].reduceOption) := by
    rw [hnone]
    exact ⟨fun p hp => absurd hp List.not_mem_nil, fun p hp => absurd hp List.not_mem_nil⟩
  obtain ⟨f, r, hf, -⟩ := @ofConditions_ok stem [some e] hconsistent
  exact ⟨f, hf⟩

/-- Fragments whose conditions agree, and whose generated names differ, agree on their bindings. -/
theorem Renders.agree {stem stem' : String} {es fs : List Expr} {r s : Renderer} {f g : Fragment}
    (hf : Renders stem es r f) (hg : Renders stem' fs s g)
    (hstem : ∀ m n : Nat, stem ++ toString m ≠ stem' ++ toString n)
    (hc : Consistent (paramsOfAll es ++ paramsOfAll fs)) {name : String} {old value : Value}
    (hold : f.params.get? name = some old) (hvalue : g.params.get? name = some value) :
    (old == value) = true := by
  rw [hf.params] at hold
  rw [hg.params] at hvalue
  obtain ⟨p, hp, -, rfl, hpn⟩ := hf.binds.origin name old hold
  obtain ⟨q, hq, -, rfl, hqn⟩ := hg.binds.origin name value hvalue
  rcases hpn with hpn | ⟨m, hpn⟩
  · rcases hqn with hqn | ⟨n, hqn⟩
    · exact hc.same p (List.mem_append_left _ hp) q (List.mem_append_right _ hq) name hpn hqn
    · have hreserved := hf.consistent.reserved p hp name hpn
      rw [hqn] at hreserved
      exact absurd hreserved (generated_notMem_reservedNames _ n)
  · rw [Renderer.generated, hf.stem] at hpn
    rcases hqn with hqn | ⟨n, hqn⟩
    · have hreserved := hg.consistent.reserved q hq name hqn
      rw [hpn] at hreserved
      exact absurd hreserved (generated_notMem_reservedNames stem m)
    · rw [Renderer.generated, hg.stem] at hqn
      exact absurd (hpn.symm.trans hqn) (hstem m n)

/-- Fragments whose conditions differ in values only are rendered alike. -/
theorem Renders.alike {stem : String} {es fs : List Expr} {r s : Renderer} {f g : Fragment}
    (hf : Renders stem es r f) (hg : Renders stem fs s g)
    (hkeys : (paramsOfAll es).map Param.key = (paramsOfAll fs).map Param.key) : r.Alike s :=
  Renderer.Alike.bindAll ⟨rfl, rfl, rfl, rfl⟩ hkeys hf.run hg.run

/-- If their texts agree as well, they are the same but for their values. -/
theorem Renders.sameText {stem : String} {es fs : List Expr} {r s : Renderer} {f g : Fragment}
    (hf : Renders stem es r f) (hg : Renders stem fs s g)
    (hkeys : (paramsOfAll es).map Param.key = (paramsOfAll fs).map Param.key)
    (hsql : sqlOfAll r.name es = sqlOfAll r.name fs) :
    f.sql = g.sql ∧ f.params.names = g.params.names := by
  have halike := hf.alike hg hkeys
  refine ⟨?_, ?_⟩
  · rw [hf.sql, hg.sql, hsql, halike.name]
  · rw [hf.params, hg.params, halike.names]

theorem renders_of_ok {stem : String} {items : List (Option Expr)} {f : Fragment}
    (h : ofConditions stem items = .ok f) (hc : Consistent (paramsOfAll items.reduceOption)) :
    ∃ r, Renders stem items.reduceOption r f ∧ f.condition = Expr.conjoin items := by
  obtain ⟨f', r, hf, hr⟩ := @ofConditions_ok stem items hc
  rw [h] at hf
  cases hf
  exact ⟨r, hr⟩

/-- The text of a fragment is the row of the texts of its conditions. -/
theorem exists_sql_eq {stem : String} {items : List (Option Expr)} {f : Fragment}
    (h : ofConditions stem items = .ok f) :
    ∃ name, f.sql = rowText (sqlOfAll name items.reduceOption) := by
  unfold ofConditions at h
  cases hkept : items.reduceOption with
  | nil =>
    rw [hkept] at h
    cases h
    exact ⟨fun _ => "", rfl⟩
  | cons e es =>
    rw [hkept] at h
    dsimp only at h
    split at h
    · cases h
    · next r hrun =>
      cases h
      refine ⟨r.name, ?_⟩
      rw [rowText, sqlOfAll, List.isEmpty_cons, if_neg Bool.false_ne_true]
      rfl

end Fragment

theorem reduceOption_singleton (c : Option Expr) : [c].reduceOption = c.toList := by
  cases c <;> rfl

theorem paramsOfAll_toList (c : Option Expr) : paramsOfAll c.toList = paramsOfCondition c := by
  cases c with
  | none => rfl
  | some e => exact List.append_nil _

/-! ## Texts of rendered conditions -/

theorem isJunction_of_digit {word : List Char} {c : Char} (hc : c ∈ word) (hdigit : c.isDigit) :
    isJunction word = false := by
  have hupper : c.toUpper = c := toUpper_of_isNumeralChar (by rw [isNumeralChar, hdigit]; rfl)
  have hmem : c ∈ word.map Char.toUpper := List.mem_map.mpr ⟨c, hc, hupper⟩
  rw [isJunction]
  cases hj : [['A', 'N', 'D'], ['O', 'R']].contains (word.map Char.toUpper) with
  | false => rfl
  | true =>
    have hno : [['A', 'N', 'D'], ['O', 'R']].all (·.all (!·.isDigit)) = true := by decide
    have hletters := List.all_eq_true.mp hno _ (List.contains_iff_mem.mp hj)
    have hletter := List.all_eq_true.mp hletters c hmem
    rw [hdigit] at hletter
    cases hletter

/-- Generated names are words that join nothing. -/
theorem isName_generated {stem : String} (h : stem.toList.all isWordChar = true) (n : Nat) :
    isName (stem ++ toString n) = true := by
  have hdigits : ∀ c ∈ Nat.toDigits 10 n, c.isDigit = true := fun c hc =>
    Nat.isDigit_of_mem_toDigits (by decide) (by decide) hc
  obtain ⟨d, hd⟩ := List.exists_mem_of_ne_nil (Nat.toDigits 10 n) Nat.toDigits_ne_nil
  rw [isName, toList_generated, Bool.and_eq_true, Bool.not_eq_true', List.all_eq_true]
  refine ⟨?_, isJunction_of_digit (List.mem_append_right _ hd) (hdigits d hd)⟩
  intro c hc
  rcases List.mem_append.mp hc with hc | hc
  · exact List.all_eq_true.mp h c hc
  · rw [isWordChar, Char.isAlphanum, hdigits c hc, Bool.or_true]
    rfl

namespace Fragment.Renders

variable {stem : String} {conditions : List Expr} {r : Renderer} {f : Fragment}

/-- The names that a run gives are words. -/
theorem isName (h : Renders stem conditions r f) (hstem : stem.toList.all isWordChar = true)
    (p : Param) : QueryText.isName (r.name p) = true := by
  have hreserved : ∀ name ∈ reservedNames, QueryText.isName name = true := by decide
  rcases h.binds.name_cases h.consistent p with hp | hp | ⟨n, hp⟩
  · rw [hp]
    rfl
  · exact hreserved _ hp
  · rw [hp, Renderer.generated, h.stem]
    exact isName_generated hstem n

/-- The texts of plain conditions are phrases. -/
theorem phrases (h : Renders stem conditions r f) (hstem : stem.toList.all isWordChar = true)
    (hplain : AllPlain conditions) :
    List.Forall₂ Phrase (sqlOfAll r.name conditions)
      (conditions.map fun e => e.params.map r.name) :=
  phraseOfAll (h.isName hstem) hplain

/-- The placeholders in the texts are the bound names. -/
theorem mem_names_iff (h : Renders stem conditions r f) {name : String} :
    name ∈ f.params.names ↔ name ∈ (conditions.map fun e => e.params.map r.name).flatten := by
  rw [h.params, h.binds.mem_names_iff, flatten_map_params]

end Fragment.Renders

end Clickstream
