import Clickstream.Proofs.Filter.Admission
import Clickstream.Proofs.Service.Values

/-!
# Names of URL parameters

The name of a URL parameter is the one text of a request that becomes part of a query as it is.  A
name is accepted if it is a word of 1 to 128 letters, digits and `_.-`, or such a word with a line
feed behind it (`isUrlName_iff`).  None of these characters is a quote, so the literal with the path
of the parameter holds the name unchanged (`urlParameter_sql`), and in compiled filters nothing but
this path and placeholders depends on the request (`known_inlined`).
-/

namespace Clickstream

namespace Filter

/-! ## Words -/

/-- An ASCII letter or digit, or one of `_.-`. -/
def InAlphabet (c : Char) : Prop :=
  'A' ≤ c ∧ c ≤ 'Z' ∨ 'a' ≤ c ∧ c ≤ 'z' ∨ '0' ≤ c ∧ c ≤ '9' ∨ c = '_' ∨ c = '.' ∨ c = '-'

/-- A word of 1 to 128 characters of the alphabet. -/
structure IsNameWord (word : List Char) : Prop where
  nonempty : 1 ≤ word.length
  short : word.length ≤ 128
  alphabet : ∀ c ∈ word, InAlphabet c

theorem isNameChar_iff {c : Char} : isNameChar c = true ↔ InAlphabet c := by
  have hrange : ∀ first last : Char,
      (decide (first ≤ c) && decide (c ≤ last)) = true ↔ first ≤ c ∧ c ≤ last := by
    intro first last
    rw [Bool.and_eq_true, decide_eq_true_eq, decide_eq_true_eq]
  have hupper : c.isUpper = true ↔ 'A' ≤ c ∧ c ≤ 'Z' := decide_eq_true_iff
  have hlower : c.isLower = true ↔ 'a' ≤ c ∧ c ≤ 'z' := hrange 'a' 'z'
  have hdigit : c.isDigit = true ↔ '0' ≤ c ∧ c ≤ '9' := hrange '0' '9'
  have hclass : isNameChar c =
    (((c.isUpper || c.isLower) || c.isDigit) || c == '_' || c == '.' || c == '-') := rfl
  rw [hclass]
  simp only [Bool.or_eq_true, hupper, hlower, hdigit, beq_iff_eq, or_assoc, InAlphabet]

theorem InAlphabet.ne {c d : Char} (h : InAlphabet c) (hd : isNameChar d = false) : c ≠ d := by
  rintro rfl
  rw [isNameChar_iff.mpr h] at hd
  cases hd

/-- A text is a word, or a word with a line feed behind it. -/
def IsLooseWord (text : List Char) : Prop :=
  ∃ word, IsNameWord word ∧ (text = word ∨ text = word ++ ['\n'])

/-- A name is accepted if it is a word, or a word with a line feed behind it. -/
theorem isUrlName_iff {name : String} : isUrlName name = true ↔ IsLooseWord name.toList := by
  have hword : isUrlName name = true ↔ IsNameWord (dropFinalBreak name.toList) := by
    simp only [isUrlName, Bool.and_eq_true, decide_eq_true_eq, List.all_eq_true, isNameChar_iff]
    exact ⟨fun h => ⟨h.1.1, h.1.2, h.2⟩, fun h => ⟨⟨h.nonempty, h.short⟩, h.alphabet⟩⟩
  rw [hword, dropFinalBreak]
  constructor
  · intro h
    split at h
    · next hlast => exact ⟨_, h, .inr (List.dropLast_append_getLast? _ hlast).symm⟩
    · exact ⟨_, h, .inl rfl⟩
  · rintro ⟨word, h, hname | hname⟩
    · have hlast : ¬ name.toList.getLast? = some '\n' := by
        intro hlast
        rw [hname] at hlast
        exact (h.alphabet _ (List.mem_of_getLast? hlast)).ne rfl rfl
      rw [if_neg hlast, hname]
      exact h
    · rw [hname, List.getLast?_concat, if_pos rfl, List.dropLast_concat]
      exact h

theorem IsLooseWord.notMem_quote {text : List Char} (h : IsLooseWord text) : '\'' ∉ text := by
  obtain ⟨word, hword, rfl | rfl⟩ := h
  · exact fun hquote => (hword.alphabet _ hquote).ne rfl rfl
  · intro hquote
    rcases List.mem_append.mp hquote with hquote | hquote
    · exact (hword.alphabet _ hquote).ne rfl rfl
    · exact absurd (List.mem_singleton.mp hquote) (by decide)

/-- Without a line feed, it is a word. -/
theorem IsLooseWord.isNameWord_iff {text : List Char} (h : IsLooseWord text) :
    IsNameWord text ↔ '\n' ∉ text := by
  constructor
  · exact fun hword hbreak => (hword.alphabet _ hbreak).ne rfl rfl
  · intro hbreak
    obtain ⟨word, hword, rfl | rfl⟩ := h
    · exact hword
    · exact absurd (List.mem_append_right _ (List.mem_singleton_self _)) hbreak

/-! ## Known parameters -/

/-- A parameter that is not a fixed one is known if it refers to a name, and that is a word, or a
word with a line feed behind it. -/
theorem isKnownParameter_iff_urlName {parameter : String} (h : parameter ∉ fixedParameters) :
    isKnownParameter parameter = true ↔
      ∃ name, urlName? parameter = some name ∧ IsLooseWord name.toList := by
  rw [isKnownParameter, Bool.or_eq_true, List.contains_iff_mem, or_iff_right h,
    Option.any_eq_true]
  simp only [isUrlName_iff]

/-- Such a parameter is compared as the parameter of the URL of that name. -/
theorem resolve_urlName {parameter : String} (h : parameter ∉ fixedParameters)
    {strategy : Strategy} (hresolve : Strategy.resolve Strategy.standard parameter = .ok strategy) :
    ∃ name, urlName? parameter = some name ∧ IsLooseWord name.toList ∧
      strategy = .urlParameter name := by
  rw [← names_standard, ← Bindings.get?_eq_none_iff] at h
  unfold Strategy.resolve at hresolve
  rw [h] at hresolve
  dsimp only at hresolve
  split at hresolve
  · next name hname =>
    unfold Strategy.ofUrlName at hresolve
    split at hresolve
    · next hvalid =>
      cases hresolve
      exact ⟨name, hname, isUrlName_iff.mp hvalid, rfl⟩
    · cases hresolve
  · cases hresolve

/-! ## Texts -/

theorem doubleQuotes_of_notMem {cs : List Char} (h : '\'' ∉ cs) : doubleQuotes cs = cs := by
  induction cs with
  | nil => rfl
  | cons c cs ih =>
    rw [List.mem_cons, not_or] at h
    rw [doubleQuotes, List.flatMap_cons, if_neg (Ne.symm h.1), List.singleton_append]
    exact congrArg (c :: ·) (ih h.2)

/-- The text of a parameter of the URL: the path of the name in a literal. -/
def parameterText (name : String) : String :=
  "json_extract_string(url_parameters, '$.\"" ++ name ++ "\"')"

/-- The name stands in the text of its column as it is. -/
theorem urlParameter_sql {name : String} (h : IsLooseWord name.toList) :
    (Column.urlParameter name).sql = parameterText name := by
  have hpath : '\'' ∉ (Column.parameterPath name).toList := by
    simp [Column.parameterPath, h.notMem_quote]
  have hliteral : sqlLiteral (Column.parameterPath name) = "'$.\"" ++ name ++ "\"'" := by
    rw [sqlLiteral, doubleQuotes_of_notMem hpath, ← String.toList_inj]
    simp [Column.parameterPath]
  show "json_extract_string(url_parameters, " ++ sqlLiteral (Column.parameterPath name) ++ ")" =
    "json_extract_string(url_parameters, '$.\"" ++ name ++ "\"')"
  rw [hliteral, ← String.toList_inj]
  simp

/-- The text of the comparison of an operand with a placeholder. -/
def comparisonText (kind : FilterKind) (operand placeholder : String) : String :=
  match kind with
  | .equals => operand ++ " = $" ++ placeholder
  | .notEquals => operand ++ " IS DISTINCT FROM $" ++ placeholder
  | .contains => operand ++ " LIKE $" ++ placeholder
  | .notContains => "coalesce(" ++ operand ++ ", '') NOT LIKE $" ++ placeholder

theorem compareValue_sql_eq (name : Param → String) (kind : FilterKind) (param : Param)
    (c : Column) : (Strategy.compareValue kind param c).sql name =
      comparisonText kind c.sql (name param) := by
  cases kind <;>
    simp [Strategy.compareValue, FilterKind.comparison, comparisonText, Expr.sql, sqlOfAll,
      commaSeparated, Comparison.sql, sqlLiteral, doubleQuotes, ← String.toList_inj]

/-- The text of a condition is that of a filter on a parameter of the URL: each value is compared
by a placeholder of one of the names. -/
def IsUrlText (names : List String) (filter : Filter) (piece : String) : Prop :=
  ∃ (name : String) (placeholders : List String), urlName? filter.parameter = some name ∧
    IsLooseWord name.toList ∧
    placeholders.length = filter.values.length ∧ (∀ p ∈ placeholders, p ∈ names) ∧
    piece = junctionSql (if filter.kind.isNegated then " AND " else " OR ")
      (placeholders.map (comparisonText filter.kind (parameterText name)))

theorem build_isUrlText {names : List String} (name : Param → String) {filter : Filter}
    (hparameter : filter.parameter ∉ fixedParameters) {strategy : Strategy} {scope : Scope}
    {e : Expr} (hresolve : Strategy.resolve Strategy.standard filter.parameter = .ok strategy)
    (h : strategy.build scope filter = .ok e) (hnames : ∀ p ∈ e.params, name p ∈ names) :
    filter.IsUrlText names (e.sql name) := by
  obtain ⟨stem, hstem, hword, rfl⟩ := resolve_urlName hparameter hresolve
  cases h
  rw [Strategy.compareColumn_params] at hnames
  refine ⟨stem, (Strategy.valueParams scope filter.kind filter.values).map name, hstem, hword, ?_,
    List.forall_mem_map.mpr hnames, ?_⟩
  · rw [List.length_map, Strategy.valueParams, List.length_map, List.length_zipIdx]
  · rw [Strategy.compareColumn, Strategy.junction_sql, sqlOfAll_eq_map, List.map_map, List.map_map]
    refine congrArg _ (List.map_congr_left fun p _ => ?_)
    rw [Function.comp, compareValue_sql_eq, urlParameter_sql hword]
    rfl

/-- A parameter that is not a fixed one is known if and only if it refers to a name that is a word
of the alphabet, or such a word with a line feed behind it.  The name is a word if there is no line
feed in it.  In compiled filters, the condition of a filter on this parameter is the junction of the
comparisons of the path of the name with placeholders, one for each value. -/
theorem known_inlined [ZoneDatabase] {parameter : String} (hfree : parameter ∉ fixedParameters) :
    (isKnownParameter parameter = true ↔
      ∃ name, urlName? parameter = some name ∧ IsLooseWord name.toList) ∧
    (isKnownParameter parameter = true → ∀ name, urlName? parameter = some name →
      (IsNameWord name.toList ↔ '\n' ∉ name.toList)) ∧
    ∀ (range : TimeRangeSpec) (now : Moment) (time : Fragment), range.compile now = .ok time →
      ∀ filters site f, compile Strategy.standard filters site time.condition = .ok f →
        ∃ pieces, f.sql = rowText pieces ∧
          List.Forall₂ (fun filter piece => filter.parameter = parameter →
            filter.IsUrlText f.params.names piece) filters pieces := by
  refine ⟨isKnownParameter_iff_urlName hfree, fun hknown name hname => ?_, ?_⟩
  · obtain ⟨name', hname', hword⟩ := (isKnownParameter_iff_urlName hfree).mp hknown
    rw [hname] at hname'
    cases hname'
    exact hword.isNameWord_iff
  · intro range now time htime filters site f hf
    obtain ⟨hwindow, -⟩ := TimeRange.renders_window htime
    obtain ⟨s, built, r, hbuilt, hr, -⟩ := renders_of_compile hwindow hf
    refine ⟨_, hr.sql, ?_⟩
    rw [sqlOfAll_eq_map, List.forall₂_map_right_iff]
    refine forall₂_conditionsFrom hbuilt ?_
    rintro filter e he strategy scope hstrategy hbuild rfl
    refine build_isUrlText r.name hfree hstrategy hbuild fun p hp => ?_
    rw [hr.params, hr.binds.mem_names_iff]
    exact List.mem_map_of_mem (paramsOfAll_eq_flatMap built ▸ List.mem_flatMap_of_mem he hp)

/-- A filter on the source of a visit. -/
def fromNewsletter : Filter :=
  ⟨"utm_source", .contains, ["news"]⟩

/-- The source is known, and its path is compared in the compiled filter. -/
theorem known_inlined_fromNewsletter :
    fromNewsletter.parameter ∉ fixedParameters ∧
    isKnownParameter fromNewsletter.parameter = true ∧
    ∃ time f piece, Request.withoutSignup.range.compile Request.withoutSignup.now = .ok time ∧
      compile Strategy.standard [fromNewsletter] (.int 1) time.condition = .ok f ∧
      f.sql = rowText [piece] ∧ fromNewsletter.IsUrlText f.params.names piece := by
  obtain ⟨time, -, htime, hcondition, -⟩ := Request.withoutSignup_compile
  have hcompile : ∃ f,
      compile Strategy.standard [fromNewsletter] (.int 1) time.condition = .ok f := by
    rw [hcondition]
    exact ⟨_, rfl⟩
  obtain ⟨f, hf⟩ := hcompile
  have hfree : fromNewsletter.parameter ∉ fixedParameters := by decide
  obtain ⟨hknown, -, hcompiles⟩ := known_inlined hfree
  have hword : IsLooseWord "utm_source".toList := by
    refine ⟨_, ⟨by decide, by decide, fun c hc => ?_⟩, .inl rfl⟩
    exact isNameChar_iff.mp (List.all_eq_true.mp rfl c hc)
  obtain ⟨pieces, hsql, hpieces⟩ := hcompiles _ _ time htime _ _ f hf
  cases hpieces with
  | cons hpiece hrest =>
    cases hrest
    exact ⟨hfree, hknown.mpr ⟨_, rfl, hword⟩, time, f, _, htime, hf, hsql, hpiece rfl⟩

/-- A name with a line feed behind it is accepted, though a line feed is none of the characters of
the alphabet, and it becomes part of the text of the query. -/
theorem lineFeed_is_known :
    isKnownParameter "utm_source\n" = true ∧ "utm_source\n" ∉ fixedParameters ∧
    urlName? "utm_source\n" = some "utm_source\n" ∧
    (∃ c ∈ "utm_source\n".toList, ¬ InAlphabet c) ∧
    (Column.urlParameter "utm_source\n").sql =
      "json_extract_string(url_parameters, '$.\"utm_source\n\"')" :=
  ⟨by decide, by decide, rfl, ⟨'\n', by decide, fun h => h.ne rfl rfl⟩, rfl⟩

end Filter

end Clickstream
