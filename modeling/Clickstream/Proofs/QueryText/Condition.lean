import Mathlib.Data.List.Forall2
import Mathlib.Data.List.TakeWhile
import Clickstream.Proofs.QueryText.Operand
import Clickstream.Query.Renderer

/-!
# Texts of conditions

A condition is *plain* if the names in it (of functions, tables and results) are words that join
nothing, the texts of its columns are phrases, its numbers are finite, and no subquery stands where
an operand is expected.  `Expr.phrase` says that the text of a plain condition is a phrase, and that
its placeholders are the names of its parameters in order, whatever the names of the parameters are,
as long as they are words.
-/

namespace Clickstream

open QueryText

/-! ## Plain conditions -/

/-- The names in a result of a subquery are words. -/
def Output.IsPlain : Output → Prop
  | .column c => c.isPlain = true
  | .aggregate function name => isName function = true ∧ isName name = true

mutual

/-- The names in a condition are words, its numbers are finite, and subqueries stand behind a
column only. -/
def Expr.IsPlain : Expr → Prop
  | .column c => c.isPlain = true
  | .param _ | .literal _ | .now => True
  | .number n => n.isFinite = true
  | .compare left _ right => left.IsPlain ∧ right.IsPlain
  | .isNull operand => operand.IsPlain
  | .call function arguments => isName function = true ∧ AllPlain arguments
  | .all items | .any items => AllPlain items
  | .select _ => False
  | .member c _ query => c.isPlain = true ∧ query.IsPlain

/-- All of some conditions are plain. -/
def AllPlain : List Expr → Prop
  | [] => True
  | e :: rest => e.IsPlain ∧ AllPlain rest

/-- The parts of a subquery are plain. -/
def Select.IsPlain : Select → Prop
  | .mk _ outputs source condition groupBy _ =>
    (∀ output ∈ outputs, output.IsPlain) ∧ source.IsPlain ∧ OptionPlain condition ∧
      ∀ c ∈ groupBy, c.isPlain = true

/-- An optional condition is plain. -/
def OptionPlain : Option Expr → Prop
  | none => True
  | some e => e.IsPlain

/-- The names in a source are words. -/
def Source.IsPlain : Source → Prop
  | .table name => isName name = true
  | .derived query => query.IsPlain ∧ isName query.tableName = true

end

theorem allPlain_iff {es : List Expr} : AllPlain es ↔ ∀ e ∈ es, e.IsPlain := by
  induction es with
  | nil => simp [AllPlain]
  | cons e es ih => rw [AllPlain, ih, List.forall_mem_cons]

theorem allPlain_toList {c : Option Expr} (h : OptionPlain c) : AllPlain c.toList := by
  cases c with
  | none => trivial
  | some e => exact ⟨h, trivial⟩

theorem sqlOfAll_eq_map (name : Param → String) (es : List Expr) :
    sqlOfAll name es = es.map (·.sql name) := by
  induction es with
  | nil => rfl
  | cons e es ih => rw [sqlOfAll, ih, List.map_cons]

theorem paramsOfAll_eq_flatMap (es : List Expr) : paramsOfAll es = es.flatMap Expr.params := by
  induction es with
  | nil => rfl
  | cons e es ih => rw [paramsOfAll, ih, List.flatMap_cons]

/-! ## Texts of plain conditions -/

section

variable {name : Param → String}

/-- The placeholder of a parameter. -/
theorem placeholder_phrase {name : String} (h : isName name = true) :
    Phrase ("$" ++ name) [name] := by
  have hname := Phrase.of_isName h
  have hlist : ("$" ++ name).toList = '$' :: name.toList := by simp
  refine ⟨⟨?_, ?_⟩, ?_⟩
  · intro depth
    rw [hlist, Place.after_cons, show (Place.text depth).next '$' = .text depth from rfl]
    exact hname.after depth
  · intro depth
    have hword : name.toList.takeWhile isWordChar = name.toList := by
      simp only [isName, Bool.and_eq_true, List.all_eq_true] at h
      exact List.takeWhile_eq_self_iff.mpr h.1
    rw [hlist, placeholdersFrom, if_pos ⟨rfl, rfl⟩, hword,
      show (Place.text depth).next '$' = .text depth from rfl, hname.placeholders]
    rfl
  · rw [hlist, wordsFrom_cons_break rfl, show Place.start.next '$' = .start from rfl]
    intro word hw
    rcases List.mem_cons.mp hw with rfl | hw
    · rfl
    · exact hname.words word hw

theorem aggregate_reads {function name path time : String} (hfunction : isName function = true)
    (hname : isName name = true) (hpath : Phrase path []) (htime : Phrase time []) :
    Reads (function ++ "(" ++ path ++ ", " ++ time ++ ") AS " ++ name) [] := by
  have hcomma : Reads (", " ++ time) [] :=
    (Reads.of_closed rfl (by decide)).prepend (by decide) htime.toReads
  have hcall := (Phrase.of_isName hfunction).call
    (hpath.toReads.append hcomma (endsWord_append rfl rfl _))
  have hnamed := (hcall.space (Phrase.of_isName (s := "AS") (by decide))).space
    (Phrase.of_isName hname)
  have hshape : function ++ "(" ++ path ++ ", " ++ time ++ ") AS " ++ name =
      function ++ "(" ++ (path ++ (", " ++ time)) ++ ")" ++ " " ++ "AS" ++ " " ++ name :=
    String.toList_inj.mp (by simp)
  rw [hshape]
  exact hnamed.toReads

theorem Output.reads {output : Output} (h : output.IsPlain) : Reads output.sql [] := by
  cases output with
  | column c => exact (Column.phrase h).toReads
  | aggregate function name =>
    exact aggregate_reads h.1 h.2 (Attribute.phrase .pathname) (Phrase.of_check (by decide))

theorem reads_commaSeparated {ss : List String} {nss : List (List String)}
    (h : List.Forall₂ Reads ss nss) : Reads (commaSeparated ss) nss.flatten :=
  Reads.intercalate (.of_closed rfl (by decide)) (by decide) (endsWord_append rfl rfl) h

theorem reads_commaSeparated_plain {ss : List String} (h : ∀ s ∈ ss, Reads s []) :
    Reads (commaSeparated ss) [] := by
  have hall : List.Forall₂ Reads ss (ss.map fun _ => []) := by
    rw [List.forall₂_map_right_iff, List.forall₂_same]
    exact h
  have := reads_commaSeparated hall
  rwa [List.flatten_eq_nil_iff.mpr (by simp)] at this

/-- The text of a junction, given the texts of its items. -/
theorem junction_phrase {joiner : String} (hsep : Reads joiner []) (hd : '$' ∉ joiner.toList)
    (hend : ∀ s : String, EndsWord (joiner ++ s).toList) {ss : List String}
    {nss : List (List String)} (h : List.Forall₂ Phrase ss nss) :
    Phrase (junctionSql joiner ss) nss.flatten := by
  have hreads : List.Forall₂ Reads ss nss := h.imp fun _ _ hs => hs.toReads
  cases h with
  | nil => exact Phrase.enclose (Reads.intercalate hsep hd hend .nil)
  | cons hs hrest =>
    cases hrest with
    | nil =>
      rw [List.flatten_cons, List.flatten_nil, List.append_nil]
      exact hs
    | cons ht hrest => exact Phrase.enclose (Reads.intercalate hsep hd hend hreads)

theorem flatten_map_params (name : Param → String) (es : List Expr) :
    (es.map fun e => e.params.map name).flatten = (paramsOfAll es).map name := by
  rw [paramsOfAll_eq_flatMap, List.map_flatMap, List.flatMap_def]

end

section

variable {name : Param → String}

theorem now_phrase : Phrase "CAST(now() AS TIMESTAMP)" [] := Phrase.of_check (by decide)

theorem reads_where {s : String} {ns : List String} (h : Reads s ns) : Reads (" WHERE " ++ s) ns :=
  (Reads.of_closed rfl (by decide)).prepend (by decide) h

theorem reads_select {isDistinct : Bool} {outputs source condition group : String}
    {ns ms : List String} (houtputs : Reads outputs []) (hsource : Reads source ns)
    (hcondition : Reads condition ms) (hstart : EndsWord condition.toList)
    (hgroup : Reads group []) (hend : EndsWord group.toList) :
    Reads ((if isDistinct then "SELECT DISTINCT " else "SELECT ") ++ outputs ++ " FROM " ++
      source ++ condition ++ group) (ns ++ ms) := by
  have hselect : Reads ((if isDistinct then "SELECT DISTINCT " else "SELECT ") ++ outputs) [] := by
    cases isDistinct with
    | true => exact (Reads.of_closed rfl (by decide)).prepend (by decide) houtputs
    | false => exact (Reads.of_closed rfl (by decide)).prepend (by decide) houtputs
  have hfrom : Reads (" FROM " ++ source) ns :=
    (Reads.of_closed rfl (by decide)).prepend (by decide) hsource
  have hall := ((hselect.append hfrom (endsWord_append rfl rfl _)).append
    hcondition hstart).append hgroup hend
  rwa [← String.append_assoc, List.nil_append, List.append_nil] at hall

theorem whereSql_some (name : Param → String) (e : Expr) :
    whereSql name (some e) = " WHERE " ++ e.conditionSql name := by
  cases e <;> rfl

theorem endsWord_whereSql (name : Param → String) (condition : Option Expr) :
    EndsWord (whereSql name condition).toList := by
  rcases condition with _ | e
  · exact nofun
  · rw [whereSql_some]
    exact endsWord_append rfl rfl _

theorem reads_groupBy {columns : List Column} (h : ∀ c ∈ columns, c.isPlain = true) :
    Reads (if columns.isEmpty then "" else " GROUP BY " ++ commaSeparated (columns.map Column.sql))
      [] := by
  split
  · exact Reads.empty
  · refine (Reads.of_closed rfl (by decide)).prepend (by decide) (reads_commaSeparated_plain ?_)
    intro s hs
    obtain ⟨c, hc, rfl⟩ := List.mem_map.mp hs
    exact (Column.phrase (h c hc)).toReads

theorem endsWord_groupBy (columns : List Column) :
    EndsWord (if columns.isEmpty then ""
      else " GROUP BY " ++ commaSeparated (columns.map Column.sql)).toList := by
  split
  · exact nofun
  · exact endsWord_append rfl rfl _

theorem reads_conjunction {ss : List String} {nss : List (List String)}
    (h : List.Forall₂ Reads ss nss) : Reads (" AND ".intercalate ss) nss.flatten :=
  Reads.intercalate (.of_closed rfl (by decide)) (by decide) (endsWord_append rfl rfl) h

mutual

/-- The text of a plain condition is a phrase; its placeholders are the names of its parameters. -/
theorem Expr.phrase (hname : ∀ p, isName (name p) = true) :
    ∀ {e : Expr}, e.IsPlain → Phrase (e.sql name) (e.params.map name)
  | .column _, h => Column.phrase h
  | .param p, _ => placeholder_phrase (hname p)
  | .number _, h => number_phrase h
  | .literal text, _ => sqlLiteral_phrase text
  | .now, _ => now_phrase
  | .compare left comparison right, h => by
    have := ((Expr.phrase hname h.1).space comparison.phrase).space (Expr.phrase hname h.2)
    rwa [List.append_nil, ← List.map_append] at this
  | .isNull operand, h => by
    have hnull : Phrase " IS NULL" [] := .of_check (by decide)
    have := (Expr.phrase hname (e := operand) h).append hnull (by rintro c ⟨⟩; rfl)
    rwa [List.append_nil] at this
  | .call function arguments, h => by
    have harguments := (phraseOfAll hname h.2).imp fun _ _ hs => hs.toReads
    have := (Phrase.of_isName h.1).call (reads_commaSeparated harguments)
    rwa [flatten_map_params] at this
  | .all items, h => by
    have hitems : AllPlain items := h
    have hand : Reads " AND " [] := .of_closed rfl (by decide)
    have := junction_phrase hand (by decide) (endsWord_append rfl rfl) (phraseOfAll hname hitems)
    rwa [flatten_map_params] at this
  | .any items, h => by
    have hitems : AllPlain items := h
    have hor : Reads " OR " [] := .of_closed rfl (by decide)
    have := junction_phrase hor (by decide) (endsWord_append rfl rfl) (phraseOfAll hname hitems)
    rwa [flatten_map_params] at this
  | .select _, h => h.elim
  | .member c negated query, h => by
    have hin : Phrase (if negated then "NOT IN " else "IN ") [] := by
      cases negated with
      | true => exact .of_check (by decide)
      | false => exact .of_check (by decide)
    have hmember := ((Column.phrase h.1).space hin).call (Select.reads hname h.2)
    have hshape : c.sql ++ (if negated then " NOT IN (" else " IN (") ++ query.sql name ++ ")" =
        c.sql ++ " " ++ (if negated then "NOT IN " else "IN ") ++ "(" ++ query.sql name ++ ")" := by
      cases negated with
      | true => exact String.toList_inj.mp (by simp)
      | false => exact String.toList_inj.mp (by simp)
    rw [Expr.sql, hshape]
    exact hmember

/-- The texts of plain conditions are phrases. -/
theorem phraseOfAll (hname : ∀ p, isName (name p) = true) : ∀ {es : List Expr}, AllPlain es →
    List.Forall₂ Phrase (sqlOfAll name es) (es.map fun e => e.params.map name)
  | [], _ => .nil
  | _ :: _, h => .cons (Expr.phrase hname h.1) (phraseOfAll hname h.2)

theorem Select.reads (hname : ∀ p, isName (name p) = true) :
    ∀ {query : Select}, query.IsPlain → Reads (query.sql name) (query.params.map name)
  | .mk isDistinct outputs source condition groupBy _, h => by
    obtain ⟨houtputs, hsource, hcondition, hgroup⟩ := h
    rw [Select.params, List.map_append]
    refine reads_select (reads_commaSeparated_plain ?_) (Source.reads hname hsource)
      (reads_whereSql hname hcondition) (endsWord_whereSql name condition) (reads_groupBy hgroup)
      (endsWord_groupBy groupBy)
    intro s hs
    obtain ⟨output, hmem, rfl⟩ := List.mem_map.mp hs
    exact Output.reads (houtputs output hmem)

theorem reads_whereSql (hname : ∀ p, isName (name p) = true) :
    ∀ {condition : Option Expr}, OptionPlain condition →
      Reads (whereSql name condition) ((paramsOfCondition condition).map name)
  | none, _ => Reads.empty
  | some (.all items), h => by
    have hitems : AllPlain items := h
    have hreads := (phraseOfAll hname hitems).imp fun _ _ hs => hs.toReads
    have := reads_where (reads_conjunction hreads)
    rwa [flatten_map_params] at this
  | some (.column _), h | some (.param _), h | some (.number _), h | some (.literal _), h
  | some .now, h | some (.compare _ _ _), h | some (.isNull _), h | some (.call _ _), h
  | some (.any _), h | some (.select _), h | some (.member _ _ _), h =>
    reads_where (Expr.phrase hname h).toReads

theorem Source.reads (hname : ∀ p, isName (name p) = true) :
    ∀ {source : Source}, source.IsPlain → Reads (source.sql name) (source.params.map name)
  | .table _, h => (Phrase.of_isName h).toReads
  | .derived query, h => by
    have hnamed := ((Phrase.enclose (Select.reads hname h.1)).space
      (Phrase.of_isName (s := "AS") (by decide))).space (Phrase.of_isName h.2)
    have hshape : "(" ++ query.sql name ++ ") AS " ++ query.tableName =
        "(" ++ query.sql name ++ ")" ++ " " ++ "AS" ++ " " ++ query.tableName :=
      String.toList_inj.mp (by simp)
    rw [Source.sql, hshape]
    rw [List.append_nil, List.append_nil] at hnamed
    exact hnamed.toReads

end

end

end Clickstream
