import Clickstream.Proofs.Query.Steps
import Clickstream.Proofs.QueryText.Condition

/-!
# Calls of a renderer

One renderer serves any sequence of calls, and a call that fails leaves behind what it bound before
the conflict.  Names are never taken back, so one naming, that of the last state, gives the texts of
all calls (`Call.text_congr`, `Renderer.answers_after`).
-/

namespace Clickstream

/-- A use of a renderer: a condition by itself, or at the top of a clause. -/
inductive Call
  | whole (e : Expr)
  | clause (e : Expr)

namespace Call

/-- The parameters in the order in which the call comes to them. -/
def params : Call → List Param
  | .whole e | .clause e => e.params

/-- The text that the call writes with the names of the parameters. -/
def text (name : Param → String) : Call → String
  | .whole e => e.sql name
  | .clause e => e.conditionSql name

end Call

/-! ## Texts and names -/

section

variable {name name' : Param → String}

mutual

/-- The text of a condition depends on the names of its own parameters only. -/
theorem Expr.sql_congr : ∀ {e : Expr}, (∀ p ∈ e.params, name p = name' p) →
    e.sql name = e.sql name'
  | .column _, _ | .number _, _ | .literal _, _ | .now, _ => rfl
  | .param p, h => congrArg ("$" ++ ·) (h p List.mem_cons_self)
  | .compare left comparison right, h => by
    obtain ⟨hleft, hright⟩ := List.forall_mem_append.mp h
    rw [Expr.sql, Expr.sql, Expr.sql_congr hleft, Expr.sql_congr hright]
  | .isNull operand, h => by
    have hoperand : operand.sql name = operand.sql name' := Expr.sql_congr h
    rw [Expr.sql, Expr.sql, hoperand]
  | .call function arguments, h => by
    have harguments : sqlOfAll name arguments = sqlOfAll name' arguments := sqlOfAll_congr h
    rw [Expr.sql, Expr.sql, harguments]
  | .all items, h => by
    have hitems : sqlOfAll name items = sqlOfAll name' items := sqlOfAll_congr h
    rw [Expr.sql, Expr.sql, hitems]
  | .any items, h => by
    have hitems : sqlOfAll name items = sqlOfAll name' items := sqlOfAll_congr h
    rw [Expr.sql, Expr.sql, hitems]
  | .select query, h => by
    have hquery : query.sql name = query.sql name' := Select.sql_congr h
    rw [Expr.sql, Expr.sql, hquery]
  | .member c negated query, h => by
    have hquery : query.sql name = query.sql name' := Select.sql_congr h
    rw [Expr.sql, Expr.sql, hquery]

theorem sqlOfAll_congr : ∀ {es : List Expr}, (∀ p ∈ paramsOfAll es, name p = name' p) →
    sqlOfAll name es = sqlOfAll name' es
  | [], _ => rfl
  | e :: rest, h => by
    obtain ⟨hfirst, hrest⟩ := List.forall_mem_append.mp h
    rw [sqlOfAll, sqlOfAll, Expr.sql_congr hfirst, sqlOfAll_congr hrest]

theorem Select.sql_congr : ∀ {query : Select}, (∀ p ∈ query.params, name p = name' p) →
    query.sql name = query.sql name'
  | .mk _ _ source condition _ _, h => by
    obtain ⟨hsource, hcondition⟩ := List.forall_mem_append.mp h
    rw [Select.sql, Select.sql, Source.sql_congr hsource, whereSql_congr hcondition]

theorem whereSql_congr : ∀ {condition : Option Expr},
    (∀ p ∈ paramsOfCondition condition, name p = name' p) →
      whereSql name condition = whereSql name' condition
  | none, _ => rfl
  | some (.all items), h => by
    have hitems : sqlOfAll name items = sqlOfAll name' items := sqlOfAll_congr h
    rw [whereSql, whereSql, hitems]
  | some (.column _), h | some (.param _), h | some (.number _), h | some (.literal _), h
  | some .now, h | some (.compare _ _ _), h | some (.isNull _), h | some (.call _ _), h
  | some (.any _), h | some (.select _), h | some (.member _ _ _), h =>
    congrArg (" WHERE " ++ ·) (Expr.sql_congr h)

theorem Source.sql_congr : ∀ {source : Source}, (∀ p ∈ source.params, name p = name' p) →
    source.sql name = source.sql name'
  | .table _, _ => rfl
  | .derived query, h => by
    have hquery : query.sql name = query.sql name' := Select.sql_congr h
    rw [Source.sql, Source.sql, hquery]

end

theorem Call.text_congr {call : Call} (h : ∀ p ∈ call.params, name p = name' p) :
    call.text name = call.text name' := by
  cases call with
  | whole e => exact Expr.sql_congr h
  | clause e =>
    have hclause : whereSql name (some e) = whereSql name' (some e) := whereSql_congr h
    rw [whereSql_some, whereSql_some, ← String.toList_inj, String.toList_append,
      String.toList_append, List.append_cancel_left_eq, String.toList_inj] at hclause
    exact hclause

end

namespace Renderer

/-! ## Calls in a row -/

/-- The answer to a call, and the state that the call leaves behind. -/
def answer (r : Renderer) : Call → Outcome String × Renderer
  | .whole e => r.render e
  | .clause e => r.renderCondition e

/-- The state after some calls. -/
def after (r : Renderer) : List Call → Renderer
  | [] => r
  | call :: rest => (r.answer call).2.after rest

theorem answer_eq (r : Renderer) (call : Call) :
    r.answer call = r.write call.params fun name => call.text name := by
  cases call with
  | whole e => rfl
  | clause e => rfl

theorem after_append (r : Renderer) (calls more : List Call) :
    r.after (calls ++ more) = (r.after calls).after more := by
  induction calls generalizing r with
  | nil => rfl
  | cons call calls ih => exact ih _

theorem answer_snd (r : Renderer) (call : Call) :
    (r.answer call).2 = (r.bindAll call.params).2 := by
  rw [answer_eq, write]
  split <;> next h => rw [h]

variable {r r' : Renderer} {p : Param} {ps : List Param}

/-- So it holds after some calls. -/
theorem after_induction {P : Renderer → Prop} {calls : List Call}
    (hstep : ∀ r p r', p ∈ calls.flatMap Call.params → P r → r.bind p = .ok r' → P r')
    (h : P r) : P (r.after calls) := by
  induction calls generalizing r with
  | nil => exact h
  | cons call calls ih =>
    rw [List.flatMap_cons] at hstep
    refine ih (fun r p r' hp => hstep r p r' (List.mem_append_right _ hp)) ?_
    rw [answer_snd]
    exact bindAll_induction (fun r p r' hp => hstep r p r' (List.mem_append_left _ hp)) h

theorem keeps_after {id : ParamId} {name : String} (h : r.nameOf? id = some name)
    (calls : List Call) : (r.after calls).nameOf? id = some name :=
  after_induction (fun _ _ _ _ => keeps_bind) h

/-! ## Answers -/

theorem answer_eq_ok {call : Call} {text : String} (h : (r.answer call).1 = .ok text) :
    (r.bindAll call.params).1 = none ∧ text = call.text (r.answer call).2.name := by
  rw [answer_snd]
  rw [answer_eq, write] at h
  split at h
  · next hrun =>
    cases h
    rw [hrun]
    exact ⟨rfl, rfl⟩
  · cases h

theorem answer_eq_error {call : Call} {e : Failure} :
    (r.answer call).1 = .error e ↔ (r.bindAll call.params).1 = some e := by
  rw [answer_eq, write]
  split
  · next hrun =>
    rw [hrun]
    exact iff_of_false nofun nofun
  · next hrun =>
    rw [hrun]
    exact ⟨fun h => congrArg some (Except.error.inj h), fun h => congrArg _ (Option.some.inj h)⟩

/-- What a call answers in a state, if `naming` is a later one: a text in which each parameter has
the name that it has then, or the conflict that the call comes to. -/
structure Answers (r naming : Renderer) (call : Call) : Prop where
  bound : ∀ text, (r.answer call).1 = .ok text →
    ∀ p ∈ call.params, ∃ name, naming.nameOf? p.id = some name
  text : ∀ text, (r.answer call).1 = .ok text → ∀ name : Param → String,
    (∀ p ∈ call.params, naming.nameOf? p.id = some (name p)) → text = call.text name
  fails : ∀ e, (r.answer call).1 = .error e ↔
    ∃ name, r.ComesToClash call.params name ∧ e = .conflict name

theorem answers_after (r : Renderer) (call : Call) (rest : List Call) :
    Answers r ((r.answer call).2.after rest) call := by
  have hbound : ∀ text, (r.answer call).1 = .ok text → ∀ p ∈ call.params, ∃ name,
      (r.answer call).2.nameOf? p.id = some name := by
    intro text htext
    have hrun : r.bindAll call.params = (none, (r.answer call).2) := by
      rw [answer_snd, ← (answer_eq_ok htext).1]
    exact exists_name_of_bindAll hrun
  refine ⟨?_, ?_, fun e => answer_eq_error.trans bindAll_eq_error_iff⟩
  · intro text htext p hp
    obtain ⟨name, hname⟩ := hbound text htext p hp
    exact ⟨name, keeps_after hname rest⟩
  · intro text htext name hnames
    rw [(answer_eq_ok htext).2]
    refine Call.text_congr fun p hp => ?_
    -- The name of this call is kept, so it is the one that the parameter has later.
    obtain ⟨given, hgiven⟩ := hbound text htext p hp
    have hlater := keeps_after hgiven rest
    rw [hnames p hp] at hlater
    rw [Renderer.name, hgiven, Option.some.inj hlater]
    rfl

end Renderer

end Clickstream
