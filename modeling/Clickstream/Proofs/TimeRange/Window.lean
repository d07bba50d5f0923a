import Clickstream.Proofs.Outcome
import Clickstream.Proofs.Query.Fragment
import Clickstream.TimeRange.Window

/-!
# Compiled time ranges

A time range compiles to no condition, or to a comparison of the timestamp with two bounds, of which
the second one may be the clock (`IsWindow`).  Its parameters bring along their names, so it can
always be put together (`compile_sparesQuery`).  What may fail is the check of the request and, for
a range of days, the look at the calendar (`LacksToday`).
-/

namespace Clickstream

open QueryText

/-! ## Values that equal themselves -/

theorem same_int (n : Int) : (Value.int n == Value.int n) = true := by
  show Value.same (.int n) (.int n) = true
  simp [Value.same, Value.sameLeaf, Value.numberView]

theorem same_timestampValue (t : Timestamp) :
    (TimeRange.timestampValue t == TimeRange.timestampValue t) = true := by
  show Value.same (.moment ⟨t, none⟩) (.moment ⟨t, none⟩) = true
  simp [Value.same, Value.sameLeaf, Value.numberView, Moment.same]

/-! ## Windows -/

namespace TimeRange

/-- The conditions that time ranges are compiled to. -/
inductive IsWindow : Option Expr → Prop
  | unrestricted : IsWindow none
  | untilNow (lower upper : Comparison) (t : Timestamp) :
    IsWindow (some (between lower (startParam t) upper .now))
  | bounded (lower upper : Comparison) (t u : Timestamp) :
    IsWindow (some (between lower (startParam t) upper (endParam u)))

theorem daysEnd_eq_ok {now : Moment} {last : Date} {zone : Zone} {stop : Expr}
    (h : daysEnd now last zone = .ok stop) :
    stop = .now ∨ ∃ t, dayEnd? zone last = some t ∧ stop = endParam t := by
  obtain ⟨day, -, h⟩ := Outcome.bind_eq_ok.mp h
  split at h
  · cases h
    exact .inl rfl
  · split at h
    · next t ht =>
      cases h
      exact .inr ⟨t, ht, rfl⟩
    · cases h

theorem isWindow_of_condition {now : Moment} {range : TimeRange} {c : Option Expr}
    (h : range.condition now = .ok c) : IsWindow c := by
  cases range with
  | unrestricted =>
    cases h
    exact .unrestricted
  | days first last zone =>
    obtain ⟨e, he, rfl⟩ := Outcome.map_eq_ok.mp h
    unfold daysCondition at he
    split at he
    · cases he
    · obtain ⟨stop, hstop, he⟩ := Outcome.bind_eq_ok.mp he
      cases he
      rcases daysEnd_eq_ok hstop with rfl | ⟨u, -, rfl⟩
      · exact .untilNow ..
      · exact .bounded ..
  | minutes start stop =>
    obtain ⟨e, he, rfl⟩ := Outcome.map_eq_ok.mp h
    unfold minutesCondition at he
    split at he
    · cases he
      exact .bounded ..
    · cases he

/-- Parameters bound under their own names. -/
def ownBindings (params : List Param) : Bindings Value :=
  params.filterMap fun p => p.name.map fun name => (name, p.value)

namespace IsWindow

variable {c : Option Expr}

/-- The parameters of a window are its bounds. -/
theorem params_cases (h : IsWindow c) :
    paramsOfCondition c = [] ∨
      (∃ t, paramsOfCondition c = [⟨.windowStart, timestampValue t, some "time_start"⟩]) ∨
      ∃ t u, paramsOfCondition c = [⟨.windowStart, timestampValue t, some "time_start"⟩,
        ⟨.windowEnd, timestampValue u, some "time_end"⟩] := by
  cases h with
  | unrestricted => exact .inl rfl
  | untilNow lower upper t => exact .inr (.inl ⟨t, rfl⟩)
  | bounded lower upper t u => exact .inr (.inr ⟨t, u, rfl⟩)

/-- A parameter of a window is a bound under its own name. -/
theorem mem_params (h : IsWindow c) {p : Param} (hp : p ∈ paramsOfCondition c) :
    (∃ t, p = ⟨.windowStart, timestampValue t, some "time_start"⟩) ∨
      ∃ t, p = ⟨.windowEnd, timestampValue t, some "time_end"⟩ := by
  rcases h.params_cases with hc | ⟨t, hc⟩ | ⟨t, u, hc⟩
  · rw [hc] at hp
    cases hp
  · rw [hc] at hp
    exact .inl ⟨t, List.mem_singleton.mp hp⟩
  · rw [hc] at hp
    rcases List.mem_cons.mp hp with rfl | hp
    · exact .inl ⟨t, rfl⟩
    · exact .inr ⟨u, List.mem_singleton.mp hp⟩

/-- The bounds of a window have different names. -/
theorem eq_of_name_eq (h : IsWindow c) {p q : Param} (hp : p ∈ paramsOfCondition c)
    (hq : q ∈ paramsOfCondition c) (hname : p.name = q.name) : p = q := by
  have hne : some "time_start" ≠ some "time_end" := by decide
  rcases h.params_cases with hc | ⟨t, hc⟩ | ⟨t, u, hc⟩
  · rw [hc] at hp
    cases hp
  · rw [hc] at hp hq
    rw [List.mem_singleton.mp hp, List.mem_singleton.mp hq]
  · rw [hc] at hp hq
    rcases List.mem_pair.mp hp with rfl | rfl
    · rcases List.mem_pair.mp hq with rfl | rfl
      · rfl
      · exact absurd hname hne
    · rcases List.mem_pair.mp hq with rfl | rfl
      · exact absurd hname.symm hne
      · rfl

theorem name_ne_site (h : IsWindow c) {p : Param} (hp : p ∈ paramsOfCondition c) :
    p.name ≠ some "site_id" := by
  intro hname
  rcases h.mem_params hp with ⟨t, rfl⟩ | ⟨t, rfl⟩
  · exact absurd (Option.some.inj hname) (by decide)
  · exact absurd (Option.some.inj hname) (by decide)

/-- The parameters of a window agree. -/
theorem consistent (h : IsWindow c) : Consistent (paramsOfCondition c) := by
  constructor
  · intro p hp name hname
    rcases h.mem_params hp with ⟨t, rfl⟩ | ⟨t, rfl⟩
    · cases hname
      decide
    · cases hname
      decide
  · intro p hp q hq name hname hname'
    rw [h.eq_of_name_eq hp hq (hname.trans hname'.symm)]
    rcases h.mem_params hq with ⟨t, rfl⟩ | ⟨t, rfl⟩
    · exact same_timestampValue t
    · exact same_timestampValue t

theorem optionPlain (h : IsWindow c) : OptionPlain c := by
  cases h with
  | unrestricted => trivial
  | untilNow lower upper t => exact ⟨⟨rfl, trivial⟩, ⟨rfl, trivial⟩, trivial⟩
  | bounded lower upper t u => exact ⟨⟨rfl, trivial⟩, ⟨rfl, trivial⟩, trivial⟩

theorem conjoin_singleton (h : IsWindow c) : Expr.conjoin [c] = c := by
  cases h with
  | unrestricted => rfl
  | untilNow lower upper t => rfl
  | bounded lower upper t u => rfl

/-- A rendered window binds its bounds under their own names. -/
theorem params_eq (h : IsWindow c) {t : Fragment} {r : Renderer} (ht : t.Renders "t" c.toList r) :
    t.params = ownBindings (paramsOfCondition c) := by
  have hrun := ht.run
  rw [paramsOfAll_toList] at hrun
  rw [ht.params]
  rcases h.params_cases with hc | ⟨u, hc⟩ | ⟨u, v, hc⟩
  · rw [hc] at hrun ⊢
    cases hrun
    rfl
  · rw [hc] at hrun ⊢
    cases hrun
    rfl
  · rw [hc] at hrun ⊢
    cases hrun
    rfl

theorem get?_of_mem (h : IsWindow c) {t : Fragment} {r : Renderer} (ht : t.Renders "t" c.toList r)
    {p : Param} (hp : p ∈ paramsOfCondition c) {name : String} (hname : p.name = some name) :
    t.params.get? name = some p.value := by
  rw [h.params_eq ht]
  rcases h.params_cases with hc | ⟨u, hc⟩ | ⟨u, v, hc⟩
  · rw [hc] at hp
    cases hp
  · rw [hc] at hp ⊢
    rw [List.mem_singleton.mp hp] at hname ⊢
    cases hname
    rfl
  · rw [hc] at hp ⊢
    rcases List.mem_pair.mp hp with rfl | rfl
    · cases hname
      rfl
    · cases hname
      rfl

end IsWindow

/-! ## Compiling -/

/-- Compiles a checked time range. -/
def compile (range : TimeRange) (now : Moment) : Outcome Fragment := do
  match ← range.condition now.located with
  | none => .ok .empty
  | some e => Fragment.ofConditions "t" [some e]

theorem compile_of_resolve [ZoneDatabase] {spec : TimeRangeSpec} {range : TimeRange}
    (h : spec.resolve = .ok range) (now : Moment) : spec.compile now = range.compile now := by
  rw [TimeRangeSpec.compile, h, Outcome.ok_bind]
  rfl

/-- A compiled range is its condition, a rendered window. -/
theorem renders_compile {range : TimeRange} {now : Moment} {time : Fragment}
    (h : range.compile now = .ok time) :
    range.condition now.located = .ok time.condition ∧ IsWindow time.condition ∧
      ∃ r, time.Renders "t" time.condition.toList r := by
  obtain ⟨c, hc, h⟩ := Outcome.bind_eq_ok.mp h
  have hwindow := isWindow_of_condition hc
  have hrun : Fragment.ofConditions "t" [c] = .ok time := by
    cases c with
    | none => exact h
    | some e => exact h
  have hconsistent : Consistent (paramsOfAll [c].reduceOption) := by
    rw [reduceOption_singleton, paramsOfAll_toList]
    exact hwindow.consistent
  obtain ⟨r, hr, hcondition⟩ := Fragment.renders_of_ok hrun hconsistent
  rw [reduceOption_singleton] at hr
  rw [hcondition, hwindow.conjoin_singleton]
  exact ⟨hc, hwindow, r, hr⟩

/-- A compiled request is a rendered window. -/
theorem renders_window [ZoneDatabase] {spec : TimeRangeSpec} {now : Moment} {time : Fragment}
    (h : spec.compile now = .ok time) :
    IsWindow time.condition ∧ ∃ r, time.Renders "t" time.condition.toList r := by
  obtain ⟨range, -, h⟩ := Outcome.bind_eq_ok.mp h
  exact (renders_compile h).2

/-- A compiled range is bound to two instants. -/
def HasBounds (time : Fragment) (start stop : Timestamp) : Prop :=
  time.params = [("time_start", timestampValue start), ("time_end", timestampValue stop)]

/-- The bounds of a compiled range are those of its window. -/
theorem hasBounds_iff {range : TimeRange} {now : Moment} {time : Fragment}
    (h : range.compile now = .ok time) {start stop : Timestamp} :
    HasBounds time start stop ↔ ∃ lower upper,
      time.condition = some (between lower (startParam start) upper (endParam stop)) := by
  obtain ⟨-, hwindow, r, hr⟩ := renders_compile h
  have hparams := hwindow.params_eq hr
  rw [HasBounds, hparams]
  constructor
  · intro hbounds
    generalize time.condition = c at hwindow hbounds
    cases hwindow with
    | unrestricted => cases hbounds
    | untilNow lower upper t => cases hbounds
    | bounded lower upper t u =>
      cases hbounds
      exact ⟨lower, upper, rfl⟩
  · rintro ⟨lower, upper, hcondition⟩
    rw [hcondition]
    rfl

/-! ## Conditions that fail -/

open Outcome

variable {now : Moment} {range : TimeRange}

/-- The days of the range begin, but the instant of the request has no day in their zone. -/
def LacksToday (now : Moment) : TimeRange → Prop
  | .days first _ zone =>
    (∃ start, zone.startOfDay? first = some start) ∧ now.toUtc?.bind zone.toLocal? = none
  | _ => False

theorem condition_of_lacksToday (h : range.LacksToday now) :
    range.condition now = .error (.fault .calendarRange) := by
  cases range with
  | unrestricted => cases h
  | days first last zone =>
    obtain ⟨⟨start, hstart⟩, htoday⟩ := h
    rw [condition, daysCondition, hstart]
    dsimp only
    rw [daysEnd, today, htoday]
    rfl
  | minutes start stop => cases h

theorem daysEnd_refuses {zone : Zone} {t : Timestamp}
    (ht : now.toUtc?.bind zone.toLocal? = some t) (last : Date) :
    Refuses (daysEnd now last zone) := by
  rw [daysEnd, today, ht, ok_bind]
  split
  · exact .ok _
  · split
    · exact .ok _
    · exact .reject _

/-- A range that does not lack its today fails only because it is refused. -/
theorem condition_refuses (h : ¬ range.LacksToday now) : Refuses (range.condition now) := by
  cases range with
  | unrestricted => exact .ok _
  | days first last zone =>
    refine .map ?_ _
    unfold daysCondition
    split
    · exact .reject _
    · next start hstart =>
      obtain ⟨t, ht⟩ := Option.ne_none_iff_exists'.mp fun htoday => h ⟨⟨start, hstart⟩, htoday⟩
      exact .bind (daysEnd_refuses ht last) fun _ _ => .ok _
  | minutes start stop =>
    refine .map ?_ _
    unfold minutesCondition
    split
    · exact .ok _
    · exact .reject _

theorem condition_sparesQuery (range : TimeRange) (now : Moment) :
    SparesQuery (range.condition now) := by
  by_cases h : range.LacksToday now
  · rw [condition_of_lacksToday h]
    exact .raise _
  · exact (condition_refuses h).sparesQuery

end TimeRange

namespace TimeRangeSpec

variable {spec : TimeRangeSpec}

/-- A range of past minutes compiles to a window between two instants. -/
theorem compile_minutes [ZoneDatabase] {now : Moment} {start stop : Value}
    {lower upper : Timestamp} (hrange : spec.resolve = .ok (.minutes start stop))
    (hlower : TimeRange.minutesBefore? now.located start = some lower)
    (hupper : TimeRange.minutesBefore? now.located stop = some upper) :
    spec.compile now = Fragment.ofConditions "t"
      [some (TimeRange.between .gt (TimeRange.startParam lower) .le
        (TimeRange.endParam upper))] := by
  have hcondition : (TimeRange.minutes start stop).condition now.located =
      .ok (some (TimeRange.between .gt (TimeRange.startParam lower) .le
        (TimeRange.endParam upper))) := by
    rw [TimeRange.condition, TimeRange.minutesCondition, hlower, hupper]
    rfl
  rw [compile, hrange, Outcome.ok_bind, hcondition, Outcome.ok_bind]

/-! ## Requests that fail -/

open Outcome

theorem readDay_refuses (field text : String) : Refuses (readDay field text) := by
  unfold readDay
  split
  · split
    · exact .ok _
    · exact .reject _
  · exact .reject _

theorem readZone_eq_ok [ZoneDatabase] {name : String} {zone : Zone} :
    readZone name = .ok zone ↔ ZoneDatabase.find? name = some zone := by
  rw [readZone]
  cases ZoneDatabase.find? name with
  | none => exact iff_of_false nofun nofun
  | some found => rw [Except.ok.injEq, Option.some.injEq]

theorem readZone_refuses [ZoneDatabase] (name : String) : Refuses (readZone name) := by
  unfold readZone
  split
  · exact .ok _
  · exact .reject _

theorem resolveDays_refuses [ZoneDatabase] (spec : TimeRangeSpec) : Refuses spec.resolveDays := by
  unfold resolveDays
  split
  · refine .bind (readDay_refuses _ _) fun first _ =>
      .bind (readDay_refuses _ _) fun last _ => ?_
    split
    · exact .reject _
    · exact .bind (readZone_refuses _) fun _ _ => .ok _
  · exact .reject _

/-- A request for minutes fails by its numbers or because it is refused. -/
theorem resolveMinutes_failsOnly {P : Failure → Prop} (hreject : ∀ r, P (.rejected r))
    (hstart : ∀ v, spec.minutesStart = some v → FailsOnly P (minutesValue v))
    (hstop : ∀ v, spec.minutesEnd = some v → FailsOnly P (minutesValue v)) :
    FailsOnly P spec.resolveMinutes := by
  unfold resolveMinutes
  split
  · next start stop hs he =>
    split
    · exact .error (hreject _)
    · refine .bind (hstart start hs) fun a _ => .bind (hstop stop he) fun b _ => ?_
      split
      · exact .ok _
      · exact .error (hreject _)
  · exact .error (hreject _)

/-- Checking a request fails by its minutes or because it is refused. -/
theorem resolve_failsOnly [ZoneDatabase] {P : Failure → Prop} (hreject : ∀ r, P (.rejected r))
    (hminutes : FailsOnly P spec.resolveMinutes) : FailsOnly P spec.resolve := by
  unfold resolve
  split_ifs
  · exact .error (hreject _)
  · refine FailsOnly.mono (resolveDays_refuses spec) ?_
    rintro _ ⟨r, rfl⟩
    exact hreject r
  · exact hminutes
  · exact .ok _

theorem minutesValue_sparesQuery (v : Value) : SparesQuery (minutesValue v) := by
  unfold minutesValue
  split
  · split
    · exact .reject _
    · exact .ok _
  · exact .raise _

theorem resolve_sparesQuery [ZoneDatabase] (spec : TimeRangeSpec) : SparesQuery spec.resolve :=
  resolve_failsOnly (fun _ => rfl) (resolveMinutes_failsOnly (fun _ => rfl)
    (fun v _ => minutesValue_sparesQuery v) fun v _ => minutesValue_sparesQuery v)

/-- Compiling fails only where the request is checked and where its condition is made: the condition
has names for all its parameters. -/
theorem compile_failsOnly [ZoneDatabase] {P : Failure → Prop} {now : Moment}
    (hresolve : FailsOnly P spec.resolve)
    (hcondition : ∀ range, spec.resolve = .ok range → FailsOnly P (range.condition now.located)) :
    FailsOnly P (spec.compile now) := by
  refine .bind hresolve fun range hrange => .bind (hcondition range hrange) fun c hc => ?_
  cases c with
  | none => exact .ok _
  | some e =>
    have hconsistent := (TimeRange.isWindow_of_condition hc).consistent
    rw [← paramsOfAll_toList, ← reduceOption_singleton] at hconsistent
    obtain ⟨f, r, hf, -⟩ := @Fragment.ofConditions_ok "t" [some e] hconsistent
    show FailsOnly P (Fragment.ofConditions "t" [some e])
    rw [hf]
    exact .ok _

theorem compile_sparesQuery [ZoneDatabase] (spec : TimeRangeSpec) (now : Moment) :
    SparesQuery (spec.compile now) :=
  compile_failsOnly (resolve_sparesQuery spec) fun range _ => range.condition_sparesQuery _

end TimeRangeSpec

end Clickstream
