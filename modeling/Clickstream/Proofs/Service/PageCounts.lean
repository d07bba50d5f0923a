import Mathlib.Data.Set.List
import Clickstream.Proofs.Pattern.PathGroup
import Clickstream.Proofs.Result.Normalize
import Clickstream.Proofs.Service.Report

/-!
# Page counts and totals

The page views of a group of pages are counted by the query and keyed by their path afterwards.  As
the paths are never turned into numbers, no two rows meet under one key, and every count is the
number of events behind it (`pageviewCounts_eq`).  So the counts of a group agree with the totals of
the same request: those of all paths, and the page views without a path, add up to the page views of
the overview (`pageviews_agree`).
-/

namespace Clickstream

/-- The number of page views with a path among the events that some conditions select. -/
def Database.countViews (db : Database) (conditions : List Expr) (path : Option String) : Nat :=
  db.events.countP fun e =>
    db.selects conditions e && e.type == "pageview" && e.attributes .pathname == path

namespace Service

/-! ## Counts by path -/

/-- Counts of paths as the service answers them. -/
def answered (views : List (String × Nat)) : List (Value × Value) :=
  views.map fun view => (.text view.1, Report.countValue view.2)

theorem same_text (s t : String) : (Value.text s == Value.text t) = (s == t) := by
  show Value.same (.text s) (.text t) = _
  simp [Value.same, Value.sameLeaf, Value.numberView]

/-- A new key comes last. -/
theorem setCount_of_fresh {key count : Value} {known : List (Value × Value)}
    (h : ∀ entry ∈ known, (entry.1 == key) = false) :
    setCount key count known = known ++ [(key, count)] := by
  induction known with
  | nil => rfl
  | cons entry known ih =>
    obtain ⟨hentry, hknown⟩ := List.forall_mem_cons.mp h
    rw [setCount, if_neg (by simp [hentry]), ih hknown, List.cons_append]

/-- Rows with different paths give one entry each, in their order. -/
theorem countsFrom_views {views : List (String × Nat)} (hnodup : (views.map (·.1)).Nodup)
    {known : List (Value × Value)}
    (hfresh : ∀ entry ∈ known, ∀ view ∈ views, (entry.1 == .text view.1) = false) :
    countsFrom known (views.map fun view =>
        [("pathname", .text view.1), ("pageviews", Report.countValue view.2)]) =
      .ok (known ++ answered views) := by
  induction views generalizing known with
  | nil => simp [countsFrom, answered]
  | cons view views ih =>
    obtain ⟨hview, hnodup⟩ := List.nodup_cons.mp hnodup
    have hset := @setCount_of_fresh (.text view.1) (Report.countValue view.2) known
      fun entry hentry => hfresh entry hentry view List.mem_cons_self
    have hrest : ∀ entry ∈ known ++ [(Value.text view.1, Report.countValue view.2)],
        ∀ other ∈ views, (entry.1 == .text other.1) = false := by
      intro entry hentry other hother
      rcases List.mem_append.mp hentry with hentry | hentry
      · exact hfresh entry hentry other (List.mem_cons_of_mem _ hother)
      · rw [List.mem_singleton.mp hentry, same_text, beq_eq_false_iff_ne]
        intro heq
        exact hview (List.mem_map.mpr ⟨other, hother, heq.symm⟩)
    have hcounts := ih hnodup hrest
    rw [List.map_cons, countsFrom]
    show countsFrom (setCount (.text view.1) (Report.countValue view.2) known) _ = _
    rw [hset, hcounts, List.append_assoc]
    rfl

theorem isNormal_view (view : String × Nat) :
    schema.IsNormal [("pathname", .text view.1), ("pageviews", Report.countValue view.2)] := by
  intro field hfield htext
  rcases List.mem_pair.mp hfield with rfl | rfl
  · rfl
  · obtain ⟨s, hs⟩ := htext
    cases hs

theorem isNormal_totals (t : Report.Totals) :
    schema.IsNormal [("sessions", Report.countValue t.sessions),
      ("pageviews", Report.countValue t.pageviews), ("users", Report.countValue t.users)] := by
  intro field hfield ⟨s, hs⟩
  simp only [List.mem_cons, List.not_mem_nil, or_false] at hfield
  rcases hfield with rfl | rfl | rfl <;> cases hs

/-! ## Answers of a store -/

/-- The count of a path. -/
def pathCount (view : String × Nat) : Report.PathCount :=
  ⟨some view.1, view.2⟩

theorem pathCount_injective : Function.Injective pathCount := by
  rintro ⟨s, m⟩ ⟨t, n⟩ ⟨⟩
  rfl

/-- Events that have a path are counted under paths. -/
theorem exists_views [ZoneDatabase] {selected : List Event}
    (h : ∀ e ∈ selected, (e.attributes .pathname).isSome) :
    ∃ views : List (String × Nat), Report.pathCounts selected = views.map pathCount ∧
      (views.map (·.1)).Nodup := by
  have hrange : ∀ c ∈ Report.pathCounts selected, c ∈ Set.range pathCount := by
    rintro ⟨path, count⟩ hc
    obtain ⟨hcount, hpos⟩ := Report.mem_pathCounts.mp hc
    rw [hcount] at hpos
    obtain ⟨e, he⟩ := List.length_pos_iff_exists_mem.mp hpos
    obtain ⟨he, hpath⟩ := List.mem_filter.mp he
    have hsome := h e he
    rw [beq_iff_eq.mp hpath] at hsome
    obtain ⟨s, rfl⟩ := Option.isSome_iff_exists.mp hsome
    exact ⟨(s, count), rfl⟩
  obtain ⟨views, hviews⟩ : Report.pathCounts selected ∈ Set.range (List.map pathCount) := by
    rw [Set.range_list_map]
    exact hrange
  refine ⟨views, hviews.symm, ?_⟩
  have hnodup := Report.nodup_pathCounts selected
  have hpaths : (views.map pathCount).map (·.path) = (views.map (·.1)).map some := by
    rw [List.map_map, List.map_map]
    rfl
  rw [← hviews, hpaths] at hnodup
  exact hnodup.of_map

variable {events : List Event} {profiles : ProfileStore} {clock : Timestamp} {request : Request}

/-- The counts of a group are those of the events that its clause selects, in the order of the
query. -/
theorem pageviewCounts_eq [ZoneDatabase] {path : String} {depth : Value} {clause : Clause}
    (hclause : pageviewClause request path depth = .ok clause) {selected : List Event}
    (hselected : events.filter (Database.selects ⟨events, clock⟩ clause.conditions) = selected)
    {views : List (String × Nat)} (hviews : Report.pathCounts selected = views.map pathCount)
    (hnodup : (views.map (·.1)).Nodup) :
    (Stores.mk (some events) profiles clock).service.pageviewCounts request path depth =
      .ok (answered views) := by
  have hrows : Report.rows selected .pageviews = views.map fun view =>
      [("pathname", .text view.1), ("pageviews", Report.countValue view.2)] := by
    rw [Report.rows, hviews, List.map_map]
    rfl
  have hnormal : schema.normalize (Report.rows selected .pageviews) =
      .ok (Report.rows selected .pageviews, []) := by
    refine Schema.normalize_of_isNormal fun row hrow => ?_
    rw [hrows] at hrow
    obtain ⟨view, -, rfl⟩ := List.mem_map.mp hrow
    exact isNormal_view view
  have hcounts := @countsFrom_views views hnodup [] nofun
  rw [← hrows, List.nil_append] at hcounts
  rw [pageviewCounts, hclause]
  show (normalized (.ok (Report.rows (events.filter _) .pageviews)) >>= countsFrom []) = _
  rw [hselected, normalized, Outcome.ok_bind, hnormal]
  exact hcounts

/-- The totals of a request are those of the events that its clause selects. -/
theorem overview_eq [ZoneDatabase] {clause : Clause} (hclause : request.clause [] = .ok clause) :
    (Stores.mk (some events) profiles clock).service.overview request =
      let t := Report.totals
        (events.filter (Database.selects ⟨events, clock⟩ clause.conditions))
      .ok [("sessions", Report.countValue t.sessions),
        ("pageviews", Report.countValue t.pageviews), ("users", Report.countValue t.users)] := by
  have hnormal : ∀ selected, schema.normalize (Report.rows selected .overview) =
      .ok (Report.rows selected .overview, []) := by
    intro selected
    exact Schema.normalize_of_isNormal (List.forall_mem_singleton.mpr (isNormal_totals _))
  rw [overview, hclause]
  show (normalized (.ok (Report.rows (events.filter _) .overview))).map _ = _
  rw [normalized, Outcome.ok_bind, hnormal]
  rfl

end Service

/-! ## Agreement -/

namespace Request

variable {request : Request} {kept : Clause}

/-- The clause of a group selects the page views of the request whose path has a match. -/
theorem exists_pageviewClause [ZoneDatabase] (hkept : request.clause [] = .ok kept) {path : String}
    (hpath : path ≠ "") {depth : Value} {text : String}
    (htext : PathGroup.regexText path depth = .ok text) {r : Regex}
    (hr : Regex.ofText? text = some r) :
    ∃ clause, Service.pageviewClause request path depth = .ok clause ∧ ∀ db : Database, ∀ e,
      db.selects clause.conditions e = (db.selects kept.conditions e && (e.type == "pageview" &&
        (e.attributes .pathname).any fun path => r.matchesIn path.toList)) := by
  have hgroup : groupCondition (.given 2) path depth = .ok (pathCondition (.given 2) text) := by
    rw [groupCondition, htext]
    rfl
  obtain ⟨clause, hclause, hselects⟩ := exists_clause hkept (isFurther_group hgroup)
  refine ⟨clause, ?_, fun db e => ?_⟩
  · rw [Service.pageviewClause, if_neg hpath, hgroup]
    exact hclause
  · rw [hselects]
    simp [passes_pageviewCondition, passes_pathCondition db _ hr e]

variable {events : List Event} {profiles : ProfileStore} {clock : Timestamp}

/-- The page views of a path among those of a group: all of the path, if the group has it. -/
theorem length_withValue_selected (db : Database) (conditions : List Expr) {selects : Event → Bool}
    {r : Regex}
    (hselects : ∀ e, selects e = (db.selects conditions e && (e.type == "pageview" &&
      (e.attributes .pathname).any fun path => r.matchesIn path.toList))) (s : String) :
    (Report.withValue .pathname (some s) (db.events.filter selects)).length =
      if r.matchesIn s.toList then db.countViews conditions (some s) else 0 := by
  rw [Report.withValue, List.filter_filter, ← List.countP_eq_length_filter]
  have hpath : ∀ e : Event, (e.attributes .pathname == some s && selects e) =
      (r.matchesIn s.toList && (db.selects conditions e && e.type == "pageview" &&
        e.attributes .pathname == some s)) := by
    intro e
    rw [hselects]
    by_cases h : e.attributes .pathname = some s
    · simp only [h, Option.any_some, beq_self_eq_true, Bool.true_and, Bool.and_true]
      rw [← Bool.and_assoc, Bool.and_comm]
    · rw [beq_eq_false_iff_ne.mpr h, Bool.false_and, Bool.and_false, Bool.and_false]
  rw [funext hpath]
  split
  · next hmatches => simp only [hmatches, Bool.true_and, Database.countViews]
  · next hmatches => simp [hmatches]

/-- The answered counts of a group are those of the paths that it has, and add up to the number of
its page views. -/
theorem exists_views [ZoneDatabase] (hkept : request.clause [] = .ok kept) {path : String}
    (hpath : path ≠ "") {depth : Value} {text : String}
    (htext : PathGroup.regexText path depth = .ok text) {r : Regex}
    (hr : Regex.ofText? text = some r) :
    ∃ views, (Stores.mk (some events) profiles clock).service.pageviewCounts request path depth =
        .ok (Service.answered views) ∧
      (views.map (·.1)).Nodup ∧
      (∀ s n, (s, n) ∈ views ↔ r.matchesIn s.toList = true ∧
        n = Database.countViews ⟨events, clock⟩ kept.conditions (some s) ∧ 0 < n) ∧
      (views.map (·.2)).sum = events.countP fun e =>
        Database.selects ⟨events, clock⟩ kept.conditions e && (e.type == "pageview" &&
          (e.attributes .pathname).any fun path => r.matchesIn path.toList) := by
  obtain ⟨clause, hclause, hselects⟩ := exists_pageviewClause hkept hpath htext hr
  have hpaths : ∀ e ∈ events.filter (Database.selects ⟨events, clock⟩ clause.conditions),
      (e.attributes .pathname).isSome := by
    intro e he
    have hselected := (List.mem_filter.mp he).2
    simp only [hselects, Bool.and_eq_true] at hselected
    cases hpath : e.attributes .pathname with
    | none => simp [hpath] at hselected
    | some s => rfl
  obtain ⟨views, hviews, hnodup⟩ := Service.exists_views hpaths
  refine ⟨views, Service.pageviewCounts_eq hclause rfl hviews hnodup, hnodup, ?_, ?_⟩
  · intro s n
    have hmem : (s, n) ∈ views ↔ Service.pathCount (s, n) ∈ views.map Service.pathCount :=
      (List.mem_map_of_injective Service.pathCount_injective).symm
    have hlength := length_withValue_selected ⟨events, clock⟩ kept.conditions
      (hselects ⟨events, clock⟩) s
    rw [hmem, ← hviews, Report.mem_pathCounts]
    show n = (Report.withValue .pathname (some s) _).length ∧ 0 < n ↔ _
    rw [hlength]
    split
    · next hmatches => simp [hmatches]
    · next hmatches =>
      simp [hmatches]
  · have hsum := Report.sum_pathCounts
      (events.filter (Database.selects ⟨events, clock⟩ clause.conditions))
    rw [hviews, List.map_map, ← List.countP_eq_length_filter, funext (hselects _)] at hsum
    exact hsum

/-- Every selected page view has a path or has none. -/
theorem countPageviews_eq (db : Database) (conditions : List Expr) {r : Regex}
    (hr : ∀ text, r.matchesIn text = true) :
    Report.countPageviews (db.events.filter (db.selects conditions)) =
      (db.events.countP fun e => db.selects conditions e && (e.type == "pageview" &&
        (e.attributes .pathname).any fun path => r.matchesIn path.toList)) +
      db.countViews conditions none := by
  rw [Report.countPageviews, List.countP_filter,
    List.countP_eq_countP_filter_add _ _ fun e => (e.attributes .pathname).isSome,
    List.countP_filter, List.countP_filter, Database.countViews]
  refine congrArg₂ _ (List.countP_congr fun e _ => ?_) (List.countP_congr fun e _ => ?_)
  · cases e.attributes .pathname with
    | none => simp
    | some s => simp [hr, and_comm]
  · cases e.attributes .pathname with
    | none => simp [and_comm]
    | some s => simp

/-- Page counts and totals agree.  If a request has a clause, the page views of every group of
pages are answered: there is one count for each path that the expression of the group matches and
that occurs in a selected page view, and it is the number of these page views.  The counts of all
pages, and the page views without a path, add up to the page views of the overview. -/
theorem pageviews_agree [ZoneDatabase] (hkept : request.clause [] = .ok kept) (events : List Event)
    (profiles : ProfileStore) (clock : Timestamp) :
    let db : Database := ⟨events, clock⟩
    let service := (Stores.mk (some events) profiles clock).service
    (∀ path depth text, path ≠ "" → PathGroup.regexText path depth = .ok text →
      ∃ r views, Regex.ofText? text = some r ∧
        service.pageviewCounts request path depth = .ok (Service.answered views) ∧
        (views.map (·.1)).Nodup ∧ ∀ s n, (s, n) ∈ views ↔
          r.matchesIn s.toList = true ∧ n = db.countViews kept.conditions (some s) ∧ 0 < n) ∧
    ∃ views totals,
      service.pageviewCounts request "/" .null = .ok (Service.answered views) ∧
      service.overview request = .ok totals ∧
      Fields.get totals "pageviews" =
        Report.countValue ((views.map (·.2)).sum + db.countViews kept.conditions none) := by
  intro db service
  refine ⟨?_, ?_⟩
  · intro path depth text hpath htext
    obtain ⟨d, hd, -⟩ := Outcome.map_eq_ok.mp htext
    have hr := PathGroup.ofText?_regexText hd htext
    obtain ⟨views, hcounts, hnodup, hmem, -⟩ := exists_views hkept hpath htext hr
    exact ⟨_, views, hr, hcounts, hnodup, hmem⟩
  · have hr : Regex.ofText? "^" = some (.seq .start .empty) := rfl
    have htext : PathGroup.regexText "/" .null = .ok "^" := rfl
    obtain ⟨views, hcounts, -, -, hsum⟩ := exists_views hkept (by decide) htext hr
    refine ⟨views, _, hcounts, Service.overview_eq hkept, ?_⟩
    rw [hsum, ← countPageviews_eq db kept.conditions Regex.matchesIn_start]
    rfl

/-- A visit of a page whose path looks like a number. -/
def numberedVisit : Event :=
  { visit 1 hourEnd with attributes := fun a => if a = .pathname then some "007" else none }

/-- The counts and the totals of two visits, one of them without a path. -/
theorem pageviews_agree_numbered : ∃ kept, withoutSignup.clause [] = .ok kept ∧
    let db : Database := ⟨[visit 1 hourEnd, numberedVisit], hourEnd⟩
    let service := (Stores.mk (some db.events) .empty hourEnd).service
    (∃ r views, Regex.ofText? "^/shop/[^/]+$" = some r ∧
      service.pageviewCounts withoutSignup "/shop/" (.int 1) = .ok (Service.answered views) ∧
      (views.map (·.1)).Nodup ∧ ∀ s n, (s, n) ∈ views ↔
        r.matchesIn s.toList = true ∧ n = db.countViews kept.conditions (some s) ∧ 0 < n) ∧
    ∃ views totals,
      service.pageviewCounts withoutSignup "/" .null = .ok (Service.answered views) ∧
      service.overview withoutSignup = .ok totals ∧
      Fields.get totals "pageviews" =
        Report.countValue ((views.map (·.2)).sum + db.countViews kept.conditions none) := by
  obtain ⟨time, f, htime, -, hfilters⟩ := withoutSignup_compile
  obtain ⟨built, hbuilt⟩ := exists_built rfl hfilters
  obtain ⟨_, _, _, _, _, kept, hkept⟩ := @assembles withoutSignup [] 1 _ nofun rfl _ htime _ hbuilt
  obtain ⟨hgroups, htotals⟩ :=
    pageviews_agree hkept.isClause [visit 1 hourEnd, numberedVisit] .empty hourEnd
  have hshop : PathGroup.regexText "/shop/" (.int 1) = .ok "^/shop/[^/]+$" := rfl
  exact ⟨kept, hkept.isClause, hgroups _ _ _ (by decide) hshop, htotals⟩

end Request

end Clickstream
