import Clickstream.Proofs.Event.Store
import Clickstream.Proofs.Filter.Rearranged
import Clickstream.Proofs.Service.Listing

/-!
# Answers and the order of writes

If no write fails, the answers to a request do not depend on the order in which events are written,
nor on the batches in which they are (`answers_of_rearranged`).  If filters ask for the first or the
last page of a session, no two events of a session may have the same time.

A write that fails keeps the records before the fault and drops the others, so it matters in which
order it has them (`overview_of_refused`).
-/

namespace Clickstream

namespace Request

variable {request : Request} {further : List Expr}

/-- A clause selects the same events, whatever their order is. -/
theorem selects_of_rearranges [ZoneDatabase] {clause : Clause}
    (hfurther : ∀ e ∈ further, IsFurther e)
    (hclause : request.clause (further.map some) = .ok clause) {db db' : Database}
    (h : db.Rearranges db')
    (htimes : ∀ filter ∈ request.filters, filter.asksPage = true → Event.TimesDiffer db.events)
    {e : Event} (he : e ∈ db.events) :
    db.selects clause.conditions e = db'.selects clause.conditions e := by
  obtain ⟨site, time, built, hsite, htime, hbuilt⟩ := exists_parts hclause
  obtain ⟨_, _, _, _, _, clause', hassembles⟩ := assembles hfurther hsite htime hbuilt
  obtain rfl : clause' = clause := Except.ok.inj (hassembles.isClause.symm.trans hclause)
  have hwindow := hassembles.isWindow
  rw [hassembles.selects_eq, hassembles.selects_eq, ← h.inScope hwindow]
  -- Outside of the scope, the other conditions do not matter.
  cases hscope : db.inScope site time.condition e with
  | false => rfl
  | true =>
    have hmem : e ∈ db.scopeEvents site time.condition := List.mem_filter.mpr ⟨he, hscope⟩
    have hmem' := (h.scopeEvents hwindow site).mem_iff.mp hmem
    have hplain : ∀ c ∈ further, c.Respects Database.Rearranges := fun c hc =>
      (hfurther c hc).respects fun _ _ h => h.clock
    have hfilters : request.filters.all (Filter.passes db site time.condition e) =
        request.filters.all (Filter.passes db' site time.condition e) :=
      all_congr_of_mem fun filter hfilter =>
        Filter.passes_of_rearranges h hwindow (htimes filter hfilter) site e
    rw [List.map_append, List.all_append, List.all_append, Respects.passes_all hplain h e.cell,
      Filter.passes_conditionsFrom hmem hbuilt, Filter.passes_conditionsFrom hmem' hbuilt, hfilters]

/-- The answers to a request over the same events, in any two orders, are the same. -/
theorem answers_of_perm [ZoneDatabase] {events events' : List Event} (hperm : events.Perm events')
    (htimes : ∀ filter ∈ request.filters, filter.asksPage = true → Event.TimesDiffer events)
    (profiles : ProfileStore) (clock : Timestamp) :
    let service := (Stores.mk (some events) profiles clock).service
    let service' := (Stores.mk (some events') profiles clock).service
    (∀ path depth, service.pageviewCounts request path depth =
      service'.pageviewCounts request path depth) ∧
    service.overview request = service'.overview request ∧
    ∀ limit, service.identifiedUsers request limit = service'.identifiedUsers request limit := by
  refine Service.answers_congr rfl fun report further hfurther clause hclause => ?_
  have hrearranges : Database.Rearranges ⟨events, clock⟩ ⟨events', clock⟩ := ⟨rfl, hperm⟩
  have hsame : ∀ e ∈ events, Database.selects ⟨events, clock⟩ clause.conditions e =
      Database.selects ⟨events', clock⟩ clause.conditions e := fun e he =>
    selects_of_rearranges hfurther hclause hrearranges htimes he
  refine congrArg Except.ok (Report.rows_of_perm ?_ report)
  rw [List.filter_congr hsame]
  exact hperm.filter _

/-- The order of the writes does not matter.  Two runs of writes that have the same records, in any
order and in any batches, give the same answers to a request afterwards, provided that no write
fails.  If filters ask for the first or the last page of sessions, no two events of a session may
have the same time. -/
theorem answers_of_rearranged [ZoneDatabase] (request : Request) (events : List Event)
    (profiles : ProfileStore) (clock : Timestamp) {batches batches' : List (List Fields)}
    (hperm : batches.flatten.Perm batches'.flatten)
    (hsucceeds : EventStore.Succeeds (EventStore.insertAll (some events) batches).1)
    (htimes : (∃ filter ∈ request.filters,
        filter.parameter = "entry_page" ∨ filter.parameter = "exit_page") →
      ∀ stored, (EventStore.insertAll (some events) batches).2 = some stored →
        Event.TimesDiffer stored) :
    EventStore.Succeeds (EventStore.insertAll (some events) batches').1 ∧
    let store := (EventStore.insertAll (some events) batches).2
    let store' := (EventStore.insertAll (some events) batches').2
    let service := (Stores.mk store profiles clock).service
    let service' := (Stores.mk store' profiles clock).service
    (∀ path depth, service.pageviewCounts request path depth =
      service'.pageviewCounts request path depth) ∧
    service.overview request = service'.overview request ∧
    ∀ limit, service.identifiedUsers request limit = service'.identifiedUsers request limit := by
  have hreads := (EventStore.insertAll_succeeds_iff events batches).mp hsucceeds
  have hreads' : ∀ fields ∈ batches'.flatten, Event.Reads fields := fun fields hfields =>
    hreads fields (hperm.mem_iff.mpr hfields)
  refine ⟨(EventStore.insertAll_succeeds_iff events batches').mpr hreads', ?_⟩
  have hstore := EventStore.insertAll_store events hreads
  rw [hstore, EventStore.insertAll_store events hreads']
  have hpages : ∀ filter ∈ request.filters, filter.asksPage = true →
      Event.TimesDiffer (events ++ Event.ofRecords batches.flatten) := by
    intro filter hfilter hpage
    rw [Filter.asksPage, Bool.or_eq_true, beq_iff_eq, beq_iff_eq] at hpage
    exact htimes ⟨filter, hfilter, hpage⟩ _ hstore
  exact answers_of_perm ((hperm.filterMap _).append_left events) hpages profiles clock

/-! ## Two records -/

/-- A record of a page view. -/
def pageRecord (site : Int) (path : String) (t : Timestamp) : Fields :=
  [("site_id", .int site), ("session_id", .text "session"), ("user_id", .text "user"),
   ("timestamp", .moment ⟨t, none⟩), ("pathname", .text path)]

/-- A request about all times. -/
def allTime (filters : List Filter) : Request :=
  ⟨.int 1, filters, .unrestricted, ⟨hourEnd, none⟩⟩

theorem answers_of_rearranged_entered :
    let first := pageRecord 1 "/a" hourStart
    let last := pageRecord 1 "/b" hourEnd
    let store := (EventStore.insertAll (some []) [[first], [last]]).2
    let store' := (EventStore.insertAll (some []) [[], [last, first]]).2
    let request := allTime [⟨"entry_page", .equals, ["/a"]⟩]
    (Stores.mk store .empty hourEnd).service.overview request =
      (Stores.mk store' .empty hourEnd).service.overview request := by
  have hperm : [[pageRecord 1 "/a" hourStart], [pageRecord 1 "/b" hourEnd]].flatten.Perm
      [[], [pageRecord 1 "/b" hourEnd, pageRecord 1 "/a" hourStart]].flatten := .swap _ _ _
  have hsucceeds : EventStore.Succeeds (EventStore.insertAll (some [])
      [[pageRecord 1 "/a" hourStart], [pageRecord 1 "/b" hourEnd]]).1 := by
    rw [EventStore.insertAll_succeeds_iff]
    intro fields hfields
    rcases List.mem_pair.mp hfields with rfl | rfl
    · exact ⟨_, rfl⟩
    · exact ⟨_, rfl⟩
  refine (answers_of_rearranged _ [] .empty hourEnd hperm hsucceeds ?_).2.2.1
  rintro - stored ⟨⟩
  refine List.pairwise_pair.mpr fun _ => ?_
  show hourStart ≠ hourEnd
  decide

/-- A record that the columns cannot hold leaves out the records after it in its batch. -/
theorem overview_of_refused :
    let kept := pageRecord 1 "/a" hourEnd
    let refused := pageRecord (2 ^ 31) "/a" hourEnd
    let store := (EventStore.insertAll (some []) [[kept, refused]]).2
    let store' := (EventStore.insertAll (some []) [[refused, kept]]).2
    [[kept, refused]].flatten.Perm [[refused, kept]].flatten ∧
      (Stores.mk store .empty hourEnd).service.overview (allTime []) ≠
        (Stores.mk store' .empty hourEnd).service.overview (allTime []) := by
  refine ⟨.swap _ _ _, fun heq => ?_⟩
  have hkept : (Stores.mk (EventStore.insertAll (some [])
      [[pageRecord 1 "/a" hourEnd, pageRecord (2 ^ 31) "/a" hourEnd]]).2 .empty
      hourEnd).service.overview (allTime []) =
    .ok [("sessions", .int 1), ("pageviews", .int 1), ("users", .int 1)] := by rfl
  have hlost : (Stores.mk (EventStore.insertAll (some [])
      [[pageRecord (2 ^ 31) "/a" hourEnd, pageRecord 1 "/a" hourEnd]]).2 .empty
      hourEnd).service.overview (allTime []) = .ok Service.zeroTotals := by rfl
  rw [hkept, hlost] at heq
  have htotals := Except.ok.inj heq
  simp [Service.zeroTotals] at htotals

end Request

end Clickstream
