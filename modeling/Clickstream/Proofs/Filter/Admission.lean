import Clickstream.Filter.Reader
import Clickstream.Proofs.Filter.Partition

/-!
# Filters that are read compile

The reader of requests and the compiler know the same parameters: those of the fixed set, and those
that refer to a parameter of the URL by a name (`isKnownParameter_iff`).  What the reader lets
through has a known parameter and at least one value (`IsAdmitted`), and every such filter is read
from the object that it is sent as (`IsAdmitted.ofValue_toValue`).  So unless a filter asks for a
coordinate, whose values are looked at by the compiler only, the filters of a request compile
(`readRequest_compiles`).
-/

namespace Clickstream

namespace Filter

/-! ## Parameters -/

theorem names_standard : Bindings.names Strategy.standard = fixedParameters := rfl

/-- A parameter is known if and only if there is a strategy for it. -/
theorem isKnownParameter_iff {parameter : String} : isKnownParameter parameter = true ↔
    ∃ strategy, Strategy.resolve Strategy.standard parameter = .ok strategy := by
  unfold isKnownParameter Strategy.resolve
  cases hget : Bindings.get? Strategy.standard parameter with
  | some strategy =>
    have hfixed : parameter ∈ fixedParameters := by
      rw [← names_standard, ← Bindings.isSome_get?_iff, hget]
      rfl
    simp [hfixed]
  | none =>
    have hfixed : parameter ∉ fixedParameters := by
      rwa [← names_standard, ← Bindings.get?_eq_none_iff]
    -- What is left is the same check of the same name on both sides.
    cases urlName? parameter with
    | none => simp [hfixed, reject]
    | some name => by_cases hname : isUrlName name = true <;>
        simp [hfixed, Strategy.ofUrlName, hname, reject]

/-! ## Filters -/

/-- What the reader lets through. -/
structure IsAdmitted (filter : Filter) : Prop where
  known : isKnownParameter filter.parameter = true
  values : filter.values ≠ []

theorem known_of_readParameter {v : Value} {parameter : String}
    (h : readParameter v = .ok parameter) : isKnownParameter parameter = true := by
  unfold readParameter at h
  split at h
  · split at h
    next hknown =>
      cases h
      exact hknown
    next => cases h
  · cases h

theorem ne_nil_of_readValues {v : Value} {values : List String} (h : readValues v = .ok values) :
    values ≠ [] := by
  unfold readValues at h
  split at h
  · cases h
  · next items hitems =>
    rintro rfl
    cases items with
    | nil => exact hitems rfl
    | cons item items =>
      split at h
      · next values htexts =>
        cases h
        cases item with
        | text s =>
          obtain ⟨rest, -, hrest⟩ := Option.map_eq_some_iff.mp htexts
          cases hrest
        | _ => cases htexts
      · cases h
  · cases h

theorem isAdmitted_of_ofValue {v : Value} {filter : Filter} (h : ofValue v = .ok filter) :
    filter.IsAdmitted := by
  unfold ofValue at h
  split at h
  · split at h
    · obtain ⟨parameter, hparameter, h⟩ := Outcome.bind_eq_ok.mp h
      obtain ⟨kind, -, h⟩ := Outcome.bind_eq_ok.mp h
      obtain ⟨values, hvalues, h⟩ := Outcome.bind_eq_ok.mp h
      cases h
      exact ⟨known_of_readParameter hparameter, ne_nil_of_readValues hvalues⟩
    · cases h
  · cases h

theorem isAdmitted_of_readAll {items : List Value} {filters : List Filter}
    (h : readAll items = .ok filters) : ∀ filter ∈ filters, filter.IsAdmitted := by
  induction items generalizing filters with
  | nil =>
    cases h
    exact nofun
  | cons v items ih =>
    obtain ⟨filter, hfilter, h⟩ := Outcome.bind_eq_ok.mp h
    obtain ⟨rest, hrest, h⟩ := Outcome.bind_eq_ok.mp h
    cases h
    exact List.forall_mem_cons.mpr ⟨isAdmitted_of_ofValue hfilter, ih hrest⟩

theorem isAdmitted_of_readList {v : Value} {filters : List Filter}
    (h : readList v = .ok filters) : ∀ filter ∈ filters, filter.IsAdmitted := by
  cases v with
  | list items => exact isAdmitted_of_readAll h
  | _ => cases h

/-- Whatever form the filters of a request come in, those that are read are admitted. -/
theorem isAdmitted_of_readRequest {payload : Value} {filters : List Filter}
    (h : readRequest payload = .ok filters) : ∀ filter ∈ filters, filter.IsAdmitted := by
  unfold readRequest at h
  split at h
  · cases h
    exact nofun
  · cases h
    exact nofun
  · cases h
    exact nofun
  · obtain ⟨v, -, h⟩ := Outcome.bind_eq_ok.mp h
    exact isAdmitted_of_readList h
  · split at h
    · cases h
    · obtain ⟨v, -, h⟩ := Outcome.bind_eq_ok.mp h
      exact isAdmitted_of_readList h
  · exact isAdmitted_of_readList h

/-! ## Filters as values -/

/-- A filter as an object, the way it is sent. -/
def toValue (filter : Filter) : Value :=
  .object [("parameter", .text filter.parameter), ("type", .text filter.kind.name),
    ("value", .list (filter.values.map .text))]

theorem ofValue?_name (kind : FilterKind) : FilterKind.ofValue? (.text kind.name) = some kind := by
  cases kind <;> rfl

theorem readTexts?_map (values : List String) :
    readTexts? (values.map .text) = some values := by
  induction values with
  | nil => rfl
  | cons value values ih => simp [readTexts?, ih]

theorem readValues_map {values : List String} (h : values ≠ []) :
    readValues (.list (values.map .text)) = .ok values := by
  cases values with
  | nil => exact absurd rfl h
  | cons value values =>
    have htexts := readTexts?_map (value :: values)
    rw [List.map_cons] at htexts ⊢
    simp only [readValues, htexts]

/-- An admitted filter is read from its object. -/
theorem IsAdmitted.ofValue_toValue {filter : Filter} (h : filter.IsAdmitted) :
    ofValue filter.toValue = .ok filter := by
  obtain ⟨parameter, kind, values⟩ := filter
  have hparameter : readParameter (.text parameter) = .ok parameter := if_pos h.known
  have hkind : readKind (.text kind.name) = .ok kind := by rw [readKind, ofValue?_name]
  have hvalues := readValues_map h.values
  have hfields : unexpectedFields [("parameter", .text parameter), ("type", .text kind.name),
      ("value", .list (values.map .text))] = [] := by
    simp [unexpectedFields]
  simp only [toValue, ofValue, hfields]
  show (do
    let parameter ← readParameter (.text parameter)
    let kind ← readKind (.text kind.name)
    let values ← readValues (.list (values.map .text))
    .ok ⟨parameter, kind, values⟩ : Outcome Filter) = _
  rw [hparameter, hkind, hvalues]
  rfl

/-- Admitted filters are read from the list of their objects. -/
theorem readAll_map_toValue {filters : List Filter} (h : ∀ filter ∈ filters, filter.IsAdmitted) :
    readAll (filters.map toValue) = .ok filters := by
  induction filters with
  | nil => rfl
  | cons filter filters ih =>
    obtain ⟨hfilter, hfilters⟩ := List.forall_mem_cons.mp h
    rw [List.map_cons, readAll, hfilter.ofValue_toValue, ih hfilters]
    rfl

/-! ## Compiling what was read -/

/-- An admitted filter has a strategy that accepts its values, unless it asks for a coordinate. -/
theorem IsAdmitted.isAccepted {filter : Filter} (h : filter.IsAdmitted)
    (hparameter : filter.parameter ∉ Strategy.coordinateParameters) : filter.IsAccepted := by
  obtain ⟨strategy, hstrategy⟩ := isKnownParameter_iff.mp h.known
  exact ⟨strategy, hstrategy, Strategy.accepts_of_text hstrategy hparameter _ _⟩

/-- The reader and the compiler agree.  They know the same parameters, and whatever filters are read
from a request, if none of them asks for a coordinate, they compile for every site and every time
range. -/
theorem readRequest_compiles [ZoneDatabase] :
    (∀ parameter, isKnownParameter parameter = true ↔
      ∃ strategy, Strategy.resolve Strategy.standard parameter = .ok strategy) ∧
    ∀ payload filters, readRequest payload = .ok filters →
      (∀ filter ∈ filters, filter.parameter ∉ Strategy.coordinateParameters) →
      ∀ (range : TimeRangeSpec) (now : Moment) (time : Fragment),
        range.compile now = .ok time → ∀ site : Int,
          ∃ f, compile Strategy.standard filters (.int site) time.condition = .ok f := by
  refine ⟨fun _ => isKnownParameter_iff, ?_⟩
  intro payload filters hread hparameters range now time htime site
  obtain ⟨hwindow, -⟩ := TimeRange.renders_window htime
  refine (exists_compile_iff hwindow).mpr fun filter hfilter => ?_
  exact (isAdmitted_of_readRequest hread filter hfilter).isAccepted (hparameters filter hfilter)

/-- A parameter of the URL beside a condition on sessions. -/
def sourceAndEntry : List Filter :=
  [⟨"utm_source", .contains, ["news"]⟩, ⟨"entry_page", .notEquals, ["/", "/a"]⟩]

theorem sourceAndEntry_isAdmitted : ∀ filter ∈ sourceAndEntry, filter.IsAdmitted := by
  intro filter hfilter
  rcases List.mem_pair.mp hfilter with rfl | rfl
  · exact ⟨by decide, List.cons_ne_nil _ _⟩
  · exact ⟨by decide, List.cons_ne_nil _ _⟩

/-- The filters compile for the last hour of a site once they are read. -/
theorem readRequest_compiles_sourceAndEntry : ∃ time f,
    readRequest (.list (sourceAndEntry.map toValue)) = .ok sourceAndEntry ∧
    Request.withoutSignup.range.compile Request.withoutSignup.now = .ok time ∧
    compile Strategy.standard sourceAndEntry (.int 1) time.condition = .ok f := by
  obtain ⟨time, -, htime, -⟩ := Request.withoutSignup_compile
  have hread : readRequest (.list (sourceAndEntry.map toValue)) = .ok sourceAndEntry :=
    readAll_map_toValue sourceAndEntry_isAdmitted
  obtain ⟨f, hf⟩ := readRequest_compiles.2 _ _ hread (by decide) _ _ _ htime 1
  exact ⟨time, f, hread, htime, hf⟩

end Filter

end Clickstream
