import Clickstream.Log.QueryLog
import Clickstream.Proofs.Json.WellFormed
import Clickstream.Proofs.Outcome
import Clickstream.Proofs.Query.Union

/-!
# The own fields of a log line

A line of the log tells the time, the level, the logger, the service and the message of its record
(`Record.facts`).  The fields of the context are written over them, and a field of the same name
takes the place of the own one.  So a line tells the truth if and only if the context has no other
value under one of these names (`QueryLog.tells_truth_iff`).  The message is safe, since no context
may name it.

A line that is written is read as an object.  For this the values of the context have to be
well-formed, and those that have no JSON text are written in their plain form, which is a text
(`isJson_of_writable`).
-/

namespace Clickstream

namespace Record

open Bindings (Over)

/-! ## Written values -/

section

variable {v w : Value}

theorem exists_writable_iff : (∃ w, writable v = .ok w) ↔ v.holdsLong = false := by
  unfold writable Value.plain?
  cases v.holdsLong with
  | true => exact iff_of_false (fun h => nomatch h) nofun
  | false => cases hwrite : Json.write v <;> simp

/-- What is written is a value of JSON. -/
theorem isJson_of_writable (hv : v.IsWellFormed) (h : writable v = .ok w) : Json.IsJson w := by
  have hlong : v.holdsLong = false := exists_writable_iff.mp ⟨w, h⟩
  rw [writable, Value.plain?, hlong] at h
  cases hwrite : Json.write v with
  | error e =>
    rw [hwrite] at h
    cases h
    exact .text _
  | ok t =>
    rw [hwrite] at h
    cases h
    exact hv.isJson hlong hwrite

end

/-! ## Written fields -/

/-- A field is written under its name. -/
def Writes (field written : String × Value) : Prop :=
  written.1 = field.1 ∧ writable field.2 = .ok written.2

section

variable {fields written : Fields}

theorem writableFields_eq_ok :
    writableFields fields = .ok written ↔ List.Forall₂ Writes fields written := by
  induction fields generalizing written with
  | nil =>
    rw [List.forall₂_nil_left_iff]
    constructor
    · intro h
      cases h
      rfl
    · rintro rfl
      rfl
  | cons field fields ih =>
    obtain ⟨name, v⟩ := field
    rw [List.forall₂_cons_left_iff]
    constructor
    · intro h
      obtain ⟨w, hw, h⟩ := Outcome.bind_eq_ok.mp h
      obtain ⟨rest, hrest, h⟩ := Outcome.bind_eq_ok.mp h
      cases h
      exact ⟨(name, w), rest, ⟨rfl, hw⟩, ih.mp hrest, rfl⟩
    · rintro ⟨⟨_, w⟩, rest, ⟨rfl, hw⟩, hrest, rfl⟩
      exact Outcome.bind_eq_ok.mpr ⟨w, hw, Outcome.bind_eq_ok.mpr ⟨rest, ih.mpr hrest, rfl⟩⟩

theorem exists_writableFields_iff :
    (∃ written, writableFields fields = .ok written) ↔
      ∀ field ∈ fields, field.2.holdsLong = false := by
  simp only [writableFields_eq_ok]
  induction fields with
  | nil => exact iff_of_true ⟨[], .nil⟩ nofun
  | cons field fields ih =>
    rw [List.forall_mem_cons, ← ih, ← exists_writable_iff]
    constructor
    · rintro ⟨_, h⟩
      cases h with
      | cons hfield hrest => exact ⟨⟨_, hfield.2⟩, _, hrest⟩
    · rintro ⟨⟨w, hw⟩, rest, hrest⟩
      exact ⟨(field.1, w) :: rest, .cons ⟨rfl, hw⟩ hrest⟩

theorem names_of_writes (h : List.Forall₂ Writes fields written) :
    Bindings.names written = Bindings.names fields := by
  induction h with
  | nil => rfl
  | cons hfield _ ih => exact congrArg₂ List.cons hfield.1 ih

theorem get?_of_writes (h : List.Forall₂ Writes fields written) (name : String) :
    Option.Rel (fun v w => writable v = .ok w) (Bindings.get? fields name)
      (Bindings.get? written name) := by
  induction h with
  | nil => exact .none
  | @cons field written _ _ hfield _ ih =>
    obtain ⟨_, v⟩ := field
    obtain ⟨bound, w⟩ := written
    obtain ⟨rfl, hw⟩ := hfield
    by_cases hbound : bound = name
    · subst hbound
      rw [Bindings.get?_cons_self, Bindings.get?_cons_self]
      exact .some hw
    · rw [Bindings.get?_cons_of_ne hbound, Bindings.get?_cons_of_ne hbound]
      exact ih

end

/-! ## Contexts -/

section

variable {context shown : Fields} {name : String}

theorem notMem_of_checkContext (h : checkContext context = .ok ()) (hname : name ∈ derived) :
    name ∉ Bindings.names context := by
  intro hmem
  unfold checkContext at h
  split at h
  · cases h
  · next hnone =>
    have hfree := List.find?_eq_none.mp hnone name hmem
    simp [hname] at hfree

theorem shownContext_eq_ok : shownContext context = .ok shown ↔
    List.Forall₂ Writes (context.filter fun field => isShown field.1) shown :=
  writableFields_eq_ok

theorem exists_shownContext_iff : (∃ shown, shownContext context = .ok shown) ↔
    ∀ field ∈ context, isShown field.1 = true → field.2.holdsLong = false := by
  simp only [shownContext, exists_writableFields_iff, List.mem_filter, and_imp]

/-- A shown field has the value of the context, as it is written. -/
theorem get?_shownContext (h : shownContext context = .ok shown) (name : String) :
    Option.Rel (fun v w => writable v = .ok w)
      (if isShown name then Bindings.get? context name else none) (Bindings.get? shown name) := by
  have hrel := get?_of_writes (shownContext_eq_ok.mp h) name
  rwa [Bindings.get?_filter] at hrel

theorem over_shownContext (hcontext : Over Value.IsWellFormed context)
    (h : shownContext context = .ok shown) : Over Json.IsJson shown := by
  refine ⟨?_, fun name w hw => ?_⟩
  · rw [names_of_writes (shownContext_eq_ok.mp h), Bindings.names_filter]
    exact hcontext.nodup.filter _
  · have hrel := get?_shownContext h name
    rw [hw] at hrel
    generalize hfound : (if isShown name then Bindings.get? context name else none) = found at hrel
    cases hrel with
    | @some v _ hv =>
      have hgiven := (Option.ite_none_right_eq_some.mp hfound).2
      exact isJson_of_writable (hcontext.value name v hgiven) hv

end

/-! ## Lines -/

variable {r : Record} {own entry : Fields} {text : String}

/-- What a line should tell about its record. -/
def facts (r : Record) (time : Moment) (message : String) : Fields :=
  [("timestamp", .text (time.toText "T")), ("level", .text (Level.name r.level)),
    ("logger", .text r.logger), ("service", .text serviceName), ("message", .text message)]

/-- The field of the cause, if there is one. -/
def causeFields (r : Record) : Fields :=
  match r.cause with
  | some cause => [("exception", .text cause.summary)]
  | none => []

/-- A context can be shown under the names of all these fields but that of the message. -/
theorem isShown_or_message {time : Moment} {message : String} :
    ∀ field ∈ r.facts time message, isShown field.1 = true ∨ field.1 = "message" := by
  have hnames : ∀ name ∈ ["timestamp", "level", "logger", "service", "message"],
      isShown name = true ∨ name = "message" := by decide
  exact fun field hfield => hnames field.1 (List.mem_map_of_mem hfield)

theorem ownFields_eq_ok : r.ownFields = .ok own ↔ ∃ time message, r.time = .ok time ∧
    r.message = .ok message ∧ own = r.facts time message ++ r.causeFields := by
  constructor
  · intro h
    obtain ⟨time, htime, h⟩ := Outcome.bind_eq_ok.mp h
    obtain ⟨message, hmessage, h⟩ := Outcome.bind_eq_ok.mp h
    exact ⟨time, message, htime, hmessage, (Except.ok.inj h).symm⟩
  · rintro ⟨time, message, htime, hmessage, rfl⟩
    exact Outcome.bind_eq_ok.mpr ⟨time, htime, Outcome.bind_eq_ok.mpr ⟨message, hmessage, rfl⟩⟩

theorem over_ownFields (h : r.ownFields = .ok own) : Over Json.IsJson own := by
  obtain ⟨time, message, -, -, rfl⟩ := ownFields_eq_ok.mp h
  have htexts : ∀ field ∈ r.facts time message ++ r.causeFields, Json.IsJson field.2 := by
    cases hcause : r.cause <;> simp [facts, causeFields, hcause, Json.IsJson.text]
  refine ⟨?_, fun name v hv => ?_⟩
  · cases hcause : r.cause <;> simp [facts, causeFields, hcause, Bindings.names]
  · exact htexts (name, v) (Bindings.mem_of_get? hv)

/-- The facts about a record are among its own fields. -/
theorem get?_ownFields {time : Moment} {message : String} (h : r.ownFields = .ok own)
    (htime : r.time = .ok time) (hmessage : r.message = .ok message) {field : String × Value}
    (hfield : field ∈ r.facts time message) : Bindings.get? own field.1 = some field.2 := by
  refine Bindings.get?_of_mem (over_ownFields h).nodup ?_
  obtain ⟨time', message', htime', hmessage', rfl⟩ := ownFields_eq_ok.mp h
  cases htime.symm.trans htime'
  cases hmessage.symm.trans hmessage'
  exact List.mem_append_left _ hfield

theorem entry_eq_ok : r.entry = .ok entry ↔ ∃ own shown, r.ownFields = .ok own ∧
    shownContext r.context = .ok shown ∧ entry = Bindings.update own shown := by
  constructor
  · intro h
    obtain ⟨own, hown, h⟩ := Outcome.bind_eq_ok.mp h
    obtain ⟨shown, hshown, h⟩ := Outcome.bind_eq_ok.mp h
    exact ⟨own, shown, hown, hshown, (Except.ok.inj h).symm⟩
  · rintro ⟨own, shown, hown, hshown, rfl⟩
    exact Outcome.bind_eq_ok.mpr ⟨own, hown, Outcome.bind_eq_ok.mpr ⟨shown, hshown, rfl⟩⟩

/-- The entry of a record has a text, which reads as the entry. -/
theorem line_of_entry (hcontext : Over Value.IsWellFormed r.context) (h : r.entry = .ok entry) :
    ∃ text, r.line = .ok text ∧ Json.readText text = .ok (.object entry) := by
  obtain ⟨own, shown, hown, hshown, rfl⟩ := entry_eq_ok.mp h
  have hover := (over_ownFields hown).update (over_shownContext hcontext hshown)
  have hjson : Json.IsJson (.object (Bindings.update own shown)) :=
    .object hover.nodup fun field hfield =>
      hover.value field.1 field.2 (Bindings.get?_of_mem hover.nodup hfield)
  obtain ⟨text, hwrite, hreads⟩ := hjson.exists_write
  refine ⟨text, ?_, hreads.readText_eq⟩
  rw [line, h, Outcome.ok_bind, hwrite]
  rfl

theorem exists_entry_of_line (h : r.line = .ok text) : ∃ entry, r.entry = .ok entry := by
  obtain ⟨entry, hentry, -⟩ := Outcome.bind_eq_ok.mp h
  exact ⟨entry, hentry⟩

/-- There is a line if the record has a time and a message and no shown field of the context holds
a long integer. -/
theorem exists_line_iff (hcontext : Over Value.IsWellFormed r.context) :
    (∃ text, r.line = .ok text) ↔
      (∃ time, r.time = .ok time) ∧ (∃ message, r.message = .ok message) ∧
        ∀ field ∈ r.context, isShown field.1 = true → field.2.holdsLong = false := by
  rw [← exists_shownContext_iff]
  constructor
  · rintro ⟨text, h⟩
    obtain ⟨entry, hentry⟩ := exists_entry_of_line h
    obtain ⟨own, shown, hown, hshown, -⟩ := entry_eq_ok.mp hentry
    obtain ⟨time, message, htime, hmessage, -⟩ := ownFields_eq_ok.mp hown
    exact ⟨⟨time, htime⟩, ⟨message, hmessage⟩, shown, hshown⟩
  · rintro ⟨⟨time, htime⟩, ⟨message, hmessage⟩, shown, hshown⟩
    have hown := ownFields_eq_ok.mpr ⟨time, message, htime, hmessage, rfl⟩
    obtain ⟨text, htext, -⟩ := line_of_entry hcontext (entry_eq_ok.mpr ⟨_, _, hown, hshown, rfl⟩)
    exact ⟨text, htext⟩

/-- The value that a line has under a name: that of the context, as it is written, or else its
own. -/
def IsWritten (given : Option Value) (own value : Value) : Prop :=
  match given with
  | some v => writable v = .ok value
  | none => value = own

/-- Every line reads as an object, and under the name of an own field it has the value of the
context, if one is shown there. -/
theorem line_tells (hcontext : Over Value.IsWellFormed r.context) {time : Moment}
    {message : String} (htime : r.time = .ok time) (hmessage : r.message = .ok message)
    (h : r.line = .ok text) :
    ∃ entry, Json.readText text = .ok (.object entry) ∧ ∀ field ∈ r.facts time message,
      ∃ value, Bindings.get? entry field.1 = some value ∧
        IsWritten (if isShown field.1 then Bindings.get? r.context field.1 else none) field.2
          value := by
  obtain ⟨entry, hentry⟩ := exists_entry_of_line h
  obtain ⟨_, hline, hread⟩ := line_of_entry hcontext hentry
  cases h.symm.trans hline
  refine ⟨entry, hread, fun field hfield => ?_⟩
  obtain ⟨own, shown, hown, hshown, rfl⟩ := entry_eq_ok.mp hentry
  rw [Bindings.get?_update (over_shownContext hcontext hshown).nodup,
    get?_ownFields hown htime hmessage hfield]
  have hrel := get?_shownContext hshown field.1
  generalize (if isShown field.1 then Bindings.get? r.context field.1 else none) = given at hrel
  generalize Bindings.get? shown field.1 = written at hrel
  cases hrel with
  | none => exact ⟨field.2, rfl, rfl⟩
  | some hv => exact ⟨_, rfl, hv⟩

/-- An object tells the truth about a record. -/
def Tells (r : Record) (time : Moment) (message : String) (entry : Fields) : Prop :=
  ∀ field ∈ r.facts time message, Bindings.get? entry field.1 = some field.2

/-- An object that is written over given values tells the truth if and only if these are the own
ones. -/
theorem tells_iff {time : Moment} {message : String} {given : String → Option Value}
    (h : ∀ field ∈ r.facts time message, ∃ value, Bindings.get? entry field.1 = some value ∧
      IsWritten (given field.1) field.2 value) :
    r.Tells time message entry ↔ ∀ field ∈ r.facts time message, ∀ v, given field.1 = some v →
      writable v = .ok field.2 := by
  refine forall₂_congr fun field hfield => ?_
  obtain ⟨value, hvalue, hwritten⟩ := h field hfield
  rw [hvalue, Option.some_inj]
  cases hgiven : given field.1 with
  | none =>
    rw [hgiven] at hwritten
    exact iff_of_true hwritten nofun
  | some v =>
    rw [hgiven] at hwritten
    have hwritable : writable v = .ok value := hwritten
    simp [hwritable]

end Record

/-! ## Query logs -/

namespace QueryLog

open Bindings (Over)

variable {log : QueryLog} {created : Binary64} {notice : Notice} {r : Record}

/-- The value of the context of a notice under a name, or else that of the request. -/
def contextValue? (log : QueryLog) (notice : Notice) (name : String) : Option Value :=
  (Bindings.get? notice.context name).or (Bindings.get? log.context name)

/-- The context of a record is that of the notice over that of the request, and names nothing that
belongs to the record. -/
theorem context_of_record (h : log.record? created notice = .ok (some r)) :
    r.context = Bindings.update log.context notice.context ∧
      Record.checkContext r.context = .ok () := by
  unfold record? at h
  split at h
  · dsimp only at h
    split at h
    · cases h
    · next hcheck =>
      cases h
      exact ⟨rfl, hcheck⟩
  · cases h

theorem over_context (hlog : Over Value.IsWellFormed log.context)
    (hnotice : Over Value.IsWellFormed notice.context)
    (h : log.record? created notice = .ok (some r)) : Over Value.IsWellFormed r.context := by
  rw [(context_of_record h).1]
  exact hlog.update hnotice

theorem get?_context (hnotice : Over Value.IsWellFormed notice.context)
    (h : log.record? created notice = .ok (some r)) (name : String) :
    Bindings.get? r.context name = log.contextValue? notice name := by
  rw [(context_of_record h).1, Bindings.get?_update hnotice.nodup]
  rfl

/-- No context has a message. -/
theorem contextValue?_message (hnotice : Over Value.IsWellFormed notice.context)
    (h : log.record? created notice = .ok (some r)) :
    log.contextValue? notice "message" = none := by
  rw [← get?_context hnotice h, Bindings.get?_eq_none_iff]
  exact Record.notMem_of_checkContext (context_of_record h).2 List.mem_cons_self

theorem line?_eq_some (h : log.record? created notice = .ok (some r)) {text : String} :
    log.line? created notice = .ok (some text) ↔ r.line = .ok text := by
  rw [line?, h, Outcome.ok_bind]
  constructor
  · intro heq
    obtain ⟨written, hline, hsame⟩ := Outcome.bind_eq_ok.mp heq
    cases hsame
    exact hline
  · intro hline
    exact Outcome.bind_eq_ok.mpr ⟨text, hline, rfl⟩

/-- The line of a record tells the truth about it if and only if the values that the context has
under the names of the own fields are the own ones.  Under each of these names it has the value of
the context if there is one. -/
theorem tells_truth_iff (hlog : Over Value.IsWellFormed log.context)
    (hnotice : Over Value.IsWellFormed notice.context)
    (hrecord : log.record? created notice = .ok (some r)) :
    ((∃ text, log.line? created notice = .ok (some text)) ↔
      (∃ time, r.time = .ok time) ∧ (∃ message, r.message = .ok message) ∧
        ∀ field ∈ r.context, Record.isShown field.1 = true → field.2.holdsLong = false) ∧
    log.contextValue? notice "message" = none ∧
    ∀ time message text, r.time = .ok time → r.message = .ok message →
      log.line? created notice = .ok (some text) →
      ∃ entry, Json.readText text = .ok (.object entry) ∧
        (∀ field ∈ r.facts time message, ∃ value, Bindings.get? entry field.1 = some value ∧
          Record.IsWritten (log.contextValue? notice field.1) field.2 value) ∧
        (r.Tells time message entry ↔ ∀ field ∈ r.facts time message,
          ∀ v, log.contextValue? notice field.1 = some v → Record.writable v = .ok field.2) := by
  have hover := over_context hlog hnotice hrecord
  have hmessageFree := contextValue?_message hnotice hrecord
  simp only [line?_eq_some hrecord]
  refine ⟨Record.exists_line_iff hover, hmessageFree, ?_⟩
  intro time message text htime hmessage hline
  obtain ⟨entry, hread, htells⟩ := Record.line_tells hover htime hmessage hline
  have hall : ∀ field ∈ r.facts time message, ∃ value,
      Bindings.get? entry field.1 = some value ∧
        Record.IsWritten (log.contextValue? notice field.1) field.2 value := by
    intro field hfield
    obtain ⟨value, hfound, hwritten⟩ := htells field hfield
    refine ⟨value, hfound, ?_⟩
    rw [get?_context hnotice hrecord] at hwritten
    split at hwritten
    · exact hwritten
    · next hhidden =>
      rwa [(Record.isShown_or_message field hfield).resolve_left hhidden, hmessageFree]
  exact ⟨entry, hread, hall, Record.tells_iff hall⟩

/-- A quarter of a second after the noon of June 15, 2024. -/
def noon : Binary64 :=
  .finite false 7207713453899776 (-22)

/-- A log with a context. -/
def testLog (context : Fields) : QueryLog :=
  ⟨"site_analytics.test", 20, context⟩

/-- A notice with a context. -/
def helloNotice (context : Fields) : Notice :=
  ⟨20, "hello", [], context, none⟩

/-- The record of both contexts. -/
def helloRecord (context : Fields) : Record :=
  ⟨"site_analytics.test", 20, "hello", [], none, context, noon⟩

theorem over_singleton {v : Value} (hv : v.IsWellFormed) (name : String) :
    Over Value.IsWellFormed [(name, v)] := by
  refine ⟨List.nodup_singleton name, fun other w hw => ?_⟩
  cases List.mem_singleton.mp (Bindings.mem_of_get? hw)
  exact hv

/-- A context that names none of the own fields leaves them alone. -/
theorem tells_truth_iff_rows :
    (testLog [("query", .text "overview")]).record? noon (helloNotice [("rows", .int 3)]) =
      .ok (some (helloRecord [("query", .text "overview"), ("rows", .int 3)])) ∧
    ∃ time text entry,
      (helloRecord [("query", .text "overview"), ("rows", .int 3)]).time = .ok time ∧
      (testLog [("query", .text "overview")]).line? noon (helloNotice [("rows", .int 3)]) =
        .ok (some text) ∧
      Json.readText text = .ok (.object entry) ∧
      (helloRecord [("query", .text "overview"), ("rows", .int 3)]).Tells time "hello" entry := by
  have hquery : (Value.text "overview").IsWellFormed := .leaf rfl nofun
  have hrows : (Value.int 3).IsWellFormed := .leaf rfl nofun
  have hrecord : (testLog [("query", .text "overview")]).record? noon
      (helloNotice [("rows", .int 3)]) =
        .ok (some (helloRecord [("query", .text "overview"), ("rows", .int 3)])) := rfl
  obtain ⟨time, htime⟩ : ∃ time,
    (helloRecord [("query", .text "overview"), ("rows", .int 3)]).time = .ok time := ⟨_, rfl⟩
  obtain ⟨hwritten, -, htells⟩ :=
    tells_truth_iff (over_singleton hquery "query") (over_singleton hrows "rows") hrecord
  obtain ⟨text, hline⟩ := hwritten.mpr ⟨⟨time, htime⟩, ⟨"hello", rfl⟩, by decide⟩
  obtain ⟨entry, hread, -, htruth⟩ := htells time "hello" text htime rfl hline
  refine ⟨hrecord, time, text, entry, htime, hline, hread, htruth.mpr ?_⟩
  intro field hfield v hv
  have hfree : ∀ name ∈ ["timestamp", "level", "logger", "service", "message"],
      (testLog [("query", .text "overview")]).contextValue? (helloNotice [("rows", .int 3)]) name =
        none := by
    simp [contextValue?, testLog, helloNotice, Bindings.get?]
  rw [hfree field.1 (List.mem_map_of_mem hfield)] at hv
  cases hv

/-- The context of a request takes the place of the service in the line. -/
theorem service_forged :
    ∃ text entry,
      (testLog [("service", .text "other")]).line? noon (helloNotice []) = .ok (some text) ∧
      Json.readText text = .ok (.object entry) ∧
      Bindings.get? entry "service" = some (.text "other") ∧ "other" ≠ serviceName := by
  have hother : (Value.text "other").IsWellFormed := .leaf rfl nofun
  have hrecord : (testLog [("service", .text "other")]).record? noon (helloNotice []) =
    .ok (some (helloRecord [("service", .text "other")])) := rfl
  have hcontext : Over Value.IsWellFormed (helloRecord [("service", .text "other")]).context :=
    over_singleton hother "service"
  obtain ⟨text, hline, hread⟩ := Record.line_of_entry hcontext rfl
  exact ⟨text, _, (line?_eq_some hrecord).mpr hline, hread, rfl, by decide⟩

end QueryLog

end Clickstream
