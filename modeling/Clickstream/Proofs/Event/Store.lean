import Clickstream.Event.Store

/-!
# Runs of writes

Batches of records are written to an open store one after the other (`insertAll`).  No write fails
if and only if every record can be read as an event (`insertAll_succeeds_iff`); then the store holds
the events of all records, in the order of the records (`insertAll_store`).  Where the batches begin
and end does not matter.
-/

namespace Clickstream

namespace Event

/-- The columns can hold a record. -/
def Reads (fields : Fields) : Prop :=
  ∃ e, ofFields fields = .ok e

/-- The events of the records that the columns can hold. -/
def ofRecords (records : List Fields) : List Event :=
  records.filterMap fun fields => (ofFields fields).toOption

@[simp] theorem ofRecords_append (records records' : List Fields) :
    ofRecords (records ++ records') = ofRecords records ++ ofRecords records' :=
  List.filterMap_append

end Event

namespace EventStore

/-! ## A write -/

/-- Reading stops at no fault if and only if there is none. -/
theorem readRecords_fault_iff (records : List Fields) :
    (readRecords records).2 = none ↔ ∀ fields ∈ records, Event.Reads fields := by
  induction records with
  | nil => simp [readRecords]
  | cons fields rest ih =>
    rw [List.forall_mem_cons, ← ih, readRecords]
    cases hread : Event.ofFields fields with
    | error fault => simp [Event.Reads, hread]
    | ok e => simp [Event.Reads, hread]

theorem readRecords_events {records : List Fields} (h : ∀ fields ∈ records, Event.Reads fields) :
    (readRecords records).1 = Event.ofRecords records := by
  induction records with
  | nil => rfl
  | cons fields rest ih =>
    obtain ⟨⟨e, he⟩, hrest⟩ := List.forall_mem_cons.mp h
    simp [readRecords, Event.ofRecords, he, ih hrest, Except.toOption]

/-- A write to an open store adds the records before the first fault, and fails if there is one. -/
theorem insert_some (events : List Event) (records : List Fields) :
    insert (some events) records =
      (match (readRecords records).2 with
        | some fault => .error (insertFailure fault)
        | none => .ok records.length,
      some (events ++ (readRecords records).1)) := by
  cases records with
  | nil => simp [insert, readRecords]
  | cons fields rest => rfl

theorem insert_succeeds_iff (events : List Event) (records : List Fields) :
    (∃ n, (insert (some events) records).1 = .ok n) ↔ ∀ fields ∈ records, Event.Reads fields := by
  rw [← readRecords_fault_iff, insert_some]
  cases (readRecords records).2 <;> simp

theorem insert_store (events : List Event) {records : List Fields}
    (h : ∀ fields ∈ records, Event.Reads fields) :
    (insert (some events) records).2 = some (events ++ Event.ofRecords records) := by
  rw [insert_some, readRecords_events h]

/-! ## A run -/

/-- Writes batches of records one after the other. -/
def insertAll (store : EventStore) : List (List Fields) → List (Outcome Nat) × EventStore
  | [] => ([], store)
  | records :: rest =>
    let (result, written) := store.insert records
    let (results, store) := insertAll written rest
    (result :: results, store)

/-- No write of a run fails. -/
def Succeeds (results : List (Outcome Nat)) : Prop :=
  ∀ result ∈ results, ∃ n, result = .ok n

theorem insertAll_cons (store : EventStore) (records : List Fields) (rest : List (List Fields)) :
    store.insertAll (records :: rest) =
      ((store.insert records).1 :: ((store.insert records).2.insertAll rest).1,
        ((store.insert records).2.insertAll rest).2) := rfl

/-- A write to an open store leaves it open. -/
theorem exists_insert_store (events : List Event) (records : List Fields) :
    ∃ written, (insert (some events) records).2 = some written :=
  ⟨_, congrArg Prod.snd (insert_some events records)⟩

/-- No write fails if every record can be read, whatever batch it is in. -/
theorem insertAll_succeeds_iff (events : List Event) (batches : List (List Fields)) :
    Succeeds (insertAll (some events) batches).1 ↔
      ∀ fields ∈ batches.flatten, Event.Reads fields := by
  induction batches generalizing events with
  | nil => simp [insertAll, Succeeds]
  | cons records rest ih =>
    obtain ⟨written, hwritten⟩ := exists_insert_store events records
    rw [insertAll_cons, hwritten, List.flatten_cons, List.forall_mem_append, ← ih written,
      ← insert_succeeds_iff events, Succeeds, List.forall_mem_cons]
    rfl

theorem insertAll_store (events : List Event) {batches : List (List Fields)}
    (h : ∀ fields ∈ batches.flatten, Event.Reads fields) :
    (insertAll (some events) batches).2 = some (events ++ Event.ofRecords batches.flatten) := by
  induction batches generalizing events with
  | nil => simp [insertAll, Event.ofRecords]
  | cons records rest ih =>
    rw [List.flatten_cons, List.forall_mem_append] at h
    rw [insertAll_cons, insert_store events h.1]
    dsimp only
    rw [ih _ h.2, List.flatten_cons, Event.ofRecords_append, List.append_assoc]

end EventStore

end Clickstream
