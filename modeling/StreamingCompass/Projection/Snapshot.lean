import StreamingCompass.Iteration.Loop
import StreamingCompass.Projection.Worker

/-! # Projection snapshots

`storage/postgres_projection_snapshot_store.py`, the tail source and the two components
that read a snapshot with the tail of its order: the replay validator and the
snapshot-assisted resolver. Both page through the tail until a page is empty.
-/
namespace StreamingCompass
open Iteration

/-- A snapshot as the store hands it back. What a corrupt row may hold is not excluded. -/
structure ProjectionSnapshot where
  snapshotId : Uuid
  orderId : String
  sourceEventId : String
  sourceEventSequence : ℤ
  sourceGlobalPosition : ℤ
  stateStatus : String
  totalAmount : Decimal
  paidAmount : Decimal
  stateVersion : ℤ
  snapshotSchemaVersion : ℤ
  reducerVersion : String
deriving DecidableEq, Repr

/-- `a == b` of two order states: money compares numerically. -/
def OrderState.eq (a b : OrderState) : Bool :=
  a.orderId == b.orderId && a.status == b.status && a.totalAmount.eq b.totalAmount &&
    a.paidAmount.eq b.paidAmount && a.version == b.version

/-- `OrderStatus(text)` -/
def OrderStatus.ofText (text : String) : Option OrderStatus :=
  [OrderStatus.init,.created,.paid].find? (fun s => s.value == text)

/-- `load_after_sequence` of a tail source. -/
abbrev TailEventSource := String → ℤ → ℤ → Except PyException (List ProjectionEventRecord)

def recordOfRow (row : OrderEventRow) : ProjectionEventRecord :=
  ⟨row.globalPosition,rowToOrderEvent row⟩

/-- The rows of one order after a sequence, `ORDER BY sequence ASC LIMIT limit`. -/
def Tables.tail (t : Tables) (orderId : String) (sequence limit : ℤ) : List OrderEventRow :=
  ((t.history orderId).filter (fun row => sequence < row.sequence)).take limit.toNat

def PostgresOrderEventTailSource.loadAfterSequence (t : Tables) : TailEventSource :=
  fun orderId sequence limit =>
    if (strip orderId).isEmpty then .error (.valueError "order_id must not be empty")
    else if sequence < 0 then .error (.valueError "sequence must be non-negative")
    else if limit ≤ 0 then .error (.valueError "limit must be positive")
    else .ok ((t.tail orderId sequence limit).map recordOfRow)

/-- The check of one page; the cursor moves to its last record. -/
def checkBatch (orderId : String) (cursor : ℤ) (batch : List ProjectionEventRecord) :
    Except PyException ℤ :=
  batch.foldlM (fun current record =>
    if record.event.orderId ≠ orderId then .error (.valueError
      "Tail event source returned an event for a different order_id.")
    else if record.event.sequence ≠ current+1 then .error (.valueError
      ("Tail event source returned a non-contiguous order-local sequence: expected " ++
        toString (current+1) ++ ", got " ++ toString record.event.sequence ++ "."))
    else .ok record.event.sequence) cursor

/-- One round of `_load_all_tail_records`: the records so far and the cursor. -/
def tailRound (source : TailEventSource) (orderId : String) (limit : ℤ)
    (s : List ProjectionEventRecord × ℤ) :
    List ProjectionEventRecord × ℤ ⊕ Except PyException (List ProjectionEventRecord) :=
  match source orderId s.2 limit with
  | .error e => .inr (.error e)
  | .ok [] => .inr (.ok s.1)
  | .ok batch => match checkBatch orderId s.2 batch with
    | .error e => .inr (.error e)
    | .ok current => .inl (s.1 ++ batch,current)

/-- `_load_all_tail_records`, with the number of page reads. -/
def loadAllTailRecords (source : TailEventSource) (limit : ℤ) (fuel : ℕ) (orderId : String)
    (sourceEventSequence : ℤ) : Option (Except PyException (List ProjectionEventRecord) × ℕ) :=
  run (tailRound source orderId limit) fuel ([],sourceEventSequence)

/-- `_hydrate_snapshot_state` -/
def hydrateSnapshotState (snapshot : ProjectionSnapshot) : Except PyException OrderState :=
  match OrderStatus.ofText snapshot.stateStatus with
  | none => .error (.valueError ("Unsupported snapshot state_status: " ++ snapshot.stateStatus))
  | some status => .ok ⟨snapshot.orderId,status,snapshot.totalAmount,snapshot.paidAmount,
      snapshot.stateVersion⟩

/-- The tail replay: the state reached and, if the reducer refused a record, its exception. -/
def replayTail (s : OrderState) : List ProjectionEventRecord → OrderState × Option PyException
  | [] => (s,none)
  | record :: records => match reduceOrderEvent s record.event with
    | .ok s' => replayTail s' records
    | .error e => (s,some e)

def supportedSnapshotStatuses : List String := [OrderStatus.created.value,OrderStatus.paid.value]

inductive ProjectionSnapshotReplayValidationStatus where
  | match
  | missingSnapshot
  | noAcceptedHistoryForOrder
  | invalidSnapshotBoundary
  | tailEventSourceContractViolation
  | snapshotAssistedDrift
deriving DecidableEq, Repr

structure ProjectionSnapshotReplayValidationResult where
  status : ProjectionSnapshotReplayValidationStatus
  orderId : String
  snapshotId : Option Uuid
  sourceGlobalPosition : Option ℤ
  snapshotAssistedState : Option OrderState
  authorityState : Option OrderState
  reason : String
deriving DecidableEq, Repr

/-- The stores the validator is built over, and its page size, checked by its constructor. -/
structure ProjectionSnapshotReplayValidator where
  loadLatestSnapshot : String → Option ProjectionSnapshot
  load : String → List OrderEvent
  tailEventSource : TailEventSource
  tailEventLimit : ℤ
  positive : 0 < tailEventLimit

namespace ProjectionSnapshotReplayValidator

/-- `_validate_snapshot_boundary` -/
def validateSnapshotBoundary (snapshot : ProjectionSnapshot) (requestedOrderId : String)
    (authorityMaxSequence : ℤ) : Option String :=
  if snapshot.orderId ≠ requestedOrderId then
    some ("Snapshot order_id does not match requested order_id: snapshot.order_id=" ++
      snapshot.orderId ++ ", requested_order_id=" ++ requestedOrderId)
  else if snapshot.sourceGlobalPosition ≤ 0 then
    some "Snapshot source_global_position must be positive."
  else if snapshot.sourceEventSequence ≤ 0 then
    some "Snapshot source_event_sequence must be positive."
  else if snapshot.sourceEventSequence > authorityMaxSequence then
    some ("Snapshot source_event_sequence is ahead of accepted history: " ++
      "snapshot.source_event_sequence=" ++ toString snapshot.sourceEventSequence ++
      ", authority_max_sequence=" ++ toString authorityMaxSequence)
  else if snapshot.stateVersion < 0 then some "Snapshot state_version must be non-negative."
  else if snapshot.stateVersion > snapshot.sourceEventSequence then
    some "Snapshot state_version must not be ahead of source_event_sequence."
  else if snapshot.stateVersion ≠ snapshot.sourceEventSequence then
    some ("Current order projection reducer requires snapshot state_version " ++
      "to equal source_event_sequence.")
  else if snapshot.stateStatus ∉ supportedSnapshotStatuses then
    some ("Unsupported snapshot state_status: " ++ snapshot.stateStatus)
  else none

variable (V : ProjectionSnapshotReplayValidator)

/-- What the validator answers once the snapshot's boundary is valid. -/
def compareTail (fuel : ℕ) (orderId : String) (snapshot : ProjectionSnapshot)
    (authorityState : OrderState) :
    Option (Except PyException ProjectionSnapshotReplayValidationResult × ℕ) :=
  let answer := fun status assisted reason =>
    (⟨status,orderId,some snapshot.snapshotId,some snapshot.sourceGlobalPosition,assisted,
      some authorityState,reason⟩ : ProjectionSnapshotReplayValidationResult)
  match hydrateSnapshotState snapshot with
  | .error e =>
    some (if e.isValueError then .ok (answer .invalidSnapshotBoundary none e.str) else .error e,0)
  | .ok state =>
    (loadAllTailRecords V.tailEventSource V.tailEventLimit fuel orderId
      snapshot.sourceEventSequence).map (fun out => (match out.1 with
      | .error e =>
        if e.isValueError then
          .ok (answer .tailEventSourceContractViolation (some state) e.str)
        else .error e
      | .ok records => match replayTail state records with
        | (assisted,some e) =>
          if e.isValueError then .ok (answer .snapshotAssistedDrift (some assisted)
            ("Snapshot-assisted tail replay failed: " ++ e.str))
          else .error e
        | (assisted,none) =>
          if !assisted.eq authorityState then .ok (answer .snapshotAssistedDrift (some assisted)
            "Snapshot-assisted replay differs from accepted-history replay.")
          else .ok (answer .match (some assisted)
            "Snapshot-assisted replay matches accepted-history replay."),out.2))

/-- `validate_order`, with the number of tail pages read; `none` when the fuel is used up. -/
def validateOrder (fuel : ℕ) (orderId : String) :
    Option (Except PyException ProjectionSnapshotReplayValidationResult × ℕ) :=
  let snapshot := V.loadLatestSnapshot orderId
  let acceptedEvents := V.load orderId
  if acceptedEvents.isEmpty then
    some (.ok ⟨.noAcceptedHistoryForOrder,orderId,snapshot.map (fun s => s.snapshotId),
      snapshot.map (fun s => s.sourceGlobalPosition),none,none,
      "No accepted history exists for order."⟩,0)
  else match reduceHistory orderId acceptedEvents with
    | .error e => some (.error e,0)
    | .ok authorityState => match snapshot with
      | none => some (.ok ⟨.missingSnapshot,orderId,none,none,none,some authorityState,
          "No projection snapshot exists for order; authority state was reconstructed from " ++
            "accepted history."⟩,0)
      | some snapshot =>
        match validateSnapshotBoundary snapshot orderId
          ((acceptedEvents.map (fun e => e.sequence)).foldr max 0) with
        | some invalidReason => some (.ok ⟨.invalidSnapshotBoundary,orderId,
            some snapshot.snapshotId,some snapshot.sourceGlobalPosition,none,
            some authorityState,invalidReason⟩,0)
        | none => V.compareTail fuel orderId snapshot authorityState

end ProjectionSnapshotReplayValidator

inductive ProjectionSnapshotAssistedResolutionStatus where
  | resolvedFromSnapshot
  | missingSnapshot
  | invalidSnapshotPrecondition
  | invalidSnapshotCompatibility
  | tailEventSourceContractViolation
  | tailReplayFailed
deriving DecidableEq, Repr

structure ProjectionSnapshotAssistedResolutionResult where
  orderId : String
  status : ProjectionSnapshotAssistedResolutionStatus
  resolvedState : Option OrderState
  snapshotId : Option Uuid
  sourceGlobalPosition : Option ℤ
  reason : String
deriving DecidableEq, Repr

def supportedSnapshotSchemaVersion : ℤ := 1
def supportedReducerVersion : String := "order_projection_reducer:v1"

/-- The stores the resolver is built over, and its page size, checked by its constructor. -/
structure ProjectionSnapshotAssistedStateResolver where
  loadSnapshot : Uuid → Option ProjectionSnapshot
  tailEventSource : TailEventSource
  tailEventLimit : ℤ
  positive : 0 < tailEventLimit

namespace ProjectionSnapshotAssistedStateResolver

def schemaVersionReason (snapshot : ProjectionSnapshot) : String :=
  "Snapshot snapshot_schema_version is not supported by this resolver: " ++
    "snapshot.snapshot_schema_version=" ++ toString snapshot.snapshotSchemaVersion ++
    ", supported_snapshot_schema_version=" ++ toString supportedSnapshotSchemaVersion

def reducerVersionReason (snapshot : ProjectionSnapshot) : String :=
  "Snapshot reducer_version is not supported by this resolver: snapshot.reducer_version=" ++
    snapshot.reducerVersion ++ ", supported_reducer_version=" ++ supportedReducerVersion

/-- `_validate_snapshot_compatibility` -/
def validateSnapshotCompatibility (snapshot : ProjectionSnapshot) (requestedOrderId : String) :
    Option String :=
  if snapshot.orderId ≠ requestedOrderId then
    some ("Snapshot order_id does not match requested order_id: snapshot.order_id=" ++
      snapshot.orderId ++ ", requested_order_id=" ++ requestedOrderId)
  else if snapshot.sourceGlobalPosition ≤ 0 then
    some "Snapshot source_global_position must be positive."
  else if snapshot.sourceEventSequence ≤ 0 then
    some "Snapshot source_event_sequence must be positive."
  else if snapshot.stateVersion < 0 then some "Snapshot state_version must be non-negative."
  else if snapshot.stateVersion > snapshot.sourceEventSequence then
    some "Snapshot state_version must not be ahead of source_event_sequence."
  else if snapshot.stateVersion ≠ snapshot.sourceEventSequence then
    some ("Current order projection reducer requires snapshot state_version " ++
      "to equal source_event_sequence.")
  else if snapshot.snapshotSchemaVersion ≠ supportedSnapshotSchemaVersion then
    some (schemaVersionReason snapshot)
  else if snapshot.reducerVersion ≠ supportedReducerVersion then
    some (reducerVersionReason snapshot)
  else if snapshot.stateStatus ∉ supportedSnapshotStatuses then
    some ("Unsupported snapshot state_status: " ++ snapshot.stateStatus)
  else none

variable (R : ProjectionSnapshotAssistedStateResolver)

/-- What the resolver answers about a compatible snapshot. -/
def resolveTail (fuel : ℕ) (orderId : String) (snapshot : ProjectionSnapshot) :
    Option (Except PyException ProjectionSnapshotAssistedResolutionResult × ℕ) :=
  let answer := fun status state reason =>
    (⟨orderId,status,state,some snapshot.snapshotId,some snapshot.sourceGlobalPosition,
      reason⟩ : ProjectionSnapshotAssistedResolutionResult)
  match hydrateSnapshotState snapshot with
  | .error e =>
    some (if e.isValueError then .ok (answer .invalidSnapshotCompatibility none e.str)
      else .error e,0)
  | .ok state =>
    (loadAllTailRecords R.tailEventSource R.tailEventLimit fuel orderId
      snapshot.sourceEventSequence).map (fun out => (match out.1 with
      | .error e =>
        if e.isValueError then .ok (answer .tailEventSourceContractViolation none e.str)
        else .error e
      | .ok records => match replayTail state records with
        | (_,some e) =>
          if e.isValueError then .ok (answer .tailReplayFailed none
            ("Snapshot-assisted tail replay failed: " ++ e.str))
          else .error e
        | (resolved,none) => .ok (answer .resolvedFromSnapshot (some resolved)
            "Projection state resolved from snapshot and tail replay."),out.2))

/-- `resolve_order`, with the number of tail pages read; `none` when the fuel is used up. -/
def resolveOrder (fuel : ℕ) (orderId : String) (trustedSnapshotId : Option Uuid) :
    Option (Except PyException ProjectionSnapshotAssistedResolutionResult × ℕ) :=
  match trustedSnapshotId with
  | none => some (.ok ⟨orderId,.invalidSnapshotPrecondition,none,none,none,
      "trusted_snapshot_id is required."⟩,0)
  | some snapshotId => match R.loadSnapshot snapshotId with
    | none => some (.ok ⟨orderId,.missingSnapshot,none,some snapshotId,none,
        "Projection snapshot was not found."⟩,0)
    | some snapshot => match validateSnapshotCompatibility snapshot orderId with
      | some invalidReason => some (.ok ⟨orderId,.invalidSnapshotCompatibility,none,
          some snapshot.snapshotId,some snapshot.sourceGlobalPosition,invalidReason⟩,0)
      | none => R.resolveTail fuel orderId snapshot

end ProjectionSnapshotAssistedStateResolver
end StreamingCompass
