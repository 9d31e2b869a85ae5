import StreamingCompass.Storage.Database

/-! # The projection worker

The reducer of `pipeline/projection/reducer.py` and `PostgresProjectionWorker.process_next`
with the stores it calls.
-/
namespace StreamingCompass
open Interleaving

structure OrderState where
  orderId : String
  status : OrderStatus
  totalAmount : Decimal
  paidAmount : Decimal
  version : ℤ
deriving DecidableEq, Repr

def buildEmptyProjectionState (orderId : String) : OrderState := ⟨orderId,.init,.zero,.zero,0⟩

def reduceOrderEvent (s : OrderState) (e : OrderEvent) : Except PyException OrderState :=
  if e.orderId ≠ s.orderId then .error (.valueError
    ("Projection reducer order_id mismatch: state.order_id=" ++ s.orderId ++
      ", event.order_id=" ++ e.orderId))
  else if e.sequence ≠ s.version+1 then .error (.valueError
    ("Projection reducer sequence violation: expected " ++ toString (s.version+1) ++
      ", got " ++ toString e.sequence))
  else match e.eventType with
    | .created =>
      if s.status ≠ .init then .error (.valueError
        "Projection reducer invalid transition: CREATED must follow INIT")
      else .ok ⟨s.orderId,.created,e.amount,.zero,e.sequence⟩
    | .paid =>
      if s.status ≠ .created then .error (.valueError
        "Projection reducer invalid transition: PAID must follow CREATED")
      else if !e.amount.eq s.totalAmount then .error (.valueError
        ("Projection reducer amount mismatch: " ++
          "PAID amount must equal projected total_amount in v1"))
      else .ok ⟨s.orderId,.paid,s.totalAmount,e.amount,e.sequence⟩

/-- The plain fold of the reducer over a history. -/
def reduceHistory (orderId : String) (history : List OrderEvent) : Except PyException OrderState :=
  history.foldlM reduceOrderEvent (buildEmptyProjectionState orderId)

def orderStateProjectionName : String := "order_state_projection"
def orderStateProjectionEpoch : ℕ := 1

/-- The progress identity of one order under the production definition. -/
def progressKey (orderId : String) : ProgressKey :=
  ⟨orderStateProjectionName,orderStateProjectionEpoch,orderId⟩

structure ProjectionEventRecord where
  globalPosition : ℕ
  event : OrderEvent
deriving DecidableEq, Repr

/-- `ProjectionOrderProgress(...)` with the checks of its constructor. -/
def projectionOrderProgress (key : ProgressKey) (lastSequence : ℤ) (lastEventId : String)
    (lastGlobalPosition : ℕ) : Except PyException ProgressRow :=
  if (strip key.projectionName).isEmpty then
    .error (.valueError "projection_name must not be empty")
  else if key.projectionEpoch = 0 then .error (.valueError "projection_epoch must be positive")
  else if (strip key.orderId).isEmpty then .error (.valueError "order_id must not be empty")
  else if lastSequence ≤ 0 then .error (.valueError "last_sequence must be positive")
  else if (strip lastEventId).isEmpty then .error (.valueError "last_event_id must not be empty")
  else if lastGlobalPosition = 0 then
    .error (.valueError "last_global_position must be positive")
  else .ok ⟨key,lastSequence,lastEventId,lastGlobalPosition⟩

inductive WorkerAction where | applied | noEvent
deriving DecidableEq, Repr

structure PostgresProjectionWorkerResult where
  workerName : String
  action : WorkerAction
  globalPosition : Option ℕ
  orderId : Option String
  eventSequence : Option ℤ
  projectedVersion : Option ℤ
deriving DecidableEq, Repr

namespace PostgresProjectionWorker
variable {σ : Type}

/-- `load_eligible` for the current definition, which passes its own argument checks. -/
def loadEligible (limit : ℕ) : SqlRoutine σ (List ProjectionEventRecord) := do
  let rows ← sql (.selectEligible orderStateProjectionName orderStateProjectionEpoch limit)
  pure (rows.map (fun row => ⟨row.globalPosition,rowToOrderEvent row⟩))

def stateOfRow (row : ProjectionStateRow) : OrderState :=
  ⟨row.orderId,row.status,row.totalAmount.toDecimal,row.paidAmount.toDecimal,row.version⟩

def loadState (orderId : String) : SqlRoutine σ (Option OrderState) := do
  let row ← sql (.selectProjectionState orderId)
  pure (row.map stateOfRow)

def saveState (s : OrderState) : SqlRoutine σ Unit :=
  sql (.upsertProjectionState ⟨s.orderId,s.status,s.totalAmount,s.paidAmount,s.version,s.version⟩)

def advanceProgress (p : ProgressRow) : SqlRoutine σ Unit := do
  match ← sql (.advanceProgress p) with
  | some _ => pure ()
  | none => Routine.raise (.projectionProgressConflictError
      ("Projection progress must cite accepted-event lineage and advance " ++
        "by exactly one order-local sequence"))

/-- `with connection.transaction()` on an idle connection. -/
def withTransaction {α : Type} (body : SqlRoutine σ α) : SqlRoutine σ α := do
  sql .begin
  match ← Routine.attempt body with
  | .ok a =>
    sql .commit
    pure a
  | .error e =>
    sql .rollback
    Routine.raise e

/-- Apply one eligible event and advance its order's progress. -/
def applyRecord (workerName : String) (record : ProjectionEventRecord) :
    SqlRoutine σ PostgresProjectionWorkerResult := do
  let event := record.event
  let current ← loadState event.orderId
  let next ← Routine.ofExcept
    (reduceOrderEvent (current.getD (buildEmptyProjectionState event.orderId)) event)
  saveState next
  let progress ← Routine.ofExcept (projectionOrderProgress (progressKey event.orderId)
    event.sequence event.eventId record.globalPosition)
  advanceProgress progress
  pure ⟨workerName,.applied,some record.globalPosition,some event.orderId,some event.sequence,
    some next.version⟩

def processNext (workerName : String) : SqlRoutine σ PostgresProjectionWorkerResult := do
  if ← sql .transactionStatus then
    withTransaction (do
      match ← loadEligible 1 with
      | [] => pure ⟨workerName,.noEvent,none,none,none,none⟩
      | record :: _ => applyRecord workerName record)
  else Routine.raise (.runtimeError ("PostgresProjectionWorker.process_next requires an idle " ++
    "connection so it can own a top-level transaction"))

def program (workerName : String) : SqlProgram (Except PyException PostgresProjectionWorkerResult) :=
  (processNext (σ := Unit) workerName ()).bind (fun out => .done out.1)

end PostgresProjectionWorker
end StreamingCompass
