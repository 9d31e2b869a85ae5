import StreamingCompass.Projection.Snapshot

/-! # Durable replay validation

`DurableReplayValidator` on a connection of its own: one REPEATABLE READ, READ ONLY
transaction, whose statements all see the state its first query saw.
-/
namespace StreamingCompass
open Interleaving

/-! ## Read-only sessions -/

inductive ReadOperation where
  | transactionStatus
  | begin
  | setRepeatableReadReadOnly
  | selectHistory (orderId : String)
  | selectProjectionState (orderId : String)
  | commit
  | rollback
deriving DecidableEq

abbrev ReadOperation.Answer : ReadOperation → Type
  | .transactionStatus => Bool
  | .begin => Unit
  | .setRepeatableReadReadOnly => Unit
  | .selectHistory _ => List OrderEventRow
  | .selectProjectionState _ => Option ProjectionStateRow
  | .commit => Unit
  | .rollback => Unit

abbrev ReadReply (op : ReadOperation) : Type := Reply ReadOperation.Answer PyException op
abbrev ReadProgram (α : Type) : Type := Program ReadOperation ReadOperation.Answer PyException α
abbrev ReadRoutine (α : Type) : Type := Routine ReadOperation ReadOperation.Answer PyException Unit α

/-- The state of a reading connection. -/
structure ReadSession where
  isOpen : Bool
  repeatable : Bool
  failed : Bool
  /-- what the first query of a REPEATABLE READ transaction saw -/
  snapshot : Option Tables

namespace ReadSession

def idle : ReadSession := ⟨false,false,false,none⟩

/-- What a query sees while `committed` is the committed state. -/
def view (x : ReadSession) (committed : Tables) : Tables :=
  if x.repeatable then x.snapshot.getD committed else committed

def query {α : Type} (x : ReadSession) (committed : Tables) (text : String) (f : Tables → α) :
    Except PyException α × ReadSession :=
  if hasNul text then (.error nulInText,x)
  else if x.failed then (.error inFailedSqlTransaction,x)
  else (.ok (f (x.view committed)),{x with snapshot := some (x.view committed)})

def exec (x : ReadSession) (committed : Tables) : (op : ReadOperation) → ReadReply op × ReadSession
  | .transactionStatus => (.ok (!x.isOpen),x)
  | .begin => (.ok (),{x with isOpen := true})
  | .setRepeatableReadReadOnly =>
    if x.snapshot.isSome then
      (.error (.databaseError "25001"
        "SET TRANSACTION ISOLATION LEVEL must be called before any query"),{x with failed := true})
    else (.ok (),{x with repeatable := true})
  | .selectHistory orderId => x.query committed orderId (fun t => t.history orderId)
  | .selectProjectionState orderId =>
    x.query committed orderId (fun t => t.projectionStates orderId)
  | .commit | .rollback => (.ok (),.idle)

end ReadSession

/-! ## The validator -/

inductive ReplayValidationStatus where | match | missingProjection | drift | noAcceptedHistory
deriving DecidableEq, Repr

structure ReplayValidationResult where
  orderId : String
  status : ReplayValidationStatus
  expectedState : Option OrderState
  persistedState : Option OrderState
  reason : String
deriving DecidableEq, Repr

namespace DurableReplayValidator

def perform (op : ReadOperation) : ReadRoutine op.Answer := Routine.perform op

/-- `PostgresEventStore.load` -/
def load (orderId : String) : ReadRoutine (List OrderEvent) := do
  let rows ← perform (.selectHistory orderId)
  pure (rows.map rowToOrderEvent)

/-- `PostgresProjectionStore.load_state` -/
def loadState (orderId : String) : ReadRoutine (Option OrderState) := do
  let row ← perform (.selectProjectionState orderId)
  pure (row.map PostgresProjectionWorker.stateOfRow)

/-- The comparison at the end of `_validate_order`. -/
def compare (orderId : String) (expected : OrderState) :
    Option OrderState → ReplayValidationResult
  | none => ⟨orderId,.missingProjection,some expected,none,
      "Accepted history exists but projection state is missing"⟩
  | some persisted =>
    if !persisted.eq expected then ⟨orderId,.drift,some expected,some persisted,
      "Persisted projection state differs from replay-derived state"⟩
    else ⟨orderId,.match,some expected,some persisted,
      "Persisted projection state matches replay-derived state"⟩

/-- `_validate_order` -/
def validate (orderId : String) : ReadRoutine ReplayValidationResult := do
  let acceptedEvents ← load orderId
  if acceptedEvents.isEmpty then
    let persisted ← loadState orderId
    pure ⟨orderId,.noAcceptedHistory,none,persisted,"No accepted history exists for order"⟩
  else
    let expected ← Routine.ofExcept (reduceHistory orderId acceptedEvents)
    let persisted ← loadState orderId
    pure (compare orderId expected persisted)

/-- `with connection.transaction()` on an idle connection. -/
def withTransaction {α : Type} (body : ReadRoutine α) : ReadRoutine α := do
  perform .begin
  match ← Routine.attempt body with
  | .ok a =>
    perform .commit
    pure a
  | .error e =>
    perform .rollback
    Routine.raise e

/-- `validate_order` -/
def validateOrder (orderId : String) : ReadRoutine ReplayValidationResult := do
  if ← perform .transactionStatus then
    withTransaction (do
      perform .setRepeatableReadReadOnly
      validate orderId)
  else Routine.raise (.runtimeError ("DurableReplayValidator.validate_order requires an idle " ++
    "connection so it can own a top-level transaction"))

def program (orderId : String) : ReadProgram (Except PyException ReplayValidationResult) :=
  (validateOrder orderId ()).bind (fun out => .done out.1)

end DurableReplayValidator
end StreamingCompass
