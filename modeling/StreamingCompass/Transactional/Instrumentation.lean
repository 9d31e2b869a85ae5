import StreamingCompass.Transactional.Idempotency
import StreamingCompass.Transition.Validation

/-! # Trace and measurement of one write

The invocation-local objects of the write side: the unit-of-work flag, the orders the
pessimistic gate prepared, the trace collector and the measurement recorder. The
last two exist only when the caller asked for them.
-/
namespace StreamingCompass
open Interleaving

inductive ValidationPlacement where | inTransaction | preTransaction
deriving DecidableEq, Repr

def ValidationPlacement.value : ValidationPlacement → String
  | .inTransaction => "IN_TRANSACTION"
  | .preTransaction => "PRE_TRANSACTION"

inductive PostgresWriteSideExecutionCheckpoint where
  | preliminaryIdempotencyCheckReturned
  | acceptedHistoryObserved
  | validationReturned
  | businessUowReached
  | authoritativeIdempotencyCheckReturned
  | concurrencyPreparationReturned
  | appendAdmissionReturned
  | idempotencyPersistenceReturned
deriving DecidableEq, Repr

def canonicalCheckpointsFor : ValidationPlacement → List PostgresWriteSideExecutionCheckpoint
  | .preTransaction =>
    [.preliminaryIdempotencyCheckReturned,.acceptedHistoryObserved,.validationReturned,
     .businessUowReached,.authoritativeIdempotencyCheckReturned,.concurrencyPreparationReturned,
     .appendAdmissionReturned,.idempotencyPersistenceReturned]
  | .inTransaction =>
    [.businessUowReached,.authoritativeIdempotencyCheckReturned,.concurrencyPreparationReturned,
     .acceptedHistoryObserved,.validationReturned,.appendAdmissionReturned,
     .idempotencyPersistenceReturned]

/-- An accepted trace: a non-empty canonical prefix. -/
structure PostgresWriteSideExecutionTrace where
  validationPlacement : ValidationPlacement
  checkpoints : List PostgresWriteSideExecutionCheckpoint
deriving DecidableEq, Repr

/-- The constructor's checks, in its order. -/
def PostgresWriteSideExecutionTrace.create (placement : ValidationPlacement)
    (checkpoints : List PostgresWriteSideExecutionCheckpoint) :
    Except PyException PostgresWriteSideExecutionTrace :=
  if checkpoints = [] then .error (.valueError "checkpoints must not be empty")
  else if ¬checkpoints.Nodup then .error (.valueError "checkpoints must not contain duplicates")
  else if checkpoints ≠ (canonicalCheckpointsFor placement).take checkpoints.length then
    .error (.valueError ("checkpoints must be a canonical prefix for " ++ placement.value))
  else .ok ⟨placement,checkpoints⟩

structure TraceCollector where
  validationPlacement : ValidationPlacement
  trace : Option PostgresWriteSideExecutionTrace
deriving DecidableEq, Repr

def TraceCollector.record (c : TraceCollector) (p : PostgresWriteSideExecutionCheckpoint) :
    Except PyException TraceCollector := do
  let checkpoints := (c.trace.map (fun t => t.checkpoints)).getD []
  let trace ← PostgresWriteSideExecutionTrace.create c.validationPlacement (checkpoints ++ [p])
  .ok {c with trace := some trace}

inductive PostgresWriteSideMeasurementPhase where
  | producerWriteInvocation
  | businessUow
  | validationRuntimeCall
  | preliminaryIdempotencyCheck
  | preliminaryReadCleanup
  | authoritativeIdempotencyCheck
  | acceptedHistoryLoad
  | concurrencyPreparationCall
  | pessimisticAdvisoryTryLockCall
  | appendAdmissionCall
  | idempotencyRecordCall
  | commitFinalization
  | rollbackFinalization
deriving DecidableEq, Repr

structure PhaseReading where
  applicable : Bool
  reached : Bool
  elapsedNs : Option ℤ
deriving DecidableEq, Repr

/-- The recorder; `clock` lists what each further clock read yields, `none` standing for
an exception or a value that is no integer. -/
structure MeasurementRecorder where
  clock : ℕ → Option ℤ
  ticks : ℕ
  readings : PostgresWriteSideMeasurementPhase → PhaseReading

namespace MeasurementRecorder

def initialApplicability (placement : ValidationPlacement) :
    PostgresWriteSideMeasurementPhase → Bool
  | .preliminaryIdempotencyCheck | .preliminaryReadCleanup => placement == .preTransaction
  | .pessimisticAdvisoryTryLockCall => placement == .inTransaction
  | _ => true

def new (placement : ValidationPlacement) (clock : ℕ → Option ℤ) : MeasurementRecorder :=
  ⟨clock,0,fun phase => ⟨initialApplicability placement phase,false,none⟩⟩

def set (r : MeasurementRecorder) (phase : PostgresWriteSideMeasurementPhase)
    (reading : PhaseReading) : MeasurementRecorder :=
  {r with readings := Function.update r.readings phase reading}

def readClock (r : MeasurementRecorder) : Option ℤ × MeasurementRecorder :=
  (r.clock r.ticks,{r with ticks := r.ticks+1})

def start (r : MeasurementRecorder) (phase : PostgresWriteSideMeasurementPhase) :
    Option ℤ × MeasurementRecorder :=
  (r.set phase ⟨true,true,none⟩).readClock

def finish (r : MeasurementRecorder) (phase : PostgresWriteSideMeasurementPhase)
    (startedNs : Option ℤ) : MeasurementRecorder :=
  match startedNs with
  | none => r
  | some started =>
    match r.readClock with
    | (none,r) => r
    | (some stopped,r) =>
      if stopped < started then r
      else r.set phase {r.readings phase with elapsedNs := some (stopped-started)}

def markApplicable (r : MeasurementRecorder) (phase : PostgresWriteSideMeasurementPhase)
    (applicable : Bool) : MeasurementRecorder :=
  if (r.readings phase).reached then r
  else r.set phase {r.readings phase with applicable := applicable}

end MeasurementRecorder

/-- The mutable objects of one write-side invocation. -/
structure WriteState where
  finished : Bool
  preparedOrderIds : List String
  collector : Option TraceCollector
  recorder : Option MeasurementRecorder

abbrev WriteRoutine (α : Type) : Type := SqlRoutine WriteState α

/-- `_record_checkpoint` -/
def recordCheckpoint (p : PostgresWriteSideExecutionCheckpoint) : WriteRoutine Unit := do
  let s ← Routine.get
  match s.collector with
  | none => pure ()
  | some c =>
    let c ← Routine.ofExcept (c.record p)
    Routine.modify (fun s => {s with collector := some c})

def startPhase (phase : PostgresWriteSideMeasurementPhase) : WriteRoutine (Option ℤ) := do
  let s ← Routine.get
  match s.recorder with
  | none => pure none
  | some r =>
    Routine.modify (fun s => {s with recorder := some (r.start phase).2})
    pure (r.start phase).1

def finishPhase (phase : PostgresWriteSideMeasurementPhase) (startedNs : Option ℤ) :
    WriteRoutine Unit :=
  Routine.modify (fun s => {s with recorder := s.recorder.map (fun r => r.finish phase startedNs)})

/-- `measure_call` when a recorder exists, the bare call otherwise. An exception leaves
the phase unfinished. -/
def measured {α : Type} (phase : PostgresWriteSideMeasurementPhase) (operation : WriteRoutine α) :
    WriteRoutine α := do
  let started ← startPhase phase
  let result ← operation
  finishPhase phase started
  pure result

end StreamingCompass
