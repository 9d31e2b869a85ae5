import StreamingCompass.Transactional.WriteSide

/-! # Invocations of the write side

`create_order` and `pay_order` in their plain, traced and measured variants. A measured
variant delivers the producer's value with the measurement, or without it when the
readings do not form a valid snapshot.
-/
namespace StreamingCompass
open Interleaving

inductive PhaseMeasurement where
  | notApplicable | notReached | notCollected
  | measured (elapsedNs : ℤ)
deriving DecidableEq, Repr

def PhaseMeasurement.wasReached : PhaseMeasurement → Bool
  | .notCollected | .measured _ => true
  | _ => false

/-- The constructor of one phase; `false` is a `ValueError`. -/
def PhaseMeasurement.valid : PhaseMeasurement → Bool
  | .measured elapsedNs => decide (0 ≤ elapsedNs)
  | _ => true

def PostgresWriteSideMeasurementPhase.all : List PostgresWriteSideMeasurementPhase :=
  [.producerWriteInvocation,.businessUow,.validationRuntimeCall,.preliminaryIdempotencyCheck,
   .preliminaryReadCleanup,.authoritativeIdempotencyCheck,.acceptedHistoryLoad,
   .concurrencyPreparationCall,.pessimisticAdvisoryTryLockCall,.appendAdmissionCall,
   .idempotencyRecordCall,.commitFinalization,.rollbackFinalization]

abbrev PostgresWriteSideMeasurement : Type := PostgresWriteSideMeasurementPhase → PhaseMeasurement

namespace PostgresWriteSideMeasurement

/-- `_require_parent_reached` -/
def parents : List (PostgresWriteSideMeasurementPhase × PostgresWriteSideMeasurementPhase) :=
  [(.validationRuntimeCall,.acceptedHistoryLoad),
   (.authoritativeIdempotencyCheck,.businessUow),
   (.concurrencyPreparationCall,.authoritativeIdempotencyCheck),
   (.pessimisticAdvisoryTryLockCall,.concurrencyPreparationCall),
   (.appendAdmissionCall,.concurrencyPreparationCall),
   (.idempotencyRecordCall,.appendAdmissionCall),
   (.commitFinalization,.idempotencyRecordCall),
   (.rollbackFinalization,.businessUow)]

/-- The constructor's checks, those of the phases first; `false` is a `ValueError`. -/
def valid (m : PostgresWriteSideMeasurement) : Bool :=
  let reached := fun phase => (m phase).wasReached
  PostgresWriteSideMeasurementPhase.all.all (fun phase => (m phase).valid) &&
  (match m .producerWriteInvocation with | .measured _ => true | _ => false) &&
  reached .preliminaryIdempotencyCheck == reached .preliminaryReadCleanup &&
  parents.all (fun p => !reached p.1 || reached p.2) &&
  (if reached .businessUow then
    reached .commitFinalization != reached .rollbackFinalization
  else !reached .commitFinalization && !reached .rollbackFinalization)

end PostgresWriteSideMeasurement

/-- `_phase_measurement` -/
def MeasurementRecorder.phaseMeasurement (r : MeasurementRecorder)
    (phase : PostgresWriteSideMeasurementPhase) : PhaseMeasurement :=
  let reading := r.readings phase
  if !reading.applicable then .notApplicable
  else if !reading.reached then .notReached
  else match reading.elapsedNs with
    | none => .notCollected
    | some ns => .measured ns

structure PostgresWriteSideDelivery where
  producerValue : CommandResult
  measurement : Option PostgresWriteSideMeasurement

/-- `build_delivery` -/
def MeasurementRecorder.buildDelivery (r : MeasurementRecorder) (value : CommandResult) :
    PostgresWriteSideDelivery :=
  let measurement : PostgresWriteSideMeasurement := r.phaseMeasurement
  ⟨value,if measurement.valid then some measurement else none⟩

/-- One call of `create_order` or `pay_order`. A clock makes it a measured variant. -/
structure WriteInvocation where
  placement : ValidationPlacement
  gate : Gate
  invokeValidation : InvokeValidation
  signature : RequestSignature
  draw : Draw
  traced : Bool
  clock : Option (ℕ → Option ℤ)

namespace WriteInvocation

def writeSide (v : WriteInvocation) : WriteSide where
  placement := v.placement
  gate := v.gate
  invokeValidation := v.invokeValidation
  buildCandidateEvent := fun aggregate =>
    aggregate.handle v.signature.commandType v.draw v.signature.requestId v.signature.amount

def initialState (v : WriteInvocation) : WriteState where
  finished := false
  preparedOrderIds := []
  collector := if v.traced then some ⟨v.placement,none⟩ else none
  recorder := v.clock.map (MeasurementRecorder.new v.placement)

/-- The producer call between the clock readings of a measured variant. -/
def routine (v : WriteInvocation) : WriteRoutine PostgresWriteSideDelivery := do
  let started ← startPhase .producerWriteInvocation
  let value ← v.writeSide.executeCommand v.signature
  finishPhase .producerWriteInvocation started
  let s ← Routine.get
  match s.recorder with
  | none => pure ⟨value,none⟩
  | some r => pure (r.buildDelivery value)

def program (v : WriteInvocation) : SqlProgram (Except PyException PostgresWriteSideDelivery) :=
  (v.routine v.initialState).bind (fun out => .done out.1)

end WriteInvocation
end StreamingCompass
