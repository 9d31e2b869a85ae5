import StreamingCompass.Transactional.Admission

/-! # The transactional write side

`PostgresTransactionalWriteSide`: both validation placements, statement by statement,
over the unit of work that commits on a clean exit. The validation runtime and the
candidate builder are arguments, as in the source.
-/
namespace StreamingCompass
open Interleaving

inductive PostgresWriteSideOutcome where
  | accepted | replay | conflict | validationBlocked | admissionRejected
deriving DecidableEq, Repr

structure PostgresWriteSideResult where
  outcome : PostgresWriteSideOutcome
  acceptedEvent : Option OrderEvent
  idempotencyDecision : IdempotencyDecision
  streamAdmissionResult : Option StreamAdmissionResult
  validationDecision : Option ValidationDecision
  admissionResult : Option AdmissionResult
  validationDecisionEvidence : Option ValidationDecisionWithRuleEvidence
deriving DecidableEq, Repr

/-- `_ALLOWED_EXECUTION_TERMINALS` -/
def allowedExecutionTerminals :
    List (ValidationPlacement × PostgresWriteSideOutcome × PostgresWriteSideExecutionCheckpoint) :=
  [(.preTransaction,.replay,.preliminaryIdempotencyCheckReturned),
   (.preTransaction,.replay,.authoritativeIdempotencyCheckReturned),
   (.preTransaction,.conflict,.preliminaryIdempotencyCheckReturned),
   (.preTransaction,.conflict,.authoritativeIdempotencyCheckReturned),
   (.preTransaction,.validationBlocked,.validationReturned),
   (.preTransaction,.admissionRejected,.concurrencyPreparationReturned),
   (.preTransaction,.admissionRejected,.appendAdmissionReturned),
   (.preTransaction,.accepted,.idempotencyPersistenceReturned),
   (.inTransaction,.replay,.authoritativeIdempotencyCheckReturned),
   (.inTransaction,.conflict,.authoritativeIdempotencyCheckReturned),
   (.inTransaction,.validationBlocked,.validationReturned),
   (.inTransaction,.admissionRejected,.concurrencyPreparationReturned),
   (.inTransaction,.admissionRejected,.appendAdmissionReturned),
   (.inTransaction,.accepted,.idempotencyPersistenceReturned)]

/-- A result, with its trace when the invocation was traced. -/
structure CommandResult where
  result : PostgresWriteSideResult
  trace : Option PostgresWriteSideExecutionTrace
deriving DecidableEq, Repr

/-- `PostgresWriteSideExecution(result, trace)` -/
def executionEnvelope (result : PostgresWriteSideResult) (trace : PostgresWriteSideExecutionTrace) :
    Except PyException CommandResult :=
  match trace.checkpoints.getLast? with
  | some terminal =>
    if (trace.validationPlacement,result.outcome,terminal) ∈ allowedExecutionTerminals then
      .ok ⟨result,some trace⟩
    else .error (.valueError
      "result outcome and trace terminal checkpoint are incompatible for validation placement")
  | none => .error (.other "IndexError" "tuple index out of range")

/-- `_finalize_result` -/
def finalizeResult (result : PostgresWriteSideResult) : WriteRoutine CommandResult := do
  let s ← Routine.get
  match s.collector with
  | none => pure ⟨result,none⟩
  | some c => match c.trace with
    | none => Routine.raise (.runtimeError "trace collector has no validated checkpoint")
    | some trace => Routine.ofExcept (executionEnvelope result trace)

/-- `_accepted_event_from_replay` -/
def acceptedEventFromReplay (decision : IdempotencyDecision) : Except PyException OrderEvent :=
  match decision.record with
  | none => .error (.runtimeError "REPLAY idempotency decision must include a record")
  | some record => .ok record.acceptedEvent

namespace PostgresWriteSideUnitOfWork

def commit : WriteRoutine Unit :=
  measured .commitFinalization (do
    sql .commit
    Routine.modify (fun s => {s with finished := true}))

def rollback : WriteRoutine Unit :=
  measured .rollbackFinalization (do
    sql .rollback
    Routine.modify (fun s => {s with finished := true}))

/-- `__exit__`, before it lets an exception of the body propagate. -/
def exit (raised : Bool) : WriteRoutine Unit := do
  let s ← Routine.get
  if s.finished then pure () else if raised then rollback else commit

end PostgresWriteSideUnitOfWork

/-- `with PostgresWriteSideUnitOfWork(connection) as uow`, or its measured subclass. -/
def withUnitOfWork {α : Type} (body : WriteRoutine α) : WriteRoutine α := do
  Routine.modify (fun s => {s with finished := false})
  let started ← startPhase .businessUow
  if ← sql .autocommit then
    Routine.raise (.runtimeError
      "PostgresWriteSideUnitOfWork requires connection.autocommit=False")
  else
    let outcome ← Routine.attempt body
    PostgresWriteSideUnitOfWork.exit (match outcome with | .ok _ => false | .error _ => true)
    finishPhase .businessUow started
    Routine.ofExcept outcome

/-- What `_invoke_validation` returns: a decision, and the carrier it came from when the
runtime gives one. -/
structure InvokedValidation where
  decision : ValidationDecision
  evidence : Option ValidationDecisionWithRuleEvidence
  same : ∀ carrier, evidence = some carrier → carrier.decision = decision

abbrev InvokeValidation : Type :=
  OrderEvent → ValidationContext → Except PyException InvokedValidation

/-- `_invoke_validation` on the repository's runtime. -/
def invokeValidation (mode : ValidationMode) : InvokeValidation := fun candidate context => do
  let carrier ← decideWithRuleEvidence mode candidate context
  .ok ⟨carrier.decision,some carrier,fun c hc => by cases hc; rfl⟩

/-- `_build_validation_context` -/
def buildValidationContext (aggregate : OrderAggregate) (actualPrevEvent : Option OrderEvent) :
    ValidationContext :=
  ⟨actualPrevEvent,aggregate.currentVersion,aggregate.status⟩

/-- The collaborators of one invocation. -/
structure WriteSide where
  placement : ValidationPlacement
  gate : Gate
  invokeValidation : InvokeValidation
  buildCandidateEvent : OrderAggregate → Except PyException OrderEvent

/-- What the shared stages of both placements have established before admission. -/
structure Candidate where
  event : OrderEvent
  expectedCurrentVersion : ℤ
  validation : InvokedValidation

def Candidate.validationDecision (c : Candidate) : ValidationDecision := c.validation.decision
def Candidate.evidence (c : Candidate) : Option ValidationDecisionWithRuleEvidence :=
  c.validation.evidence

namespace WriteSide

/-- An idempotency decision that ends the invocation. -/
def decided (decision : IdempotencyDecision) (validation : Option Candidate) :
    WriteRoutine CommandResult :=
  let result := fun outcome event => finalizeResult
    ⟨outcome,event,decision,none,validation.map (fun c => c.validationDecision),none,
      validation.bind (fun c => c.evidence)⟩
  if decision.verdict = .replay then do
    let event ← Routine.ofExcept (acceptedEventFromReplay decision)
    result .replay (some event)
  else result .conflict none

/-- Build the candidate from a history and have it validated. -/
def validateCandidate (W : WriteSide) (orderId : String) (history : List OrderEvent) :
    WriteRoutine Candidate := do
  let aggregate ← Routine.ofExcept (rehydrate orderId history)
  let context := buildValidationContext aggregate history.getLast?
  let candidate ← Routine.ofExcept (W.buildCandidateEvent aggregate)
  let validation ← measured .validationRuntimeCall
    (Routine.ofExcept (W.invokeValidation candidate context))
  recordCheckpoint .validationReturned
  pure ⟨candidate,aggregate.currentVersion,validation⟩

def validationBlocked (decision : IdempotencyDecision) (prepared : Option StreamAdmissionResult)
    (c : Candidate) : WriteRoutine CommandResult :=
  finalizeResult ⟨.validationBlocked,none,decision,prepared,some c.validationDecision,none,c.evidence⟩

def prepare (W : WriteSide) (orderId : String) : WriteRoutine StreamAdmissionResult := do
  Routine.modify (fun s => {s with recorder := s.recorder.map (fun r =>
    r.markApplicable .pessimisticAdvisoryTryLockCall (W.gate == .pessimistic))})
  let prepared ← measured .concurrencyPreparationCall (prepareStream W.gate orderId)
  recordCheckpoint .concurrencyPreparationReturned
  pure prepared

/-- Append the candidate, and record the request when it was admitted. -/
def appendAndRecord (W : WriteSide) (signature : RequestSignature) (decision : IdempotencyDecision)
    (prepared : StreamAdmissionResult) (c : Candidate) : WriteRoutine CommandResult := do
  let admission ← measured .appendAdmissionCall
    (appendIfAdmitted W.gate c.event c.expectedCurrentVersion)
  recordCheckpoint .appendAdmissionReturned
  if admission.verdict ≠ .admitted then
    PostgresWriteSideUnitOfWork.rollback
    finalizeResult ⟨.admissionRejected,none,decision,some prepared,some c.validationDecision,
      some admission,c.evidence⟩
  else
    measured .idempotencyRecordCall (PostgresIdempotencyStore.record signature c.event)
    recordCheckpoint .idempotencyPersistenceReturned
    finalizeResult ⟨.accepted,some c.event,decision,some prepared,some c.validationDecision,
      some admission,c.evidence⟩

/-- The idempotency check inside the unit of work. -/
def authoritativeCheck (signature : RequestSignature) : WriteRoutine IdempotencyDecision := do
  recordCheckpoint .businessUowReached
  let decision ← measured .authoritativeIdempotencyCheck (PostgresIdempotencyStore.check signature)
  recordCheckpoint .authoritativeIdempotencyCheckReturned
  pure decision

/-- `_execute_in_transaction_command` -/
def executeInTransactionCommand (W : WriteSide) (signature : RequestSignature) :
    WriteRoutine CommandResult :=
  withUnitOfWork (do
    let decision ← authoritativeCheck signature
    if decision.verdict ≠ .miss then
      PostgresWriteSideUnitOfWork.rollback
      decided decision none
    else
      let prepared ← W.prepare signature.orderId
      if prepared.verdict ≠ .admitted then
        PostgresWriteSideUnitOfWork.rollback
        finalizeResult ⟨.admissionRejected,none,decision,some prepared,none,none,none⟩
      else
        let history ← measured .acceptedHistoryLoad (PostgresEventStore.load signature.orderId)
        recordCheckpoint .acceptedHistoryObserved
        let c ← W.validateCandidate signature.orderId history
        if c.validationDecision.action ≠ .allow then
          PostgresWriteSideUnitOfWork.rollback
          validationBlocked decision (some prepared) c
        else W.appendAndRecord signature decision prepared c)

/-- The reads before the unit of work; either an early result or the loaded history. -/
def preliminaryReads (signature : RequestSignature) :
    WriteRoutine (CommandResult ⊕ IdempotencyDecision × List OrderEvent) :=
  Routine.tryFinally (do
    let decision ← measured .preliminaryIdempotencyCheck (PostgresIdempotencyStore.check signature)
    recordCheckpoint .preliminaryIdempotencyCheckReturned
    if decision.verdict ≠ .miss then
      let result ← decided decision none
      pure (.inl result)
    else
      let history ← measured .acceptedHistoryLoad (PostgresEventStore.load signature.orderId)
      recordCheckpoint .acceptedHistoryObserved
      pure (.inr (decision,history)))
    (measured .preliminaryReadCleanup (sql .rollback))

/-- The unit of work of a candidate that was validated before it. -/
def admitCandidate (W : WriteSide) (signature : RequestSignature) (c : Candidate) :
    WriteRoutine CommandResult :=
  withUnitOfWork (do
    let decision ← authoritativeCheck signature
    if decision.verdict ≠ .miss then
      PostgresWriteSideUnitOfWork.rollback
      decided decision (some c)
    else
      let prepared ← W.prepare signature.orderId
      if prepared.verdict ≠ .admitted then
        PostgresWriteSideUnitOfWork.rollback
        finalizeResult ⟨.admissionRejected,none,decision,some prepared,
          some c.validationDecision,none,c.evidence⟩
      else W.appendAndRecord signature decision prepared c)

/-- `_execute_pre_transaction_command` -/
def executePreTransactionCommand (W : WriteSide) (signature : RequestSignature) :
    WriteRoutine CommandResult := do
  match ← preliminaryReads signature with
  | .inl result => pure result
  | .inr (preliminary,history) =>
    let c ← W.validateCandidate signature.orderId history
    if c.validationDecision.action ≠ .allow then validationBlocked preliminary none c
    else W.admitCandidate signature c

/-- `_execute_command` -/
def executeCommand (W : WriteSide) (signature : RequestSignature) : WriteRoutine CommandResult :=
  match W.placement with
  | .inTransaction => W.executeInTransactionCommand signature
  | .preTransaction => W.executePreTransactionCommand signature

end WriteSide
end StreamingCompass
