import StreamingCompass.Transactional.Invocation

/-! # The primary result

What an invocation does and returns apart from its trace, its measurement and the
objects that carry them.
-/
namespace StreamingCompass
open Interleaving

abbrev PrimaryRoutine (α : Type) : Type := SqlRoutine Unit α

/-! ## Results -/

namespace PostgresWriteSideResult

def decided (decision : IdempotencyDecision) (validation : Option Candidate) :
    PostgresWriteSideResult :=
  if decision.verdict = .replay then
    ⟨.replay,decision.record.map (fun r => r.acceptedEvent),decision,none,
      validation.map (fun c => c.validationDecision),none,validation.bind (fun c => c.evidence)⟩
  else ⟨.conflict,none,decision,none,validation.map (fun c => c.validationDecision),none,
    validation.bind (fun c => c.evidence)⟩

def notPrepared (decision : IdempotencyDecision) (prepared : StreamAdmissionResult)
    (validation : Option Candidate) : PostgresWriteSideResult :=
  ⟨.admissionRejected,none,decision,some prepared,validation.map (fun c => c.validationDecision),
    none,validation.bind (fun c => c.evidence)⟩

def blocked (decision : IdempotencyDecision) (prepared : Option StreamAdmissionResult)
    (c : Candidate) : PostgresWriteSideResult :=
  ⟨.validationBlocked,none,decision,prepared,some c.validationDecision,none,c.evidence⟩

def notAppended (decision : IdempotencyDecision) (prepared : StreamAdmissionResult) (c : Candidate)
    (admission : AdmissionResult) : PostgresWriteSideResult :=
  ⟨.admissionRejected,none,decision,some prepared,some c.validationDecision,some admission,c.evidence⟩

def accepted (decision : IdempotencyDecision) (prepared : StreamAdmissionResult) (c : Candidate)
    (admission : AdmissionResult) : PostgresWriteSideResult :=
  ⟨.accepted,some c.event,decision,some prepared,some c.validationDecision,some admission,c.evidence⟩

section Outcomes
variable {decision : IdempotencyDecision} {prepared : StreamAdmissionResult} {c : Candidate}
  {admission : AdmissionResult}

@[simp] theorem notPrepared_outcome {validation : Option Candidate} :
    (notPrepared decision prepared validation).outcome = .admissionRejected := rfl
@[simp] theorem blocked_outcome {prepared : Option StreamAdmissionResult} :
    (blocked decision prepared c).outcome = .validationBlocked := rfl
@[simp] theorem notAppended_outcome :
    (notAppended decision prepared c admission).outcome = .admissionRejected := rfl
@[simp] theorem accepted_outcome : (accepted decision prepared c admission).outcome = .accepted := rfl
@[simp] theorem decided_replay_outcome {r : IdempotencyRecord} {validation : Option Candidate} :
    (decided (.replay r) validation).outcome = .replay := rfl
@[simp] theorem decided_replay_acceptedEvent {r : IdempotencyRecord} {validation : Option Candidate} :
    (decided (.replay r) validation).acceptedEvent = some r.acceptedEvent := rfl
@[simp] theorem decided_conflict_outcome {r : IdempotencyRecord} {validation : Option Candidate} :
    (decided (.conflict r) validation).outcome = .conflict := rfl
theorem decided_outcome_ne {validation : Option Candidate} :
    (decided decision validation).outcome ≠ .accepted := by
  unfold decided
  split <;> simp

end Outcomes
end PostgresWriteSideResult

/-! ## The program -/

/-- The unit of work ends itself: an accepted result is committed, an exception rolled
back, and any other result has been rolled back by the body. -/
def primaryUnitOfWork (body : PrimaryRoutine PostgresWriteSideResult) :
    PrimaryRoutine PostgresWriteSideResult := do
  if ← sql .autocommit then
    Routine.raise (.runtimeError
      "PostgresWriteSideUnitOfWork requires connection.autocommit=False")
  else
    match ← Routine.attempt body with
    | .error e => do
      sql .rollback
      Routine.raise e
    | .ok result =>
      if result.outcome = .accepted then do
        sql .commit
        pure result
      else pure result

namespace WriteSide

/-- The validated candidate of a history. -/
def candidateOf (W : WriteSide) (orderId : String) (history : List OrderEvent) :
    Except PyException Candidate := do
  let aggregate ← rehydrate orderId history
  let event ← W.buildCandidateEvent aggregate
  let validation ← W.invokeValidation event (buildValidationContext aggregate history.getLast?)
  .ok ⟨event,aggregate.currentVersion,validation⟩

theorem candidateOf_eq_ok {W : WriteSide} {orderId : String} {history : List OrderEvent} {c : Candidate}
    (h : W.candidateOf orderId history = .ok c) :
    ∃ a, rehydrate orderId history = .ok a ∧ W.buildCandidateEvent a = .ok c.event ∧
      c.expectedCurrentVersion = a.currentVersion ∧
      W.invokeValidation c.event (buildValidationContext a history.getLast?) = .ok c.validation := by
  simp only [candidateOf, bind, Except.bind] at h
  cases ha : rehydrate orderId history with
  | error e => simp [ha] at h
  | ok a =>
    rw [ha] at h
    simp only at h
    cases hb : W.buildCandidateEvent a with
    | error e => simp [hb] at h
    | ok e =>
      rw [hb] at h
      simp only at h
      cases hv : W.invokeValidation e (buildValidationContext a history.getLast?) with
      | error err => simp [hv] at h
      | ok v =>
        rw [hv] at h
        obtain rfl := Except.ok.inj h
        exact ⟨a,rfl,hb,rfl,hv⟩

def primaryPrepare (gate : Gate) (orderId : String) : PrimaryRoutine StreamAdmissionResult :=
  match gate with
  | .optimistic => pure (.notLocking orderId)
  | .pessimistic => do
    if ← sql .autocommit then pure (.autocommitEnabled orderId)
    else
      let locked ← sql (.tryAdvisoryXactLock "order_events_stream" orderId)
      pure (if locked then .lockAcquired orderId else .lockNotAvailable orderId)

def primaryAppend (W : WriteSide) (s : RequestSignature) (decision : IdempotencyDecision)
    (prepared : StreamAdmissionResult) (c : Candidate) : PrimaryRoutine PostgresWriteSideResult := do
  let admission ← appendWithTranslation W.gate.name c.event c.expectedCurrentVersion
  if admission.verdict ≠ .admitted then
    sql .rollback
    pure (.notAppended decision prepared c admission)
  else
    PostgresIdempotencyStore.record s c.event
    pure (.accepted decision prepared c admission)

def primaryInTransaction (W : WriteSide) (s : RequestSignature) :
    PrimaryRoutine PostgresWriteSideResult :=
  primaryUnitOfWork (do
    let decision ← PostgresIdempotencyStore.check s
    if decision.verdict ≠ .miss then
      sql .rollback
      pure (.decided decision none)
    else
      let prepared ← primaryPrepare W.gate s.orderId
      if prepared.verdict ≠ .admitted then
        sql .rollback
        pure (.notPrepared decision prepared none)
      else
        let history ← PostgresEventStore.load s.orderId
        let c ← Routine.ofExcept (W.candidateOf s.orderId history)
        if c.validationDecision.action ≠ .allow then
          sql .rollback
          pure (.blocked decision (some prepared) c)
        else W.primaryAppend s decision prepared c)

def primaryReads (s : RequestSignature) :
    PrimaryRoutine (PostgresWriteSideResult ⊕ IdempotencyDecision × List OrderEvent) :=
  Routine.tryFinally (do
    let decision ← PostgresIdempotencyStore.check s
    if decision.verdict ≠ .miss then pure (.inl (.decided decision none))
    else
      let history ← PostgresEventStore.load s.orderId
      pure (.inr (decision,history)))
    (sql .rollback)

/-- The unit of work of a candidate validated before it. -/
def primaryAdmission (W : WriteSide) (s : RequestSignature) (c : Candidate) :
    PrimaryRoutine PostgresWriteSideResult :=
  primaryUnitOfWork (do
    let decision ← PostgresIdempotencyStore.check s
    if decision.verdict ≠ .miss then
      sql .rollback
      pure (.decided decision (some c))
    else
      let prepared ← primaryPrepare W.gate s.orderId
      if prepared.verdict ≠ .admitted then
        sql .rollback
        pure (.notPrepared decision prepared (some c))
      else W.primaryAppend s decision prepared c)

def primaryPreTransaction (W : WriteSide) (s : RequestSignature) :
    PrimaryRoutine PostgresWriteSideResult := do
  match ← primaryReads s with
  | .inl result => pure result
  | .inr (preliminary,history) =>
    let c ← Routine.ofExcept (W.candidateOf s.orderId history)
    if c.validationDecision.action ≠ .allow then pure (.blocked preliminary none c)
    else W.primaryAdmission s c

def primary (W : WriteSide) (s : RequestSignature) : PrimaryRoutine PostgresWriteSideResult :=
  match W.placement with
  | .inTransaction => W.primaryInTransaction s
  | .preTransaction => W.primaryPreTransaction s

end WriteSide

def WriteInvocation.primary (v : WriteInvocation) :
    SqlProgram (Except PyException PostgresWriteSideResult) :=
  (v.writeSide.primary v.signature ()).bind (fun out => .done out.1)

end StreamingCompass
