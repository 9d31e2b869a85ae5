import StreamingCompass.Compass.SemanticOutcome
import StreamingCompass.Transactional.WriteSide

/-! # Semantic outcomes of the write side

`compass/runtime/write_side_outcome_mapping.py`: a write-side result as a semantic outcome,
observed at the Layer 1 boundary. No caller in the repository overrides context or evidence.
-/
namespace StreamingCompass

def PostgresWriteSideOutcome.value : PostgresWriteSideOutcome → String
  | .accepted => "ACCEPTED"
  | .replay => "REPLAY"
  | .conflict => "CONFLICT"
  | .validationBlocked => "VALIDATION_BLOCKED"
  | .admissionRejected => "ADMISSION_REJECTED"

def IdempotencyVerdict.value : IdempotencyVerdict → String
  | .miss => "miss"
  | .replay => "replay"
  | .conflict => "conflict"

def AdmissionVerdict.value : AdmissionVerdict → String
  | .admitted => "ADMITTED"
  | .staleWrite => "STALE_WRITE"
  | .lockTimeout => "LOCK_TIMEOUT"
  | .infrastructureError => "INFRASTRUCTURE_ERROR"

def ValidationMode.value : ValidationMode → String
  | .strict => "strict"
  | .off => "off"

def ValidationVerdict.value : ValidationVerdict → String
  | .passed => "passed"
  | .failed => "failed"
  | .skipped => "skipped"

def EnforcementAction.value : EnforcementAction → String
  | .allow => "allow"
  | .block => "block"

/-- `len(set(values)) > 1` -/
def contradictory {α : Type} [DecidableEq α] : List α → Bool
  | [] => false
  | v :: vs => vs.any (fun w => decide (w ≠ v))

theorem contradictory_eq_false {α : Type} [DecidableEq α] {vs : List α} {v : Option α}
    (h : ∀ w ∈ vs, v = some w) : contradictory vs = false := by
  cases vs with
  | nil => rfl
  | cons w vs =>
    obtain rfl := h w (List.mem_cons_self ..)
    simp only [contradictory, List.any_eq_false, decide_eq_true_eq, not_not]
    exact fun x hx => (Option.some.inj (h x (List.mem_cons_of_mem _ hx))).symm

namespace PostgresWriteSideResult

/-- `_admission_rejection_source`: the verdict and reason of the phase that rejected. -/
def admissionRejectionSource (r : PostgresWriteSideResult) :
    Except PyException (AdmissionVerdict × String) :=
  match r.admissionResult with
  | some a =>
    if a.verdict = .admitted then .error (.valueError
      "ADMISSION_REJECTED result cannot use admitted append-time admission result")
    else .ok (a.verdict,a.reason)
  | none => match r.streamAdmissionResult with
    | some s =>
      if s.verdict = .admitted then .error (.valueError
        "ADMISSION_REJECTED result cannot use admitted stream admission result")
      else .ok (s.verdict,s.reason)
    | none => .error (.valueError ("ADMISSION_REJECTED write-side result requires " ++
        "stream_admission_result or admission_result"))

/-- `_accepted_event_from_result` -/
def evidencedEvent (r : PostgresWriteSideResult) : Option OrderEvent :=
  match r.acceptedEvent with
  | some e => some e
  | none => r.idempotencyDecision.record.map (fun record => record.acceptedEvent)

/-- `_validate_postgres_write_side_result_shape` -/
def validateOutcomeShape (r : PostgresWriteSideResult) : Except PyException Unit := do
  if r.outcome = .accepted ∧ r.acceptedEvent = none then
    .error (.valueError "ACCEPTED write-side result requires accepted_event")
  else if r.outcome = .replay ∧ r.evidencedEvent = none then
    .error (.valueError ("REPLAY write-side result requires prior accepted_event " ++
      "from idempotency record"))
  else if r.outcome = .validationBlocked ∧ r.validationDecision = none then
    .error (.valueError "VALIDATION_BLOCKED write-side result requires validation_decision")
  else if r.admissionResult.any (fun a => a.verdict != .admitted && a.acceptedEventId.isSome) then
    .error (.valueError "rejected append-time admission result must not carry accepted_event_id")
  else if r.outcome = .admissionRejected then
    let _ ← r.admissionRejectionSource
    .ok ()
  else .ok ()

/-- `_technical_status_for_admission_verdict` -/
def technicalStatusForAdmissionVerdict : AdmissionVerdict → Except PyException String
  | .staleWrite => .ok "CONCURRENT_STATE_STALENESS"
  | .lockTimeout => .ok "LOCK_TIMEOUT"
  | .infrastructureError => .ok "WRITE_SIDE_INFRASTRUCTURE_ERROR"
  | .admitted => .error (.valueError
      "ADMISSION_REJECTED result cannot be mapped from admitted verdict")

/-- `_technical_status_for_postgres_write_side_result` -/
def technicalStatus (r : PostgresWriteSideResult) : Except PyException String :=
  match r.outcome with
  | .accepted => .ok "WRITE_SIDE_ACCEPTED"
  | .replay => .ok "IDEMPOTENT_REPLAY"
  | .conflict => .ok "IDEMPOTENCY_CONFLICT"
  | .validationBlocked => .ok "COMPASS_VALIDATION_BLOCKED"
  | .admissionRejected => do
    let source ← r.admissionRejectionSource
    technicalStatusForAdmissionVerdict source.1

/-- `_reason_for_postgres_write_side_result` -/
def outcomeReason (r : PostgresWriteSideResult) (technicalStatus : String) :
    Except PyException String :=
  match r.outcome with
  | .accepted => .ok "Write-side candidate event was admitted into accepted history."
  | .replay | .conflict =>
    .ok (requireReason r.idempotencyDecision.reason (r.outcome.value ++ " idempotency decision"))
  | .validationBlocked => match r.validationDecision with
    | none => .error (.other "AssertionError" "")
    | some d => .ok (requireReason d.validationResult.reason "ValidationDecision")
  | .admissionRejected => do
    let source ← r.admissionRejectionSource
    .ok (requireReason source.2 (technicalStatus ++ " admission result"))

/-- `_order_id_from_result` -/
def contextOrderId (r : PostgresWriteSideResult) : Except PyException (Option String) :=
  let evidenced := r.evidencedEvent.map (fun e => e.orderId)
  let stream := r.streamAdmissionResult.map (fun s => s.orderId)
  let record := r.idempotencyDecision.record.map (fun record => record.signature.orderId)
  if contradictory ([evidenced,stream,record].filterMap id) then
    .error (.valueError "Contradictory order_id evidence detected in write-side result")
  else .ok (evidenced.or (stream.or record))

/-- `_request_id_from_result` -/
def contextRequestId (r : PostgresWriteSideResult) : Except PyException (Option String) :=
  let evidenced := r.evidencedEvent.map (fun e => e.requestId)
  let record := r.idempotencyDecision.record.map (fun record => record.signature.requestId)
  if contradictory ([evidenced,record].filterMap id) then
    .error (.valueError "Contradictory request_id evidence detected in write-side result")
  else .ok (evidenced.or record)

/-- `_candidate_event_id_from_result` -/
def contextCandidateEventId (r : PostgresWriteSideResult) : Option String :=
  match r.admissionResult with
  | some a => some a.candidateEventId
  | none => r.validationDecision.map (fun d => d.validationResult.candidateEventId)

/-- `_context_from_postgres_write_side_result` -/
def outcomeContext (r : PostgresWriteSideResult) : Except PyException Fields := do
  let orderId ← r.contextOrderId
  let requestId ← r.contextRequestId
  .ok [("write_side_outcome",.str r.outcome.value),
    ("order_id",.ofStr orderId),("request_id",.ofStr requestId),
    ("candidate_event_id",.ofStr r.contextCandidateEventId),
    ("accepted_event_id",.ofStr (r.evidencedEvent.map (fun e => e.eventId)))]

/-- `_evidence_from_postgres_write_side_result` -/
def outcomeEvidence (r : PostgresWriteSideResult) : Fields :=
  let stream := r.streamAdmissionResult
  let validation := r.validationDecision
  let append := r.admissionResult
  [("result_type",.str "PostgresWriteSideResult"),
   ("write_side_outcome",.str r.outcome.value),
   ("accepted_event_present",.bool r.acceptedEvent.isSome),
   ("idempotency_verdict",.str r.idempotencyDecision.verdict.value),
   ("idempotency_reason",.str r.idempotencyDecision.reason),
   ("stream_admission_result_present",.bool stream.isSome),
   ("stream_admission_verdict",.ofStr (stream.map (fun s => s.verdict.value))),
   ("stream_admission_reason",.ofStr (stream.map (fun s => s.reason))),
   ("validation_decision_present",.bool validation.isSome),
   ("validation_action",.ofStr (validation.map (fun d => d.action.value))),
   ("validation_verdict",.ofStr (validation.map (fun d => d.validationResult.verdict.value))),
   ("validation_reason",.ofStr (validation.map (fun d => d.validationResult.reason))),
   ("validation_mode",.ofStr (validation.map (fun d => d.validationResult.validationMode.value))),
   ("validator_name",.ofStr (validation.map (fun d => d.validationResult.validatorName))),
   ("append_admission_result_present",.bool append.isSome),
   ("append_admission_verdict",.ofStr (append.map (fun a => a.verdict.value))),
   ("append_admission_reason",.ofStr (append.map (fun a => a.reason)))]

end PostgresWriteSideResult

/-- `map_write_side_admission_status_to_semantic_outcome` -/
def mapWriteSideAdmissionStatusToSemanticOutcome (outcomeId : Uuid) (technicalStatus reason : String)
    (context evidence : Fields) : Except PyException SemanticOutcome :=
  mapRuntimeTechnicalStatus outcomeId technicalStatus .layer1WriteSide
    (requireReason reason "write-side admission status") context evidence

def mapPostgresWriteSideResultToSemanticOutcome (outcomeId : Uuid) (r : PostgresWriteSideResult) :
    Except PyException SemanticOutcome := do
  r.validateOutcomeShape
  let status ← r.technicalStatus
  let reason ← r.outcomeReason status
  let context ← r.outcomeContext
  mapWriteSideAdmissionStatusToSemanticOutcome outcomeId status reason context r.outcomeEvidence

theorem mapped_outcomeId {outcomeId : Uuid} {r : PostgresWriteSideResult} {o : SemanticOutcome}
    (h : mapPostgresWriteSideResultToSemanticOutcome outcomeId r = .ok o) : o.outcomeId = outcomeId := by
  simp only [mapPostgresWriteSideResultToSemanticOutcome, mapWriteSideAdmissionStatusToSemanticOutcome,
    mapRuntimeTechnicalStatus, SemanticOutcome.make, bind, Except.bind] at h
  repeat' split at h
  all_goals cases h
  rfl

end StreamingCompass
