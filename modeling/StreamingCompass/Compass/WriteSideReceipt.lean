import StreamingCompass.Compass.DecisionReceipt
import StreamingCompass.Compass.WriteSideOutcome
import StreamingCompass.Core.Uuid

/-! # Receipts of the write side

`compass/runtime/write_side_decision_receipt_mapping.py`: the result shapes the mapper
takes, the identity it selects from the evidence of a result, and the receipt. The
structural checks of fields whose type already says so are left out.
-/
namespace StreamingCompass

def StreamAdmissionResult.admitted (s : StreamAdmissionResult) : Bool := s.verdict == .admitted
def AdmissionResult.admitted (a : AdmissionResult) : Bool := a.verdict == .admitted

namespace WriteSideReceipt

/-! ## Result shapes -/

/-- `_require_idempotency_state` -/
def requireIdempotencyState (decision : IdempotencyDecision) (expectedVerdict : IdempotencyVerdict)
    (expectedRecord : Bool) (outcomeName : String) : Except PyException Unit := do
  refuseIf (decision.verdict != expectedVerdict)
    (outcomeName ++ " result requires idempotency verdict " ++ expectedVerdict.value)
  refuseIf (expectedRecord && decision.record.isNone)
    (outcomeName ++ " result requires an accepted idempotency record")
  refuseIf (!expectedRecord && decision.record.isSome)
    (outcomeName ++ " result must not carry an idempotency record")

/-- Whether a validation decision is present and does not act as wanted. -/
def actsOtherThan (action : EnforcementAction) (r : PostgresWriteSideResult) : Bool :=
  r.validationDecision.any (fun d => d.action != action)

/-- `_validate_accepted_result` -/
def validateAcceptedResult (r : PostgresWriteSideResult) : Except PyException Unit := do
  requireIdempotencyState r.idempotencyDecision .miss false "ACCEPTED"
  refuseIf r.acceptedEvent.isNone "ACCEPTED result requires accepted_event"
  refuseIf r.streamAdmissionResult.isNone "ACCEPTED result requires stream_admission_result"
  refuseIf (r.streamAdmissionResult.any (fun s => !s.admitted))
    "ACCEPTED result requires admitted stream evidence"
  refuseIf r.validationDecision.isNone "ACCEPTED result requires validation_decision"
  refuseIf (actsOtherThan .allow r) "ACCEPTED result requires an allowing validation decision"
  refuseIf r.admissionResult.isNone "ACCEPTED result requires admitted append evidence"
  refuseIf (r.admissionResult.any (fun a => !a.admitted))
    "ACCEPTED result requires admitted append evidence"
  refuseIf (r.admissionResult.any (fun a => a.acceptedEventId.isNone))
    "ACCEPTED result requires append accepted_event_id evidence"

/-- `_validate_replay_or_conflict_result` -/
def validateReplayOrConflictResult (r : PostgresWriteSideResult)
    (expectedVerdict : IdempotencyVerdict) : Except PyException Unit := do
  let outcomeName := r.outcome.value
  requireIdempotencyState r.idempotencyDecision expectedVerdict true outcomeName
  refuseIf r.streamAdmissionResult.isSome
    (outcomeName ++ " result must not carry stream admission evidence")
  refuseIf r.admissionResult.isSome
    (outcomeName ++ " result must not carry append admission evidence")
  refuseIf (actsOtherThan .allow r)
    (outcomeName ++ " post-validation result requires an allowing validation decision")

/-- `_validate_validation_blocked_result` -/
def validateValidationBlockedResult (r : PostgresWriteSideResult) : Except PyException Unit := do
  requireIdempotencyState r.idempotencyDecision .miss false "VALIDATION_BLOCKED"
  refuseIf r.acceptedEvent.isSome "VALIDATION_BLOCKED result must not carry accepted_event"
  refuseIf r.validationDecision.isNone "VALIDATION_BLOCKED result requires validation_decision"
  refuseIf (actsOtherThan .block r)
    "VALIDATION_BLOCKED result requires a blocking validation decision"
  refuseIf r.admissionResult.isSome
    "VALIDATION_BLOCKED result must not carry append admission evidence"
  refuseIf (r.streamAdmissionResult.any (fun s => !s.admitted))
    "VALIDATION_BLOCKED result cannot carry rejected stream evidence"

/-- `_validate_admission_rejected_result` -/
def validateAdmissionRejectedResult (r : PostgresWriteSideResult) : Except PyException Unit := do
  requireIdempotencyState r.idempotencyDecision .miss false "ADMISSION_REJECTED"
  refuseIf r.acceptedEvent.isSome "ADMISSION_REJECTED result must not carry accepted_event"
  refuseIf r.streamAdmissionResult.isNone
    "ADMISSION_REJECTED result requires stream admission evidence"
  match r.admissionResult with
  | none => do
    refuseIf (r.streamAdmissionResult.any (fun s => s.admitted))
      "stream-owned ADMISSION_REJECTED result requires a rejected stream verdict"
    refuseIf (actsOtherThan .allow r)
      "post-validation stream rejection requires an allowing validation decision"
  | some append => do
    refuseIf (r.streamAdmissionResult.any (fun s => !s.admitted))
      "append-owned ADMISSION_REJECTED result requires admitted stream evidence"
    refuseIf append.admitted "ADMISSION_REJECTED result cannot carry admitted append evidence"
    refuseIf append.acceptedEventId.isSome
      "rejected append result must not carry accepted_event_id"
    refuseIf r.validationDecision.isNone
      "append-owned ADMISSION_REJECTED result requires validation_decision"
    refuseIf (actsOtherThan .allow r)
      "append-owned ADMISSION_REJECTED result requires an allowing validation decision"

/-- `_validate_result_shape` -/
def validateResultShape (r : PostgresWriteSideResult) : Except PyException Unit :=
  match r.outcome with
  | .accepted => validateAcceptedResult r
  | .replay => validateReplayOrConflictResult r .replay
  | .conflict => do
    validateReplayOrConflictResult r .conflict
    refuseIf r.acceptedEvent.isSome "CONFLICT result must not carry accepted_event"
  | .validationBlocked => validateValidationBlockedResult r
  | .admissionRejected => validateAdmissionRejectedResult r

/-! ## Identity -/

structure SelectedIdentity where
  orderId : Option String
  requestId : Option String
  candidateEventId : Option Uuid
  acceptedEventId : Option Uuid
deriving DecidableEq

/-- Values by the name of the evidence they come from. -/
abbrev Sources : Type := List (String × String)

/-- `_select_consistent_string` -/
def selectConsistentString (sources : Sources) (fieldName : String) :
    Except PyException (Option String) :=
  match sources.find? (fun source => (strip source.2).isEmpty) with
  | some source => .error (.valueError (source.1 ++ " must be a non-empty string"))
  | none =>
    if contradictory (sources.map (fun source => source.2)) then
      .error (.valueError ("Contradictory " ++ fieldName ++ " evidence"))
    else .ok (sources.head?.map (fun source => source.2))

/-- `_parse_uuid` -/
def parseUuid (value fieldName : String) : Except PyException Uuid :=
  if (strip value).isEmpty then
    .error (.valueError (fieldName ++ " must be a non-empty UUID string"))
  else match Uuid.parse value with
    | none => .error (.valueError (fieldName ++ " must be a valid UUID string"))
    | some uuid => .ok uuid

/-- `_select_consistent_uuid` -/
def selectConsistentUuid (sources : Sources) (fieldName : String) :
    Except PyException (Option Uuid) := do
  let parsed ← sources.mapM (fun source => parseUuid source.2 source.1)
  if contradictory parsed then .error (.valueError ("Contradictory " ++ fieldName ++ " evidence"))
  else .ok parsed.head?

/-- The accepted events a result carries. -/
def acceptedEvents (r : PostgresWriteSideResult) : List (String × OrderEvent) :=
  r.acceptedEvent.toList.map (fun e => ("returned accepted event",e)) ++
    r.idempotencyDecision.record.toList.map (fun record =>
      ("idempotency record accepted event",record.acceptedEvent))

def orderSources (r : PostgresWriteSideResult) : Sources :=
  (acceptedEvents r).map (fun source => (source.1 ++ " order_id",source.2.orderId)) ++
    r.idempotencyDecision.record.toList.map (fun record =>
      ("idempotency record signature order_id",record.signature.orderId)) ++
    r.streamAdmissionResult.toList.map (fun s => ("stream admission order_id",s.orderId))

def requestSources (r : PostgresWriteSideResult) : Sources :=
  (acceptedEvents r).map (fun source => (source.1 ++ " request_id",source.2.requestId)) ++
    r.idempotencyDecision.record.toList.map (fun record =>
      ("idempotency record signature request_id",record.signature.requestId))

def candidateSources (r : PostgresWriteSideResult) : Sources :=
  r.validationDecision.toList.map (fun d =>
      ("validation candidate_event_id",d.validationResult.candidateEventId)) ++
    r.admissionResult.toList.map (fun a => ("append candidate_event_id",a.candidateEventId))

def acceptedIdSources (r : PostgresWriteSideResult) : Sources :=
  (acceptedEvents r).map (fun source => (source.1 ++ " event_id",source.2.eventId))

/-- `_validate_accepted_identity` -/
def validateAcceptedIdentity (r : PostgresWriteSideResult) (identity : SelectedIdentity) :
    Except PyException Unit := do
  match r.admissionResult with
  | none => .error (.valueError "ACCEPTED result requires admitted append evidence")
  | some a =>
    let appendAcceptedEventId ← match a.acceptedEventId with
      | none => .error (.valueError
          "admission_result.accepted_event_id must be a non-empty UUID string")
      | some id => parseUuid id "admission_result.accepted_event_id"
    refuseIf identity.candidateEventId.isNone "ACCEPTED result requires candidate_event_id"
    refuseIf identity.acceptedEventId.isNone "ACCEPTED result requires accepted_event_id"
    refuseIf (identity.candidateEventId != identity.acceptedEventId ||
        some appendAcceptedEventId != identity.acceptedEventId)
      "ACCEPTED candidate and accepted event identities must match"

/-- `_select_identity` -/
def selectIdentity (r : PostgresWriteSideResult) : Except PyException SelectedIdentity := do
  let orderId ← selectConsistentString (orderSources r) "order_id"
  let requestId ← selectConsistentString (requestSources r) "request_id"
  let candidateEventId ← selectConsistentUuid (candidateSources r) "candidate_event_id"
  let acceptedEventId ← selectConsistentUuid (acceptedIdSources r) "accepted_event_id"
  let selected : SelectedIdentity := ⟨orderId,requestId,candidateEventId,acceptedEventId⟩
  if r.outcome = .accepted then
    validateAcceptedIdentity r selected
    .ok selected
  else .ok selected

/-! ## Receipts -/

/-- `_require_selected_uuid`, `_require_selected_string` -/
def requireSelected {α : Type} (value : Option α) (fieldName : String) : Except PyException α :=
  match value with
  | some v => .ok v
  | none => .error (.valueError (fieldName ++ " is required for receipt mapping"))

/-- `_candidate_subject` -/
def candidateSubject (identity : SelectedIdentity) : Except PyException DecisionReceiptSubject := do
  let candidateEventId ← requireSelected identity.candidateEventId "candidate_event_id"
  DecisionReceiptSubject.make .candidateEvent (some candidateEventId.str)

/-- `_subject_for_result` -/
def subjectForResult (r : PostgresWriteSideResult) (identity : SelectedIdentity) :
    Except PyException DecisionReceiptSubject :=
  match r.outcome with
  | .accepted | .replay => do
    let acceptedEventId ← requireSelected identity.acceptedEventId "accepted_event_id"
    DecisionReceiptSubject.make .acceptedEvent (some acceptedEventId.str)
  | .conflict => do
    let requestId ← requireSelected identity.requestId "request_id"
    DecisionReceiptSubject.make .request (some requestId)
  | .validationBlocked => candidateSubject identity
  | .admissionRejected =>
    if identity.candidateEventId.isSome then candidateSubject identity
    else do
      let orderId ← requireSelected identity.orderId "order_id"
      DecisionReceiptSubject.make .order (some orderId)

/-- `_identity_source_for_result` -/
def identitySourceForResult (r : PostgresWriteSideResult) (identity : SelectedIdentity) :
    DecisionReceiptIdentitySource :=
  match r.outcome with
  | .accepted | .replay => .acceptedHistory
  | .conflict => .writeSideCorrelation
  | .validationBlocked => .candidateEventIdentity
  | .admissionRejected =>
    if identity.candidateEventId.isNone then .writeSideCorrelation else .candidateEventIdentity

/-- `_admission_disposition_for_result` -/
def admissionDispositionForResult (r : PostgresWriteSideResult) :
    Except PyException EventAdmissionDisposition :=
  match r.outcome with
  | .accepted => .ok .admittedToAcceptedHistory
  | .replay => .ok .matchedExistingAcceptedEvent
  | .conflict => .ok .idempotencyConflictWithAcceptedHistory
  | .validationBlocked => .ok .semanticAdmissionRejected
  | .admissionRejected => match r.admissionResult with
    | none => .ok .appendAdmissionNotReached
    | some a => match a.verdict with
      | .staleWrite => .ok .appendConcurrencyConflict
      | .lockTimeout | .infrastructureError => .ok .appendTechnicalFailure
      | .admitted => .error (.valueError "Unsupported write-side admission disposition")

/-- `_owned_rejection_verdict` of a rejected admission. -/
def ownedRejectionVerdict (r : PostgresWriteSideResult) : Except PyException AdmissionVerdict :=
  match r.admissionResult with
  | some a => .ok a.verdict
  | none => match r.streamAdmissionResult with
    | some s => .ok s.verdict
    | none => .error (.valueError "ADMISSION_REJECTED result requires stream admission evidence")

/-- `_technical_status_for_result` -/
def technicalStatusForResult (r : PostgresWriteSideResult) : Except PyException String :=
  match r.outcome with
  | .accepted => .ok "WRITE_SIDE_ACCEPTED"
  | .replay => .ok "IDEMPOTENT_REPLAY"
  | .conflict => .ok "IDEMPOTENCY_CONFLICT"
  | .validationBlocked => .ok "COMPASS_VALIDATION_BLOCKED"
  | .admissionRejected => do
    match ← ownedRejectionVerdict r with
    | .staleWrite => .ok "CONCURRENT_STATE_STALENESS"
    | .lockTimeout => .ok "LOCK_TIMEOUT"
    | .infrastructureError => .ok "WRITE_SIDE_INFRASTRUCTURE_ERROR"
    | .admitted => .error (.valueError "Unsupported write-side technical status")

/-- `_lifecycle_phase_for_result` -/
def lifecyclePhaseForResult (r : PostgresWriteSideResult) : String :=
  match r.outcome with
  | .accepted => "ACCEPTED_HISTORY"
  | .replay | .conflict => "IDEMPOTENCY_CHECK"
  | .validationBlocked => "VALIDATION"
  | .admissionRejected =>
    if r.admissionResult.isNone then "STREAM_PREPARATION" else "APPEND_ADMISSION"

/-- `_evidence_summary_for_result` -/
def evidenceSummaryForResult (r : PostgresWriteSideResult) : Except PyException Fields := do
  let status ← technicalStatusForResult r
  .ok ([("technical_status",.str status),("write_side_outcome",.str r.outcome.value),
      ("idempotency_verdict",.str r.idempotencyDecision.verdict.value),
      ("lifecycle_phase",.str (lifecyclePhaseForResult r))] ++
    r.streamAdmissionResult.toList.map (fun s =>
      ("stream_admission_verdict",.str s.verdict.value)) ++
    r.validationDecision.toList.flatMap (fun d =>
      [("validation_action",.str d.action.value),
       ("validation_verdict",.str d.validationResult.verdict.value),
       ("validation_mode",.str d.validationResult.validationMode.value)]) ++
    r.admissionResult.toList.map (fun a => ("append_admission_verdict",.str a.verdict.value)))

end WriteSideReceipt

open WriteSideReceipt in
def mapPostgresWriteSideResultToDecisionReceipt (receiptId outcomeId : Uuid)
    (r : PostgresWriteSideResult) : Except PyException DecisionReceipt := do
  validateResultShape r
  let outcome ← mapPostgresWriteSideResultToSemanticOutcome outcomeId r
  let identity ← selectIdentity r
  let subject ← subjectForResult r identity
  let correlation ← DecisionReceiptCorrelation.make identity.orderId identity.requestId
    identity.candidateEventId identity.acceptedEventId none none (identitySourceForResult r identity)
  let disposition ← admissionDispositionForResult r
  let summary ← evidenceSummaryForResult r
  mapSemanticOutcomeToDecisionReceipt receiptId outcome .writeSideAdmission subject correlation
    (some disposition) summary

end StreamingCompass
