import StreamingCompass.Compass.SemanticOutcome

/-! # Decision receipts

The contract objects of `compass/runtime/decision_receipt.py`. Each constructor's checks
are the fields that state them, so an object that exists satisfies them. Actor, cost
summary, flags and metadata stay at their defaults in every mapper and are left out.
-/
namespace StreamingCompass

/-- `if bad: raise ValueError(message)` -/
def refuseIf (bad : Bool) (message : String) : Except PyException Unit :=
  if bad then .error (.valueError message) else .ok ()

@[simp] theorem refuseIf_false (message : String) : refuseIf false message = .ok () := rfl

inductive DecisionReceiptEvidenceSource where
  | writeSideAdmission | readSidePath | snapshotTrustPath | snapshotAssistedPath
  | runtimeObservation | unknown
deriving DecidableEq, Repr

inductive DecisionReceiptSubjectType where
  | order | request | candidateEvent | acceptedEvent | snapshot | projection | runtime | unknown
deriving DecidableEq, Repr

inductive DecisionReceiptIdentitySource where
  | acceptedHistory | candidateEventIdentity | writeSideCorrelation | readSideObservation
  | snapshotLineage | callerContext | unknown
deriving DecidableEq, Repr

inductive EventAdmissionDisposition where
  | admittedToAcceptedHistory | matchedExistingAcceptedEvent
  | idempotencyConflictWithAcceptedHistory | semanticAdmissionRejected
  | appendConcurrencyConflict | appendTechnicalFailure | commitOutcomeUnresolved
  | appendAdmissionNotReached | unknown
deriving DecidableEq, Repr

/-- `_require_optional_non_empty_string` -/
def NonEmptyIfPresent (value : Option String) : Prop := ∀ s, value = some s → isBlank s = false

theorem nonEmpty_none : NonEmptyIfPresent none := by
  intro s h
  cases h

instance (value : Option String) : Decidable (NonEmptyIfPresent value) :=
  match value with
  | none => isTrue nonEmpty_none
  | some s => decidable_of_iff (isBlank s = false)
      ⟨fun h _ hs => Option.some.inj hs ▸ h,fun h => h s rfl⟩

/-- `_require_optional_non_negative_int` -/
def NonNegativeIfPresent (value : Option ℤ) : Prop := ∀ n, value = some n → 0 ≤ n

instance (value : Option ℤ) : Decidable (NonNegativeIfPresent value) :=
  match value with
  | none => isTrue (fun _ h => nomatch h)
  | some n => decidable_of_iff (0 ≤ n) ⟨fun h _ hn => Option.some.inj hn ▸ h,fun h => h n rfl⟩

structure DecisionReceiptSubject where
  subjectType : DecisionReceiptSubjectType
  subjectId : Option String
  named : NonEmptyIfPresent subjectId
deriving DecidableEq

def DecisionReceiptSubject.make (subjectType : DecisionReceiptSubjectType)
    (subjectId : Option String) : Except PyException DecisionReceiptSubject :=
  if h : NonEmptyIfPresent subjectId then .ok ⟨subjectType,subjectId,h⟩
  else .error (.valueError "subject_id must be a non-empty string")

structure DecisionReceiptCorrelation where
  orderId : Option String
  requestId : Option String
  candidateEventId : Option Uuid
  acceptedEventId : Option Uuid
  snapshotId : Option Uuid
  sourceGlobalPosition : Option ℤ
  identitySource : DecisionReceiptIdentitySource
  orderNamed : NonEmptyIfPresent orderId
  requestNamed : NonEmptyIfPresent requestId
  positioned : NonNegativeIfPresent sourceGlobalPosition
deriving DecidableEq

def DecisionReceiptCorrelation.make (orderId requestId : Option String)
    (candidateEventId acceptedEventId snapshotId : Option Uuid) (sourceGlobalPosition : Option ℤ)
    (identitySource : DecisionReceiptIdentitySource) :
    Except PyException DecisionReceiptCorrelation :=
  if ho : NonEmptyIfPresent orderId then
    if hr : NonEmptyIfPresent requestId then
      if hp : NonNegativeIfPresent sourceGlobalPosition then
        .ok ⟨orderId,requestId,candidateEventId,acceptedEventId,snapshotId,sourceGlobalPosition,
          identitySource,ho,hr,hp⟩
      else .error (.valueError "source_global_position must be non-negative")
    else .error (.valueError "request_id must be a non-empty string")
  else .error (.valueError "order_id must be a non-empty string")

/-- What `_validate_admission_evidence` demands of the event ids; `none` is admissible. -/
def admissionEvidenceError (disposition : EventAdmissionDisposition)
    (candidateEventId acceptedEventId : Option Uuid) : Option String :=
  match disposition with
  | .admittedToAcceptedHistory =>
    if candidateEventId = none then
      some "candidate_event_id is required when an event is admitted"
    else if acceptedEventId = none then
      some "accepted_event_id is required when an event is admitted"
    else if candidateEventId ≠ acceptedEventId then
      some ("candidate_event_id and accepted_event_id must match when the same event identity " ++
        "is admitted to accepted history")
    else none
  | .matchedExistingAcceptedEvent =>
    if acceptedEventId = none then
      some "accepted_event_id is required for an idempotent replay match"
    else none
  | .idempotencyConflictWithAcceptedHistory =>
    if acceptedEventId = none then
      some "accepted_event_id is required for an idempotency conflict with accepted history"
    else none
  | .semanticAdmissionRejected | .appendConcurrencyConflict | .appendTechnicalFailure
  | .commitOutcomeUnresolved =>
    if candidateEventId = none then
      some "candidate_event_id is required after a candidate event exists"
    else if acceptedEventId ≠ none then
      some "accepted_event_id must be None without authoritative accepted-history evidence"
    else none
  | .appendAdmissionNotReached =>
    if acceptedEventId ≠ none then
      some "accepted_event_id must be None when append admission was not reached"
    else none
  | .unknown => none

/-- The check of a receipt that carries admission evidence. -/
def AdmissionAligned (admission : Option EventAdmissionDisposition)
    (correlation : DecisionReceiptCorrelation) : Prop :=
  ∀ d, admission = some d →
    admissionEvidenceError d correlation.candidateEventId correlation.acceptedEventId = none

/-- `ensure_json_object` of scalar fields: only the keys can be refused. -/
def ensureJsonObject (fields : Fields) (fieldName : String) : Except PyException Fields :=
  if fields.any (fun item => item.1.isEmpty) then
    .error (.valueError (fieldName ++ " keys must be non-empty strings"))
  else .ok fields

structure DecisionReceipt where
  receiptId : Uuid
  outcomeId : Uuid
  ok : Bool
  boundary : SemanticBoundary
  category : SemanticOutcomeCategory
  semanticCode : SemanticOutcomeCode
  severity : SemanticSeverity
  riskLevel : SemanticRiskLevel
  reversibility : SemanticReversibility
  reason : String
  evidenceSource : DecisionReceiptEvidenceSource
  subject : DecisionReceiptSubject
  correlation : DecisionReceiptCorrelation
  admissionEvidence : Option EventAdmissionDisposition
  evidenceSummary : Fields
  reasoned : isBlank reason = false
  aligned : AdmissionAligned admissionEvidence correlation

/-- `map_semantic_outcome_to_decision_receipt`: the semantic tuple is the outcome's own, its
context and evidence are not copied. -/
def mapSemanticOutcomeToDecisionReceipt (receiptId : Uuid) (outcome : SemanticOutcome)
    (evidenceSource : DecisionReceiptEvidenceSource) (subject : DecisionReceiptSubject)
    (correlation : DecisionReceiptCorrelation) (admission : Option EventAdmissionDisposition)
    (evidenceSummary : Fields) : Except PyException DecisionReceipt :=
  match h : admission.bind (fun d =>
      admissionEvidenceError d correlation.candidateEventId correlation.acceptedEventId) with
  | some message => .error (.valueError message)
  | none => do
    let summary ← ensureJsonObject evidenceSummary "evidence_summary"
    .ok ⟨receiptId,outcome.outcomeId,outcome.ok,outcome.boundary,outcome.category,
      outcome.semanticCode,outcome.severity,outcome.riskLevel,outcome.reversibility,outcome.reason,
      evidenceSource,subject,correlation,admission,summary,outcome.reasoned,
      fun d hd => by rwa [hd] at h⟩

theorem DecisionReceiptSubject.make_ok {subjectType : DecisionReceiptSubjectType}
    {subjectId : Option String} (h : NonEmptyIfPresent subjectId) :
    DecisionReceiptSubject.make subjectType subjectId = .ok ⟨subjectType,subjectId,h⟩ := by
  simp [DecisionReceiptSubject.make, h]

theorem DecisionReceiptCorrelation.make_ok {orderId requestId : Option String}
    {candidateEventId acceptedEventId snapshotId : Option Uuid} {sourceGlobalPosition : Option ℤ}
    {identitySource : DecisionReceiptIdentitySource} (ho : NonEmptyIfPresent orderId)
    (hr : NonEmptyIfPresent requestId) (hp : NonNegativeIfPresent sourceGlobalPosition) :
    DecisionReceiptCorrelation.make orderId requestId candidateEventId acceptedEventId snapshotId
      sourceGlobalPosition identitySource = .ok ⟨orderId,requestId,candidateEventId,acceptedEventId,
        snapshotId,sourceGlobalPosition,identitySource,ho,hr,hp⟩ := by
  simp [DecisionReceiptCorrelation.make, ho, hr, hp]

/-- Aligned evidence and a summary with named keys always make a receipt. -/
theorem mapSemanticOutcomeToDecisionReceipt_ok {receiptId : Uuid} {outcome : SemanticOutcome}
    {evidenceSource : DecisionReceiptEvidenceSource} {subject : DecisionReceiptSubject}
    {correlation : DecisionReceiptCorrelation} {admission : Option EventAdmissionDisposition}
    {summary : Fields} (ha : AdmissionAligned admission correlation)
    (hs : summary.any (fun item => item.1.isEmpty) = false) :
    mapSemanticOutcomeToDecisionReceipt receiptId outcome evidenceSource subject correlation
      admission summary =
        .ok ⟨receiptId,outcome.outcomeId,outcome.ok,outcome.boundary,outcome.category,
          outcome.semanticCode,outcome.severity,outcome.riskLevel,outcome.reversibility,
          outcome.reason,evidenceSource,subject,correlation,admission,summary,outcome.reasoned,ha⟩ := by
  have hnone : admission.bind (fun d =>
      admissionEvidenceError d correlation.candidateEventId correlation.acceptedEventId) = none := by
    cases admission with
    | none => rfl
    | some d => exact ha d rfl
  unfold mapSemanticOutcomeToDecisionReceipt
  split
  · rename_i message h
    rw [hnone] at h
    cases h
  · simp [ensureJsonObject, hs, bind, Except.bind]

theorem nonEmpty_some {s : String} (h : isBlank s = false) : NonEmptyIfPresent (some s) :=
  fun _ hs => Option.some.inj hs ▸ h
theorem nonNegative_none : NonNegativeIfPresent none := fun _ h => nomatch h

/-- The ids a receipt is made with. -/
structure DecisionReceipt.Cites (receipt : DecisionReceipt) (orderId requestId : Option String)
    (candidateEventId acceptedEventId snapshotId : Option Uuid)
    (sourceGlobalPosition : Option ℤ) : Prop where
  orderId : receipt.correlation.orderId = orderId
  requestId : receipt.correlation.requestId = requestId
  candidateEventId : receipt.correlation.candidateEventId = candidateEventId
  acceptedEventId : receipt.correlation.acceptedEventId = acceptedEventId
  snapshotId : receipt.correlation.snapshotId = snapshotId
  sourceGlobalPosition : receipt.correlation.sourceGlobalPosition = sourceGlobalPosition

/-- A known status, a reason and well-formed ids always make a receipt. -/
theorem receipt_made {receiptId outcomeId : Uuid} {status reason : String}
    {boundary : SemanticBoundary} {context evidence summary : Fields}
    {evidenceSource : DecisionReceiptEvidenceSource} {orderId requestId : Option String}
    {candidateEventId acceptedEventId snapshotId : Option Uuid} {sourceGlobalPosition : Option ℤ}
    {identitySource : DecisionReceiptIdentitySource} {admission : Option EventAdmissionDisposition}
    {subject : Except PyException DecisionReceiptSubject} {m : RuntimeTechnicalStatusMapping}
    (hm : mappingForStatus status = .ok m) (he : evidence.get "technical_status" = none)
    (hreason : isBlank reason = false) (hsubject : ∃ s, subject = .ok s)
    (ho : NonEmptyIfPresent orderId) (hr : NonEmptyIfPresent requestId)
    (hp : NonNegativeIfPresent sourceGlobalPosition)
    (ha : ∀ d, admission = some d → admissionEvidenceError d candidateEventId acceptedEventId = none)
    (hs : summary.any (fun item => item.1.isEmpty) = false) :
    ∃ receipt, (do
      let outcome ← mapRuntimeTechnicalStatus outcomeId status boundary reason context evidence
      let subject ← subject
      let correlation ← DecisionReceiptCorrelation.make orderId requestId candidateEventId
        acceptedEventId snapshotId sourceGlobalPosition identitySource
      mapSemanticOutcomeToDecisionReceipt receiptId outcome evidenceSource subject correlation
        admission summary) = .ok receipt ∧
      receipt.Cites orderId requestId candidateEventId acceptedEventId snapshotId
        sourceGlobalPosition ∧ receipt.admissionEvidence = admission := by
  obtain ⟨subject,rfl⟩ := hsubject
  rw [mapRuntimeTechnicalStatus_ok hm he hreason, ok_bind, ok_bind,
    DecisionReceiptCorrelation.make_ok ho hr hp, ok_bind]
  have haligned : AdmissionAligned admission ⟨orderId,requestId,candidateEventId,acceptedEventId,
    snapshotId,sourceGlobalPosition,identitySource,ho,hr,hp⟩ := ha
  exact ⟨_,mapSemanticOutcomeToDecisionReceipt_ok haligned hs,⟨rfl,rfl,rfl,rfl,rfl,rfl⟩,rfl⟩

end StreamingCompass
