import StreamingCompass.Compass.ReadSideReceipt
import StreamingCompass.Serialization.Enums
import StreamingCompass.Serialization.JsonTypes

/-! # The complete receipt

The contract objects of `compass/runtime/decision_receipt.py` with every field, as a caller
can build them: a text may be an instance of a subclass of `str`, evidence and metadata are
nested JSON. The receipts of the mappers are among them.
-/
namespace StreamingCompass.Serialization

/-- `if not p: raise ValueError(message)`, with what the check establishes. -/
def require (p : Prop) [Decidable p] (message : String) : Except PyException (PLift p) :=
  if h : p then .ok ⟨h⟩ else .error (.valueError message)

theorem require_eq {p : Prop} [Decidable p] {message : String} (h : p) :
    require p message = .ok ⟨h⟩ := by
  rw [require, dif_pos h]

/-- `_require_optional_non_empty_string` -/
abbrev Named (value : Option PyStr) : Prop := NonEmptyIfPresent (value.map PyStr.text)

/-- `_require_optional_non_negative_int` -/
abbrev NonNegative (value : Option PyInt) : Prop := NonNegativeIfPresent (value.map PyInt.value)

structure DecisionReceiptSubject where
  subjectType : DecisionReceiptSubjectType
  subjectId : Option PyStr
  named : Named subjectId
deriving DecidableEq

def DecisionReceiptSubject.make (subjectType : DecisionReceiptSubjectType)
    (subjectId : Option PyStr) : Except PyException DecisionReceiptSubject := do
  let ⟨named⟩ ← require (Named subjectId) "subject_id must be a non-empty string"
  .ok { subjectType, subjectId, named }

theorem DecisionReceiptSubject.make_eq_ok {subjectType : DecisionReceiptSubjectType}
    {subjectId : Option PyStr} {s : DecisionReceiptSubject} :
    make subjectType subjectId = .ok s ↔ s.subjectType = subjectType ∧ s.subjectId = subjectId := by
  constructor
  · intro h
    obtain ⟨_,-,h⟩ := bind_eq_ok.mp h
    cases h
    exact ⟨rfl,rfl⟩
  · rintro ⟨rfl,rfl⟩
    rw [make, require_eq s.named]
    rfl

structure DecisionReceiptCorrelation where
  orderId : Option PyStr
  requestId : Option PyStr
  candidateEventId : Option Uuid
  acceptedEventId : Option Uuid
  snapshotId : Option Uuid
  sourceGlobalPosition : Option PyInt
  identitySource : DecisionReceiptIdentitySource
  orderNamed : Named orderId
  requestNamed : Named requestId
  positioned : NonNegative sourceGlobalPosition
deriving DecidableEq

def DecisionReceiptCorrelation.make (orderId requestId : Option PyStr)
    (candidateEventId acceptedEventId snapshotId : Option Uuid)
    (sourceGlobalPosition : Option PyInt) (identitySource : DecisionReceiptIdentitySource) :
    Except PyException DecisionReceiptCorrelation := do
  let ⟨orderNamed⟩ ← require (Named orderId) "order_id must be a non-empty string"
  let ⟨requestNamed⟩ ← require (Named requestId) "request_id must be a non-empty string"
  let ⟨positioned⟩ ← require (NonNegative sourceGlobalPosition)
    "source_global_position must be non-negative"
  .ok { orderId, requestId, candidateEventId, acceptedEventId, snapshotId, sourceGlobalPosition,
        identitySource, orderNamed, requestNamed, positioned }

theorem DecisionReceiptCorrelation.make_eq_ok {orderId requestId : Option PyStr}
    {candidateEventId acceptedEventId snapshotId : Option Uuid}
    {sourceGlobalPosition : Option PyInt} {identitySource : DecisionReceiptIdentitySource}
    {s : DecisionReceiptCorrelation} :
    make orderId requestId candidateEventId acceptedEventId snapshotId sourceGlobalPosition
        identitySource = .ok s ↔
      s.orderId = orderId ∧ s.requestId = requestId ∧ s.candidateEventId = candidateEventId ∧
      s.acceptedEventId = acceptedEventId ∧ s.snapshotId = snapshotId ∧
      s.sourceGlobalPosition = sourceGlobalPosition ∧ s.identitySource = identitySource := by
  constructor
  · intro h
    obtain ⟨_,-,h⟩ := bind_eq_ok.mp h
    obtain ⟨_,-,h⟩ := bind_eq_ok.mp h
    obtain ⟨_,-,h⟩ := bind_eq_ok.mp h
    cases h
    exact ⟨rfl,rfl,rfl,rfl,rfl,rfl,rfl⟩
  · rintro ⟨rfl,rfl,rfl,rfl,rfl,rfl,rfl⟩
    rw [make, require_eq s.orderNamed, require_eq s.requestNamed, require_eq s.positioned]
    rfl

structure DecisionReceiptActor where
  actorId : Option PyStr
  actorRole : Option PyStr
  runtimeRole : Option PyStr
  actorNamed : Named actorId
  actorRoleNamed : Named actorRole
  runtimeRoleNamed : Named runtimeRole
deriving DecidableEq

def DecisionReceiptActor.make (actorId actorRole runtimeRole : Option PyStr) :
    Except PyException DecisionReceiptActor := do
  let ⟨actorNamed⟩ ← require (Named actorId) "actor_id must be a non-empty string"
  let ⟨actorRoleNamed⟩ ← require (Named actorRole) "actor_role must be a non-empty string"
  let ⟨runtimeRoleNamed⟩ ← require (Named runtimeRole) "runtime_role must be a non-empty string"
  .ok { actorId, actorRole, runtimeRole, actorNamed, actorRoleNamed, runtimeRoleNamed }

theorem DecisionReceiptActor.make_eq_ok {actorId actorRole runtimeRole : Option PyStr}
    {s : DecisionReceiptActor} : make actorId actorRole runtimeRole = .ok s ↔
      s.actorId = actorId ∧ s.actorRole = actorRole ∧ s.runtimeRole = runtimeRole := by
  constructor
  · intro h
    obtain ⟨_,-,h⟩ := bind_eq_ok.mp h
    obtain ⟨_,-,h⟩ := bind_eq_ok.mp h
    obtain ⟨_,-,h⟩ := bind_eq_ok.mp h
    cases h
    exact ⟨rfl,rfl,rfl⟩
  · rintro ⟨rfl,rfl,rfl⟩
    rw [make, require_eq s.actorNamed, require_eq s.actorRoleNamed, require_eq s.runtimeRoleNamed]
    rfl

structure DecisionReceiptCostSummary where
  elapsedMs : Option PyInt
  validationElapsedMs : Option PyInt
  replayElapsedMs : Option PyInt
  transactionElapsedMs : Option PyInt
  lockWaitMs : Option PyInt
  elapsed : NonNegative elapsedMs
  validationElapsed : NonNegative validationElapsedMs
  replayElapsed : NonNegative replayElapsedMs
  transactionElapsed : NonNegative transactionElapsedMs
  lockWait : NonNegative lockWaitMs
deriving DecidableEq

def DecisionReceiptCostSummary.make (elapsedMs validationElapsedMs replayElapsedMs
    transactionElapsedMs lockWaitMs : Option PyInt) :
    Except PyException DecisionReceiptCostSummary := do
  let ⟨elapsed⟩ ← require (NonNegative elapsedMs) "elapsed_ms must be non-negative"
  let ⟨validationElapsed⟩ ← require (NonNegative validationElapsedMs)
    "validation_elapsed_ms must be non-negative"
  let ⟨replayElapsed⟩ ← require (NonNegative replayElapsedMs)
    "replay_elapsed_ms must be non-negative"
  let ⟨transactionElapsed⟩ ← require (NonNegative transactionElapsedMs)
    "transaction_elapsed_ms must be non-negative"
  let ⟨lockWait⟩ ← require (NonNegative lockWaitMs) "lock_wait_ms must be non-negative"
  .ok { elapsedMs, validationElapsedMs, replayElapsedMs, transactionElapsedMs, lockWaitMs, elapsed,
        validationElapsed, replayElapsed, transactionElapsed, lockWait }

theorem DecisionReceiptCostSummary.make_eq_ok {elapsedMs validationElapsedMs replayElapsedMs
    transactionElapsedMs lockWaitMs : Option PyInt} {s : DecisionReceiptCostSummary} :
    make elapsedMs validationElapsedMs replayElapsedMs transactionElapsedMs lockWaitMs = .ok s ↔
      s.elapsedMs = elapsedMs ∧ s.validationElapsedMs = validationElapsedMs ∧
      s.replayElapsedMs = replayElapsedMs ∧ s.transactionElapsedMs = transactionElapsedMs ∧
      s.lockWaitMs = lockWaitMs := by
  constructor
  · intro h
    obtain ⟨_,-,h⟩ := bind_eq_ok.mp h
    obtain ⟨_,-,h⟩ := bind_eq_ok.mp h
    obtain ⟨_,-,h⟩ := bind_eq_ok.mp h
    obtain ⟨_,-,h⟩ := bind_eq_ok.mp h
    obtain ⟨_,-,h⟩ := bind_eq_ok.mp h
    cases h
    exact ⟨rfl,rfl,rfl,rfl,rfl⟩
  · rintro ⟨rfl,rfl,rfl,rfl,rfl⟩
    rw [make, require_eq s.elapsed, require_eq s.validationElapsed, require_eq s.replayElapsed,
      require_eq s.transactionElapsed, require_eq s.lockWait]
    rfl

structure DecisionReceiptFlags where
  fallbackRequired : DecisionReceiptFlagState
  rebuildRequired : DecisionReceiptFlagState
  operatorReviewRequired : DecisionReceiptFlagState
  retryCandidate : DecisionReceiptFlagState
deriving DecidableEq

/-- `_validate_admission_evidence` finds nothing. -/
def Aligned (admissionEvidence : Option EventAdmissionDisposition)
    (correlation : DecisionReceiptCorrelation) : Prop :=
  admissionEvidence.bind (fun d =>
    admissionEvidenceError d correlation.candidateEventId correlation.acceptedEventId) = none

structure DecisionReceipt where
  receiptId : Uuid
  outcomeId : Uuid
  ok : Bool
  boundary : SemanticBoundary
  category : SemanticOutcomeCategory
  semanticCode : SemanticOutcomeCode
  severity : SemanticSeverity
  riskLevel : SemanticRiskLevel
  reversibility : SemanticReversibility
  reason : PyStr
  evidenceSource : DecisionReceiptEvidenceSource
  subject : DecisionReceiptSubject
  correlation : DecisionReceiptCorrelation
  actor : DecisionReceiptActor
  costSummary : DecisionReceiptCostSummary
  flags : DecisionReceiptFlags
  admissionEvidence : Option EventAdmissionDisposition
  evidenceSummary : JsonObject
  metadata : JsonObject
  reasoned : isBlank reason.text = false
  aligned : Aligned admissionEvidence correlation

def requireAligned (admissionEvidence : Option EventAdmissionDisposition)
    (correlation : DecisionReceiptCorrelation) :
    Except PyException (PLift (Aligned admissionEvidence correlation)) :=
  match h : admissionEvidence.bind (fun d =>
      admissionEvidenceError d correlation.candidateEventId correlation.acceptedEventId) with
  | none => .ok ⟨h⟩
  | some message => .error (.valueError message)

theorem requireAligned_eq {admissionEvidence : Option EventAdmissionDisposition}
    {correlation : DecisionReceiptCorrelation} (h : Aligned admissionEvidence correlation) :
    requireAligned admissionEvidence correlation = .ok ⟨h⟩ := by
  unfold requireAligned
  split
  · rfl
  · rename_i message hm
    rw [Aligned, hm] at h
    cases h

def DecisionReceipt.make (receiptId outcomeId : Uuid) (ok : Bool) (boundary : SemanticBoundary)
    (category : SemanticOutcomeCategory) (semanticCode : SemanticOutcomeCode)
    (severity : SemanticSeverity) (riskLevel : SemanticRiskLevel)
    (reversibility : SemanticReversibility) (reason : PyStr)
    (evidenceSource : DecisionReceiptEvidenceSource) (subject : DecisionReceiptSubject)
    (correlation : DecisionReceiptCorrelation) (actor : DecisionReceiptActor)
    (costSummary : DecisionReceiptCostSummary) (flags : DecisionReceiptFlags)
    (admissionEvidence : Option EventAdmissionDisposition) (evidenceSummary metadata : PyValue) :
    Except PyException DecisionReceipt := do
  let ⟨reasoned⟩ ← require (isBlank reason.text = false) "reason must be a non-empty string"
  let ⟨aligned⟩ ← requireAligned admissionEvidence correlation
  let evidenceSummary ← frozenJsonObject evidenceSummary "evidence_summary"
  let metadata ← frozenJsonObject metadata "metadata"
  .ok { receiptId, outcomeId, ok, boundary, category, semanticCode, severity, riskLevel,
        reversibility, reason, evidenceSource, subject, correlation, actor, costSummary, flags,
        admissionEvidence, evidenceSummary, metadata, reasoned, aligned }

/-- The constructor keeps its arguments and freezes evidence and metadata. -/
theorem DecisionReceipt.make_eq_ok {receiptId outcomeId : Uuid} {ok : Bool}
    {boundary : SemanticBoundary} {category : SemanticOutcomeCategory}
    {semanticCode : SemanticOutcomeCode} {severity : SemanticSeverity}
    {riskLevel : SemanticRiskLevel} {reversibility : SemanticReversibility} {reason : PyStr}
    {evidenceSource : DecisionReceiptEvidenceSource} {subject : DecisionReceiptSubject}
    {correlation : DecisionReceiptCorrelation} {actor : DecisionReceiptActor}
    {costSummary : DecisionReceiptCostSummary} {flags : DecisionReceiptFlags}
    {admissionEvidence : Option EventAdmissionDisposition} {evidenceSummary metadata : PyValue}
    {r : DecisionReceipt} :
    make receiptId outcomeId ok boundary category semanticCode severity riskLevel reversibility
        reason evidenceSource subject correlation actor costSummary flags admissionEvidence
        evidenceSummary metadata = .ok r ↔
      r.receiptId = receiptId ∧ r.outcomeId = outcomeId ∧ r.ok = ok ∧ r.boundary = boundary ∧
      r.category = category ∧ r.semanticCode = semanticCode ∧ r.severity = severity ∧
      r.riskLevel = riskLevel ∧ r.reversibility = reversibility ∧ r.reason = reason ∧
      r.evidenceSource = evidenceSource ∧ r.subject = subject ∧ r.correlation = correlation ∧
      r.actor = actor ∧ r.costSummary = costSummary ∧ r.flags = flags ∧
      r.admissionEvidence = admissionEvidence ∧
      frozenJsonObject evidenceSummary "evidence_summary" = .ok r.evidenceSummary ∧
      frozenJsonObject metadata "metadata" = .ok r.metadata := by
  constructor
  · intro h
    obtain ⟨_,-,h⟩ := bind_eq_ok.mp h
    obtain ⟨_,-,h⟩ := bind_eq_ok.mp h
    obtain ⟨_,he,h⟩ := bind_eq_ok.mp h
    obtain ⟨_,hm,h⟩ := bind_eq_ok.mp h
    cases h
    exact ⟨rfl,rfl,rfl,rfl,rfl,rfl,rfl,rfl,rfl,rfl,rfl,rfl,rfl,rfl,rfl,rfl,rfl,he,hm⟩
  · rintro ⟨rfl,rfl,rfl,rfl,rfl,rfl,rfl,rfl,rfl,rfl,rfl,rfl,rfl,rfl,rfl,rfl,rfl,he,hm⟩
    rw [make, require_eq r.reasoned, requireAligned_eq r.aligned]
    simp only [ok_bind, he, hm]

end StreamingCompass.Serialization
