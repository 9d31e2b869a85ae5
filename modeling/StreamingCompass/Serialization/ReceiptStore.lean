import StreamingCompass.Serialization.Jsonb
import StreamingCompass.Serialization.Mapped

/-! # The receipt store

`storage/postgres_decision_receipt_store.py` over the table of
`db/migrations/007_create_decision_receipts.sql`, as one transaction sees it: the insert with
its checks and keys, the row as a receipt again, and the comparison that tells a repeated
insert from a conflict.
-/
namespace StreamingCompass.Serialization

structure DecisionReceiptRow where
  receiptId : Uuid
  receiptSerializationVersion : ℤ
  outcomeId : Uuid
  ok : Bool
  boundary : String
  category : String
  semanticCode : String
  severity : String
  riskLevel : String
  reversibility : String
  reason : String
  evidenceSource : String
  subjectType : String
  subjectId : Option String
  orderId : Option String
  requestId : Option String
  candidateEventId : Option Uuid
  acceptedEventId : Option Uuid
  snapshotId : Option Uuid
  sourceGlobalPosition : Option ℤ
  identitySource : String
  actorId : Option String
  actorRole : Option String
  runtimeRole : Option String
  elapsedMs : Option ℤ
  validationElapsedMs : Option ℤ
  replayElapsedMs : Option ℤ
  transactionElapsedMs : Option ℤ
  lockWaitMs : Option ℤ
  fallbackRequired : String
  rebuildRequired : String
  operatorReviewRequired : String
  retryCandidate : String
  admissionDisposition : Option String
  evidenceSummary : Json JsonNumeric
  metadata : Json JsonNumeric
  materializationProvenance : String
  /-- in microseconds -/
  materializedAt : ℤ

/-! ## The table -/

/-- The rows a transaction sees, and the accepted events its foreign key refers to. -/
structure ReceiptRows where
  rows : List DecisionReceiptRow
  acceptedEvents : List Uuid

/-- `value IS NULL OR length(trim(value)) > 0` -/
def notEmptyIfPresent (value : Option String) : Bool := value.all trimNotEmpty

/-- `value IS NULL OR value >= 0` -/
def nonNegativeIfPresent (value : Option ℤ) : Bool := value.all (fun n => decide (0 ≤ n))

/-- `jsonb_typeof(value) = 'object'` -/
def Json.isObject {N : Type} : Json N → Bool
  | .object _ => true
  | _ => false

def flagStates : List String := ["TRUE","FALSE","NOT_EVALUATED"]

/-- `ck_decision_receipts_admission_identity_alignment` -/
def admissionIdentityAligned (row : DecisionReceiptRow) : Bool :=
  match row.admissionDisposition with
  | none => true
  | some d =>
    d == "UNKNOWN" ||
    (d == "ADMITTED_TO_ACCEPTED_HISTORY" && row.candidateEventId.isSome &&
      row.acceptedEventId.isSome && row.candidateEventId == row.acceptedEventId) ||
    (["MATCHED_EXISTING_ACCEPTED_EVENT","IDEMPOTENCY_CONFLICT_WITH_ACCEPTED_HISTORY"].contains d &&
      row.acceptedEventId.isSome) ||
    (["SEMANTIC_ADMISSION_REJECTED","APPEND_CONCURRENCY_CONFLICT","APPEND_TECHNICAL_FAILURE",
      "COMMIT_OUTCOME_UNRESOLVED"].contains d && row.candidateEventId.isSome &&
      row.acceptedEventId.isNone) ||
    (d == "APPEND_ADMISSION_NOT_REACHED" && row.acceptedEventId.isNone)

/-- The CHECK constraints, in the order PostgreSQL evaluates them. -/
def receiptChecks (row : DecisionReceiptRow) : List (String × Bool) :=
  [("ck_decision_receipts_actor_id_not_empty",notEmptyIfPresent row.actorId),
   ("ck_decision_receipts_actor_role_not_empty",notEmptyIfPresent row.actorRole),
   ("ck_decision_receipts_admission_disposition",row.admissionDisposition.all
     (["ADMITTED_TO_ACCEPTED_HISTORY","MATCHED_EXISTING_ACCEPTED_EVENT",
       "IDEMPOTENCY_CONFLICT_WITH_ACCEPTED_HISTORY","SEMANTIC_ADMISSION_REJECTED",
       "APPEND_CONCURRENCY_CONFLICT","APPEND_TECHNICAL_FAILURE","COMMIT_OUTCOME_UNRESOLVED",
       "APPEND_ADMISSION_NOT_REACHED","UNKNOWN"].contains ·)),
   ("ck_decision_receipts_admission_identity_alignment",admissionIdentityAligned row),
   ("ck_decision_receipts_boundary",
     ["LAYER_1_WRITE_SIDE","LAYER_2_READ_SIDE","SNAPSHOT_TRUST","IDEMPOTENCY",
      "CONCURRENCY_ADMISSION","RUNTIME_GOVERNANCE"].contains row.boundary),
   ("ck_decision_receipts_category",
     ["VALID","UNRESOLVED","UNTRUSTED","DRIFT","FALLBACK_REQUIRED","REBUILD_REQUIRED",
      "BLOCK_REQUIRED","ESCALATION_REQUIRED","CONCURRENCY_UNCERTAIN","RETRY_CLASSIFIED",
      "INTENT_INCONSISTENT"].contains row.category),
   ("ck_decision_receipts_elapsed_ms_non_negative",nonNegativeIfPresent row.elapsedMs),
   ("ck_decision_receipts_evidence_source",
     ["WRITE_SIDE_ADMISSION","READ_SIDE_PATH","SNAPSHOT_TRUST_PATH","SNAPSHOT_ASSISTED_PATH",
      "RUNTIME_OBSERVATION","UNKNOWN"].contains row.evidenceSource),
   ("ck_decision_receipts_evidence_summary_object",row.evidenceSummary.isObject),
   ("ck_decision_receipts_fallback_required",flagStates.contains row.fallbackRequired),
   ("ck_decision_receipts_identity_source",
     ["ACCEPTED_HISTORY","CANDIDATE_EVENT_IDENTITY","WRITE_SIDE_CORRELATION",
      "READ_SIDE_OBSERVATION","SNAPSHOT_LINEAGE","CALLER_CONTEXT","UNKNOWN"].contains
      row.identitySource),
   ("ck_decision_receipts_lock_wait_ms_non_negative",nonNegativeIfPresent row.lockWaitMs),
   ("ck_decision_receipts_materialization_provenance",
     ["LIVE_RESULT","ACCEPTED_HISTORY_RECONCILIATION"].contains row.materializationProvenance),
   ("ck_decision_receipts_metadata_object",row.metadata.isObject),
   ("ck_decision_receipts_operator_review_required",flagStates.contains row.operatorReviewRequired),
   ("ck_decision_receipts_order_id_not_empty",notEmptyIfPresent row.orderId),
   ("ck_decision_receipts_reason_not_empty",trimNotEmpty row.reason),
   ("ck_decision_receipts_rebuild_required",flagStates.contains row.rebuildRequired),
   ("ck_decision_receipts_replay_elapsed_ms_non_negative",
     nonNegativeIfPresent row.replayElapsedMs),
   ("ck_decision_receipts_request_id_not_empty",notEmptyIfPresent row.requestId),
   ("ck_decision_receipts_retry_candidate",flagStates.contains row.retryCandidate),
   ("ck_decision_receipts_reversibility",
     ["REVERSIBLE","REBUILDABLE","COMPENSABLE","IRREVERSIBLE","UNKNOWN"].contains
      row.reversibility),
   ("ck_decision_receipts_risk_level",
     ["LOW","MEDIUM","HIGH","CRITICAL","UNKNOWN"].contains row.riskLevel),
   ("ck_decision_receipts_runtime_role_not_empty",notEmptyIfPresent row.runtimeRole),
   ("ck_decision_receipts_semantic_code",
     ["SEMANTICALLY_VALID","RUNTIME_UNRESOLVED","DERIVED_STATE_UNTRUSTED","DRIFT_DETECTED",
      "FAST_PATH_UNAVAILABLE","REQUIRES_AUTHORITY_FALLBACK","REQUIRES_REBUILD",
      "REQUIRES_OPERATOR_REVIEW","REJECT_DOWNSTREAM_USAGE","CONCURRENCY_UNCERTAIN",
      "IDEMPOTENT_REPLAY_ALLOWED","SEMANTIC_CONFLICT_DETECTED","INTENT_DRIFT_DETECTED"].contains
      row.semanticCode),
   ("ck_decision_receipts_serialization_version_v1",row.receiptSerializationVersion == 1),
   ("ck_decision_receipts_severity",["INFO","WARNING","ERROR","CRITICAL"].contains row.severity),
   ("ck_decision_receipts_source_position_non_negative",
     nonNegativeIfPresent row.sourceGlobalPosition),
   ("ck_decision_receipts_subject_id_not_empty",notEmptyIfPresent row.subjectId),
   ("ck_decision_receipts_subject_type",
     ["ORDER","REQUEST","CANDIDATE_EVENT","ACCEPTED_EVENT","SNAPSHOT","PROJECTION","RUNTIME",
      "UNKNOWN"].contains row.subjectType),
   ("ck_decision_receipts_transaction_elapsed_ms_non_negative",
     nonNegativeIfPresent row.transactionElapsedMs),
   ("ck_decision_receipts_validation_elapsed_ms_non_negative",
     nonNegativeIfPresent row.validationElapsedMs)]

/-- The key of `uq_decision_receipts_admitted_write_side_event`; other rows have none. -/
def DecisionReceiptRow.admittedEventId (row : DecisionReceiptRow) : Option Uuid :=
  if row.evidenceSource = "WRITE_SIDE_ADMISSION" ∧
    row.admissionDisposition = some "ADMITTED_TO_ACCEPTED_HISTORY" then row.acceptedEventId
  else none

/-- The rows share the primary key or the key of the partial unique index. -/
def DecisionReceiptRow.conflicts (row other : DecisionReceiptRow) : Bool :=
  row.receiptId == other.receiptId ||
    (row.admittedEventId.isSome && row.admittedEventId == other.admittedEventId)

/-- `INSERT ... ON CONFLICT DO NOTHING RETURNING ...` -/
def ReceiptRows.insertRow (t : ReceiptRows) (row : DecisionReceiptRow) :
    Except PyException (Option DecisionReceiptRow × ReceiptRows) :=
  match failedCheck "decision_receipts" (receiptChecks row) with
  | some e => .error e
  | none =>
    if t.rows.any row.conflicts then .ok (none,t)
    else if row.acceptedEventId.all (fun u => t.acceptedEvents.contains u) then
      .ok (some row,{ t with rows := t.rows ++ [row] })
    else .error (foreignKeyViolation "decision_receipts" "fk_decision_receipts_accepted_event")

/-! ## A row as a receipt -/

/-- `Class(value)` -/
def enumOf {α : Type} [PyEnum α] (value : String) : Except PyException α :=
  match PyEnum.ofValue value with
  | some member => .ok member
  | none => .error (.valueError ("'" ++ value ++ "' is not a valid " ++ PyEnum.typeName α))

/-- `None if value is None else Class(value)` -/
def optionalEnumOf {α : Type} [PyEnum α] : Option String → Except PyException (Option α)
  | none => .ok none
  | some value => do .ok (some (← enumOf value))

def persistedDecisionReceiptFromRow (row : DecisionReceiptRow) :
    Except PyException (PersistedDecisionReceipt DecisionReceipt) := do
  if row.receiptSerializationVersion ≠ DECISION_RECEIPT_SERIALIZATION_VERSION then
    .error (.valueError "stored receipt_serialization_version must be 1")
  else
    let admissionEvidence ← optionalEnumOf row.admissionDisposition
    let boundary ← enumOf row.boundary
    let category ← enumOf row.category
    let semanticCode ← enumOf row.semanticCode
    let severity ← enumOf row.severity
    let riskLevel ← enumOf row.riskLevel
    let reversibility ← enumOf row.reversibility
    let evidenceSource ← enumOf row.evidenceSource
    let subject ← DecisionReceiptSubject.make (← enumOf row.subjectType)
      (row.subjectId.map PyStr.ofText)
    let correlation ← DecisionReceiptCorrelation.make (row.orderId.map PyStr.ofText)
      (row.requestId.map PyStr.ofText) row.candidateEventId row.acceptedEventId row.snapshotId
      (row.sourceGlobalPosition.map exactInt) (← enumOf row.identitySource)
    let actor ← DecisionReceiptActor.make (row.actorId.map PyStr.ofText)
      (row.actorRole.map PyStr.ofText) (row.runtimeRole.map PyStr.ofText)
    let costSummary ← DecisionReceiptCostSummary.make (row.elapsedMs.map exactInt)
      (row.validationElapsedMs.map exactInt) (row.replayElapsedMs.map exactInt)
      (row.transactionElapsedMs.map exactInt) (row.lockWaitMs.map exactInt)
    let fallbackRequired ← enumOf row.fallbackRequired
    let rebuildRequired ← enumOf row.rebuildRequired
    let operatorReviewRequired ← enumOf row.operatorReviewRequired
    let retryCandidate ← enumOf row.retryCandidate
    let receipt ← DecisionReceipt.make row.receiptId row.outcomeId row.ok boundary category
      semanticCode severity riskLevel reversibility (.ofText row.reason) evidenceSource subject
      correlation actor costSummary
      ⟨fallbackRequired,rebuildRequired,operatorReviewRequired,retryCandidate⟩ admissionEvidence
      row.evidenceSummary.loads row.metadata.loads
    -- the payload is discarded: serializing checks that the row is portable
    let _ ← serializeDecisionReceipt receipt
    let materializationProvenance ← enumOf row.materializationProvenance
    .ok ⟨receipt,materializationProvenance,row.materializedAt⟩

/-! ## Comparing payloads -/

inductive BuiltinType where | noneType | bool | str | int | float | list | tuple | dict
deriving DecidableEq, Repr

/-- `type(value)`, if it is a built-in class. -/
def PyValue.builtinType : PyValue → Option BuiltinType
  | .none => some .noneType
  | .bool _ => some .bool
  | .str s => if s.exact then some .str else Option.none
  | .int n => if n.exact then some .int else Option.none
  | .float _ exact => if exact then some .float else Option.none
  | .sequence .list _ => some .list
  | .sequence .tuple _ => some .tuple
  | .mapping _ => some .dict
  | .object => Option.none

def PyKey.isExact : PyKey → Bool
  | .str s => s.exact
  | .other _ => false

def unsupportedJsonValue : PyException :=
  .typeError "serialized payload contains an unsupported JSON value"

/-- The comparison of two values that are no containers. -/
def sameSerializedScalar (left right : PyValue) : Except PyException Bool :=
  if left.builtinType = some .noneType ∨ right.builtinType = some .noneType then
    .ok (left.builtinType == right.builtinType)
  else if left.builtinType ≠ right.builtinType then .ok false
  else match left, right with
    | .str _, .str _ | .bool _, .bool _ | .int _, .int _ | .float _ _, .float _ _ =>
      if left.builtinType = none then .error unsupportedJsonValue else .ok (left.same right)
    | _, _ => .error unsupportedJsonValue

mutual
def sameSerializedJsonValue : PyValue → PyValue → Except PyException Bool
  | .mapping left, right =>
    match right with
    | .mapping right =>
      if left.any (fun item => (PyItems.get right item.1.identity).isNone) ||
          right.any (fun item => (PyItems.get left item.1.identity).isNone) then .ok false
      else if left.any (fun item => !item.1.isExact) then
        .error (.typeError "serialized payload object keys must be strings")
      else sameSerializedFields left right
    | _ => .ok false
  | .sequence .list left, right =>
    match right with
    | .sequence .list right =>
      if left.length ≠ right.length then .ok false else sameSerializedItems left right
    | _ => .ok false
  | left, right => sameSerializedScalar left right
def sameSerializedItems : List PyValue → List PyValue → Except PyException Bool
  | v :: vs, w :: ws => do
    if ← sameSerializedJsonValue v w then sameSerializedItems vs ws else .ok false
  | _, _ => .ok true
def sameSerializedFields : List (PyKey × PyValue) → List (PyKey × PyValue) → Except PyException Bool
  | [], _ => .ok true
  | (key,v) :: rest, right => do
    match PyItems.get right key.identity with
    | some w => if ← sameSerializedJsonValue v w then sameSerializedFields rest right else .ok false
    | none => .error (.other "KeyError" key.text)
end

def sameVersionedPayload (existing : PersistedDecisionReceipt DecisionReceipt)
    (incomingPayload : PyItems) : Except PyException Bool := do
  let payload ← serializeDecisionReceipt existing.receipt
  sameSerializedJsonValue (.mapping payload) (.mapping incomingPayload)

/-! ## The store -/

inductive ReceiptStoreError where
  | python (e : PyException)
  | conflict (e : DecisionReceiptConflictError)
deriving DecidableEq, Repr

abbrev StoreResult (α : Type) : Type := Except ReceiptStoreError α

def raising {α : Type} : Except PyException α → StoreResult α
  | .ok a => .ok a
  | .error e => .error (.python e)

/-- The row of the insert's parameters; the database sets the time. -/
def insertedRow (receipt : DecisionReceipt) (provenance : DecisionReceiptMaterializationProvenance)
    (evidenceSummary metadata : Json JsonNumeric) (now : ℤ) : DecisionReceiptRow where
  receiptId := receipt.receiptId
  receiptSerializationVersion := DECISION_RECEIPT_SERIALIZATION_VERSION
  outcomeId := receipt.outcomeId
  ok := receipt.ok
  boundary := receipt.boundary.value
  category := receipt.category.value
  semanticCode := receipt.semanticCode.value
  severity := receipt.severity.value
  riskLevel := receipt.riskLevel.value
  reversibility := receipt.reversibility.value
  reason := receipt.reason.text
  evidenceSource := receipt.evidenceSource.value
  subjectType := receipt.subject.subjectType.value
  subjectId := receipt.subject.subjectId.map PyStr.text
  orderId := receipt.correlation.orderId.map PyStr.text
  requestId := receipt.correlation.requestId.map PyStr.text
  candidateEventId := receipt.correlation.candidateEventId
  acceptedEventId := receipt.correlation.acceptedEventId
  snapshotId := receipt.correlation.snapshotId
  sourceGlobalPosition := receipt.correlation.sourceGlobalPosition.map PyInt.value
  identitySource := receipt.correlation.identitySource.value
  actorId := receipt.actor.actorId.map PyStr.text
  actorRole := receipt.actor.actorRole.map PyStr.text
  runtimeRole := receipt.actor.runtimeRole.map PyStr.text
  elapsedMs := receipt.costSummary.elapsedMs.map PyInt.value
  validationElapsedMs := receipt.costSummary.validationElapsedMs.map PyInt.value
  replayElapsedMs := receipt.costSummary.replayElapsedMs.map PyInt.value
  transactionElapsedMs := receipt.costSummary.transactionElapsedMs.map PyInt.value
  lockWaitMs := receipt.costSummary.lockWaitMs.map PyInt.value
  fallbackRequired := receipt.flags.fallbackRequired.value
  rebuildRequired := receipt.flags.rebuildRequired.value
  operatorReviewRequired := receipt.flags.operatorReviewRequired.value
  retryCandidate := receipt.flags.retryCandidate.value
  admissionDisposition := receipt.admissionEvidence.map EventAdmissionDisposition.value
  evidenceSummary := evidenceSummary
  metadata := metadata
  materializationProvenance := provenance.value
  materializedAt := now

def DecisionReceiptRow.texts (row : DecisionReceiptRow) : List String :=
  [row.boundary,row.category,row.semanticCode,row.severity,row.riskLevel,row.reversibility,
   row.reason,row.evidenceSource,row.subjectType] ++ row.subjectId.toList ++ row.orderId.toList ++
  row.requestId.toList ++ [row.identitySource] ++ row.actorId.toList ++ row.actorRole.toList ++
  row.runtimeRole.toList ++ [row.fallbackRequired,row.rebuildRequired,row.operatorReviewRequired,
   row.retryCandidate] ++ row.admissionDisposition.toList ++ [row.materializationProvenance]

def nulInJsonb : PyException := .databaseError "22P05" "unsupported Unicode escape sequence"

/-- The insert statement, with the conversions of its parameters. -/
def executeInsert (receipt : DecisionReceipt) (evidenceSummary metadata : PyItems)
    (provenance : DecisionReceiptMaterializationProvenance) (now : ℤ) (t : ReceiptRows) :
    Except PyException (Option DecisionReceiptRow × ReceiptRows) := do
  let evidenceText ← dumps (.mapping evidenceSummary)
  let metadataText ← dumps (.mapping metadata)
  let row := insertedRow receipt provenance evidenceText.toJsonb metadataText.toJsonb now
  if row.texts.any hasNul then .error nulInText
  else if (PyValue.mapping evidenceSummary).All NulFree ∧ (PyValue.mapping metadata).All NulFree then
    t.insertRow row
  else .error nulInJsonb

def loadByReceiptId (receiptId : Uuid) (t : ReceiptRows) :
    Except PyException (Option (PersistedDecisionReceipt DecisionReceipt)) :=
  match t.rows.find? (fun row => row.receiptId = receiptId) with
  | none => .ok none
  | some row => do .ok (some (← persistedDecisionReceiptFromRow row))

def loadAdmittedWriteSideMaterializationByAcceptedEventId (acceptedEventId : Uuid)
    (t : ReceiptRows) : Except PyException (Option (PersistedDecisionReceipt DecisionReceipt)) :=
  match t.rows.find? (fun row => row.admittedEventId = some acceptedEventId) with
  | none => .ok none
  | some row => do .ok (some (← persistedDecisionReceiptFromRow row))

def admittedWriteSideAcceptedEventId (receipt : DecisionReceipt) : Option Uuid :=
  if receipt.evidenceSource = .writeSideAdmission ∧
    receipt.admissionEvidence = some .admittedToAcceptedHistory then
    receipt.correlation.acceptedEventId
  else none

def serializedReceiptBody (payload : PyItems) : Except PyException PyItems := do
  let version ← getItem payload "receipt_serialization_version"
  if version.same (.int ⟨DECISION_RECEIPT_SERIALIZATION_VERSION,true⟩) then
    match ← getItem payload "receipt" with
    | .mapping body => .ok body
    | _ => .error (.typeError "serialized receipt body must be a mapping")
  else .error (.valueError "serialized receipt version must be 1")

def serializedJsonObject (value : PyValue) (fieldName : String) : Except PyException PyItems :=
  match value with
  | .mapping items => .ok items
  | _ => .error (.typeError ("serialized " ++ fieldName ++ " must be a mapping"))

/-- What follows an insert that returned no row. -/
def classifyExisting (receipt : DecisionReceipt) (payload : PyItems) (t : ReceiptRows) :
    StoreResult (DecisionReceiptInsertResult DecisionReceipt) := do
  match ← raising (loadByReceiptId receipt.receiptId t) with
  | some existing =>
    if ← raising (sameVersionedPayload existing payload) then .ok ⟨.alreadyPresent,existing⟩
    else .error (.conflict
      ⟨.receiptIdContentConflict,receipt.receiptId,receipt.correlation.acceptedEventId⟩)
  | none =>
    let unclassified : PyException := .runtimeError
      ("DecisionReceipt insert returned no row and no existing receipt identity could be " ++
        "classified")
    match admittedWriteSideAcceptedEventId receipt with
    | none => .error (.python unclassified)
    | some acceptedEventId =>
      match ← raising (loadAdmittedWriteSideMaterializationByAcceptedEventId acceptedEventId t) with
      | some _ => .error (.conflict
          ⟨.acceptedProducerIdentityConflict,receipt.receiptId,some acceptedEventId⟩)
      | none => .error (.python unclassified)

/-- `insert`, with the table it leaves. -/
def insert (receipt : DecisionReceipt) (provenance : DecisionReceiptMaterializationProvenance)
    (now : ℤ) (t : ReceiptRows) :
    StoreResult (DecisionReceiptInsertResult DecisionReceipt × ReceiptRows) := do
  let payload ← raising (serializeDecisionReceipt receipt)
  let body ← raising (serializedReceiptBody payload)
  let evidenceSummary ← raising (getItem body "evidence_summary" >>=
    (serializedJsonObject · "evidence_summary"))
  let metadata ← raising (getItem body "metadata" >>= (serializedJsonObject · "metadata"))
  let (inserted,t) ← raising (executeInsert receipt evidenceSummary metadata provenance now t)
  match inserted with
  | some row => do
    let record ← raising (persistedDecisionReceiptFromRow row)
    .ok (⟨.inserted,record⟩,t)
  | none => do .ok (← classifyExisting receipt payload t,t)
end StreamingCompass.Serialization
