import Mathlib.Data.List.Sort
import StreamingCompass.Core.Uuid
import StreamingCompass.Serialization.Receipt

/-! # Serialization version 1

`compass/runtime/decision_receipt_serialization.py`, field by field: the payload of a receipt
and the receipt of a payload.
-/
namespace StreamingCompass.Serialization

def DECISION_RECEIPT_SERIALIZATION_VERSION : ℤ := 1

def SIGNED_64_BIT_MIN : ℤ := -(2^63)
def SIGNED_64_BIT_MAX : ℤ := 2^63-1

def OUTER_KEYS : List String := ["receipt_serialization_version","receipt"]

def RECEIPT_KEYS : List String :=
  ["receipt_id","outcome_id","ok","boundary","category","semantic_code","severity","risk_level",
   "reversibility","reason","evidence_source","subject","correlation","actor","cost_summary","flags",
   "admission_evidence","evidence_summary","metadata"]

def SUBJECT_KEYS : List String := ["subject_type","subject_id"]

def CORRELATION_KEYS : List String :=
  ["order_id","request_id","candidate_event_id","accepted_event_id","snapshot_id",
   "source_global_position","identity_source"]

def ACTOR_KEYS : List String := ["actor_id","actor_role","runtime_role"]

def COST_SUMMARY_KEYS : List String :=
  ["elapsed_ms","validation_elapsed_ms","replay_elapsed_ms","transaction_elapsed_ms","lock_wait_ms"]

def FLAGS_KEYS : List String :=
  ["fallback_required","rebuild_required","operator_review_required","retry_candidate"]

def ADMISSION_EVIDENCE_KEYS : List String := ["disposition"]

/-! ## Leaves -/

def requireMapping (value : PyValue) (fieldName : String) : Except PyException PyItems :=
  match value with
  | .mapping items => .ok items
  | _ => .error (.typeError (fieldName ++ " must be a mapping"))

def exactKeys (fieldName : String) : PyItems → Except PyException (List String)
  | [] => .ok []
  | (.str ⟨text,true⟩,_) :: rest => do .ok (text :: (← exactKeys fieldName rest))
  | _ :: _ => .error (.typeError (fieldName ++ " keys must be strings"))

def sorted (keys : List String) : List String := keys.insertionSort (· ≤ ·)

def requireExactKeys (value : PyItems) (expectedKeys : List String) (fieldName : String) :
    Except PyException Unit := do
  let actualKeys ← exactKeys fieldName value
  let missing := sorted (expectedKeys.filter (fun key => key ∉ actualKeys))
  let unknown := sorted (actualKeys.filter (fun key => key ∉ expectedKeys))
  if missing = [] ∧ unknown = [] then .ok ()
  else
    let details :=
      (if missing = [] then [] else ["missing keys: " ++ String.intercalate ", " missing]) ++
      (if unknown = [] then [] else ["unknown keys: " ++ String.intercalate ", " unknown])
    .error (.valueError
      (fieldName ++ " has invalid keys (" ++ String.intercalate "; " details ++ ")"))

/-- `value[key]` -/
def getItem (value : PyItems) (key : String) : Except PyException PyValue :=
  match value.get (.inl key) with
  | some item => .ok item
  | none => .error (.other "KeyError" key)

def requireNestedMapping (receiptBody : PyItems) (fieldName : String) (expectedKeys : List String) :
    Except PyException PyItems := do
  let path := "payload.receipt." ++ fieldName
  let body ← requireMapping (← getItem receiptBody fieldName) path
  requireExactKeys body expectedKeys path
  .ok body

def requireBool (value : PyValue) (fieldName : String) : Except PyException Bool :=
  match value with
  | .bool b => .ok b
  | _ => .error (.typeError (fieldName ++ " must be bool"))

def requireString (value : PyValue) (fieldName : String) : Except PyException PyStr :=
  match value with
  | .str ⟨text,true⟩ => .ok ⟨text,true⟩
  | _ => .error (.typeError (fieldName ++ " must be str"))

def requireInt64 (value : PyValue) (fieldName : String) : Except PyException PyInt :=
  match value with
  | .int ⟨n,true⟩ =>
    if n < SIGNED_64_BIT_MIN ∨ n > SIGNED_64_BIT_MAX then
      .error (.valueError (fieldName ++ " must fit the signed 64-bit range"))
    else .ok ⟨n,true⟩
  | _ => .error (.typeError (fieldName ++ " must be int, not bool or another type"))

def deserializeUuid (value : PyValue) (fieldName : String) : Except PyException Uuid :=
  match value with
  | .str ⟨text,true⟩ =>
    match Uuid.parse text with
    | some u => .ok u
    | none => .error (.valueError (fieldName ++ " must be a valid UUID string"))
  | _ => .error (.typeError (fieldName ++ " must be a UUID string"))

def deserializeEnum {α : Type} [PyEnum α] (value : PyValue) (fieldName : String) :
    Except PyException α :=
  match value with
  | .str ⟨text,true⟩ =>
    match PyEnum.ofValue text with
    | some member => .ok member
    | none =>
      .error (.valueError (fieldName ++ " has an unknown " ++ PyEnum.typeName α ++ " value"))
  | _ => .error (.typeError (fieldName ++ " must be a " ++ PyEnum.typeName α ++ " value string"))

/-- `None if value is None else decode(value)` -/
def deserializeOptional {α : Type} (decode : PyValue → String → Except PyException α)
    (value : PyValue) (fieldName : String) : Except PyException (Option α) :=
  match value with
  | .none => .ok none
  | value => do .ok (some (← decode value fieldName))

def deserializeOptionalString : PyValue → String → Except PyException (Option PyStr) :=
  deserializeOptional requireString
def deserializeOptionalUuid : PyValue → String → Except PyException (Option Uuid) :=
  deserializeOptional deserializeUuid
def deserializeOptionalInt64 : PyValue → String → Except PyException (Option PyInt) :=
  deserializeOptional requireInt64

/-- The text of a key in a field name. -/
def PyKey.text : PyKey → String
  | .str s => s.text
  | .other n => toString n

mutual
def detachJsonValue (fieldName : String) : PyValue → Except PyException PyValue
  | .none => .ok .none
  | .str ⟨text,true⟩ => .ok (.str ⟨text,true⟩)
  | .bool b => .ok (.bool b)
  | .int ⟨n,true⟩ => do .ok (.int (← requireInt64 (.int ⟨n,true⟩) fieldName))
  | .float x true => .ok (.float x true)
  | .mapping items => do .ok (.mapping (← detachJsonFields fieldName items))
  | .sequence .tuple items => do .ok (.sequence .list (← detachJsonItems fieldName 0 items))
  | _ => .error (.typeError (fieldName ++ " must be JSON-safe"))
def detachJsonItems (fieldName : String) (index : ℕ) :
    List PyValue → Except PyException (List PyValue)
  | [] => .ok []
  | v :: vs => do
    let item ← detachJsonValue (fieldName ++ "[" ++ toString index ++ "]") v
    .ok (item :: (← detachJsonItems fieldName (index+1) vs))
def detachJsonFields (fieldName : String) :
    List (PyKey × PyValue) → Except PyException (List (PyKey × PyValue))
  | [] => .ok []
  | (key,v) :: rest => do
    let item ← detachJsonValue (fieldName ++ "." ++ key.text) v
    .ok ((key,item) :: (← detachJsonFields fieldName rest))
end

def detachJsonObject (value : PyValue) (fieldName : String) : Except PyException PyItems := do
  let validated ← ensureJsonObject value fieldName
  detachJsonFields fieldName validated

/-! ## Serialization -/

def serializeString (value : PyStr) : PyValue := .str value
def serializeEnum {α : Type} [PyEnum α] (value : α) : PyValue := .str (.ofText (PyEnum.value value))
def serializeUuid (value : Uuid) : PyValue := .str (.ofText value.str)

/-- `None if value is None else encode(value)` -/
def serializeOptional {α : Type} (encode : α → PyValue) : Option α → PyValue
  | none => .none
  | some a => encode a

def serializeOptionalInt64 (value : Option PyInt) (fieldName : String) :
    Except PyException PyValue :=
  match value with
  | none => .ok .none
  | some n => do .ok (.int (← requireInt64 (.int n) fieldName))

def serializeSubject (subject : DecisionReceiptSubject) : PyItems :=
  dict [("subject_type",serializeEnum subject.subjectType),
        ("subject_id",serializeOptional serializeString subject.subjectId)]

def serializeCorrelation (correlation : DecisionReceiptCorrelation) : Except PyException PyItems := do
  let sourceGlobalPosition ← serializeOptionalInt64 correlation.sourceGlobalPosition
    "receipt.correlation.source_global_position"
  .ok (dict [
    ("order_id",serializeOptional serializeString correlation.orderId),
    ("request_id",serializeOptional serializeString correlation.requestId),
    ("candidate_event_id",serializeOptional serializeUuid correlation.candidateEventId),
    ("accepted_event_id",serializeOptional serializeUuid correlation.acceptedEventId),
    ("snapshot_id",serializeOptional serializeUuid correlation.snapshotId),
    ("source_global_position",sourceGlobalPosition),
    ("identity_source",serializeEnum correlation.identitySource)])

def serializeActor (actor : DecisionReceiptActor) : PyItems :=
  dict [("actor_id",serializeOptional serializeString actor.actorId),
        ("actor_role",serializeOptional serializeString actor.actorRole),
        ("runtime_role",serializeOptional serializeString actor.runtimeRole)]

def serializeCostSummary (cost : DecisionReceiptCostSummary) : Except PyException PyItems := do
  let elapsedMs ← serializeOptionalInt64 cost.elapsedMs "receipt.cost_summary.elapsed_ms"
  let validationElapsedMs ← serializeOptionalInt64 cost.validationElapsedMs
    "receipt.cost_summary.validation_elapsed_ms"
  let replayElapsedMs ← serializeOptionalInt64 cost.replayElapsedMs
    "receipt.cost_summary.replay_elapsed_ms"
  let transactionElapsedMs ← serializeOptionalInt64 cost.transactionElapsedMs
    "receipt.cost_summary.transaction_elapsed_ms"
  let lockWaitMs ← serializeOptionalInt64 cost.lockWaitMs "receipt.cost_summary.lock_wait_ms"
  .ok (dict [("elapsed_ms",elapsedMs),("validation_elapsed_ms",validationElapsedMs),
    ("replay_elapsed_ms",replayElapsedMs),("transaction_elapsed_ms",transactionElapsedMs),
    ("lock_wait_ms",lockWaitMs)])

def serializeFlags (flags : DecisionReceiptFlags) : PyItems :=
  dict [("fallback_required",serializeEnum flags.fallbackRequired),
        ("rebuild_required",serializeEnum flags.rebuildRequired),
        ("operator_review_required",serializeEnum flags.operatorReviewRequired),
        ("retry_candidate",serializeEnum flags.retryCandidate)]

def serializeAdmissionEvidence (disposition : EventAdmissionDisposition) : PyValue :=
  .mapping (dict [("disposition",serializeEnum disposition)])

/-- The body of a payload from its parts that can be refused. -/
def receiptBody (receipt : DecisionReceipt) (correlation costSummary evidenceSummary
    metadata : PyItems) : PyItems :=
  dict [
    ("receipt_id",serializeUuid receipt.receiptId),
    ("outcome_id",serializeUuid receipt.outcomeId),
    ("ok",.bool receipt.ok),
    ("boundary",serializeEnum receipt.boundary),
    ("category",serializeEnum receipt.category),
    ("semantic_code",serializeEnum receipt.semanticCode),
    ("severity",serializeEnum receipt.severity),
    ("risk_level",serializeEnum receipt.riskLevel),
    ("reversibility",serializeEnum receipt.reversibility),
    ("reason",serializeString receipt.reason),
    ("evidence_source",serializeEnum receipt.evidenceSource),
    ("subject",.mapping (serializeSubject receipt.subject)),
    ("correlation",.mapping correlation),
    ("actor",.mapping (serializeActor receipt.actor)),
    ("cost_summary",.mapping costSummary),
    ("flags",.mapping (serializeFlags receipt.flags)),
    ("admission_evidence",serializeOptional serializeAdmissionEvidence receipt.admissionEvidence),
    ("evidence_summary",.mapping evidenceSummary),
    ("metadata",.mapping metadata)]

def serializeDecisionReceipt (receipt : DecisionReceipt) : Except PyException PyItems := do
  let correlation ← serializeCorrelation receipt.correlation
  let costSummary ← serializeCostSummary receipt.costSummary
  let evidenceSummary ← detachJsonObject (.mapping receipt.evidenceSummary.items)
    "receipt.evidence_summary"
  let metadata ← detachJsonObject (.mapping receipt.metadata.items) "receipt.metadata"
  .ok (dict [
    ("receipt_serialization_version",.int ⟨DECISION_RECEIPT_SERIALIZATION_VERSION,true⟩),
    ("receipt",.mapping (receiptBody receipt correlation costSummary evidenceSummary metadata))])

/-! ## Deserialization -/

def deserializeSubject (body : PyItems) : Except PyException DecisionReceiptSubject := do
  let subjectType ← deserializeEnum (← getItem body "subject_type")
    "payload.receipt.subject.subject_type"
  let subjectId ← deserializeOptionalString (← getItem body "subject_id")
    "payload.receipt.subject.subject_id"
  DecisionReceiptSubject.make subjectType subjectId

def deserializeCorrelation (body : PyItems) : Except PyException DecisionReceiptCorrelation := do
  let orderId ← deserializeOptionalString (← getItem body "order_id")
    "payload.receipt.correlation.order_id"
  let requestId ← deserializeOptionalString (← getItem body "request_id")
    "payload.receipt.correlation.request_id"
  let candidateEventId ← deserializeOptionalUuid (← getItem body "candidate_event_id")
    "payload.receipt.correlation.candidate_event_id"
  let acceptedEventId ← deserializeOptionalUuid (← getItem body "accepted_event_id")
    "payload.receipt.correlation.accepted_event_id"
  let snapshotId ← deserializeOptionalUuid (← getItem body "snapshot_id")
    "payload.receipt.correlation.snapshot_id"
  let sourceGlobalPosition ← deserializeOptionalInt64 (← getItem body "source_global_position")
    "payload.receipt.correlation.source_global_position"
  let identitySource ← deserializeEnum (← getItem body "identity_source")
    "payload.receipt.correlation.identity_source"
  DecisionReceiptCorrelation.make orderId requestId candidateEventId acceptedEventId snapshotId sourceGlobalPosition
    identitySource

def deserializeActor (body : PyItems) : Except PyException DecisionReceiptActor := do
  let actorId ← deserializeOptionalString (← getItem body "actor_id")
    "payload.receipt.actor.actor_id"
  let actorRole ← deserializeOptionalString (← getItem body "actor_role")
    "payload.receipt.actor.actor_role"
  let runtimeRole ← deserializeOptionalString (← getItem body "runtime_role")
    "payload.receipt.actor.runtime_role"
  DecisionReceiptActor.make actorId actorRole runtimeRole

def deserializeCostSummary (body : PyItems) : Except PyException DecisionReceiptCostSummary := do
  let elapsedMs ← deserializeOptionalInt64 (← getItem body "elapsed_ms")
    "payload.receipt.cost_summary.elapsed_ms"
  let validationElapsedMs ← deserializeOptionalInt64 (← getItem body "validation_elapsed_ms")
    "payload.receipt.cost_summary.validation_elapsed_ms"
  let replayElapsedMs ← deserializeOptionalInt64 (← getItem body "replay_elapsed_ms")
    "payload.receipt.cost_summary.replay_elapsed_ms"
  let transactionElapsedMs ← deserializeOptionalInt64 (← getItem body "transaction_elapsed_ms")
    "payload.receipt.cost_summary.transaction_elapsed_ms"
  let lockWaitMs ← deserializeOptionalInt64 (← getItem body "lock_wait_ms")
    "payload.receipt.cost_summary.lock_wait_ms"
  DecisionReceiptCostSummary.make elapsedMs validationElapsedMs replayElapsedMs transactionElapsedMs lockWaitMs

def deserializeFlags (body : PyItems) : Except PyException DecisionReceiptFlags := do
  let fallbackRequired ← deserializeEnum (← getItem body "fallback_required")
    "payload.receipt.flags.fallback_required"
  let rebuildRequired ← deserializeEnum (← getItem body "rebuild_required")
    "payload.receipt.flags.rebuild_required"
  let operatorReviewRequired ← deserializeEnum (← getItem body "operator_review_required")
    "payload.receipt.flags.operator_review_required"
  let retryCandidate ← deserializeEnum (← getItem body "retry_candidate")
    "payload.receipt.flags.retry_candidate"
  .ok { fallbackRequired, rebuildRequired, operatorReviewRequired, retryCandidate }

def deserializeAdmissionEvidence (value : PyValue) (fieldName : String) :
    Except PyException EventAdmissionDisposition := do
  let body ← requireMapping value fieldName
  requireExactKeys body ADMISSION_EVIDENCE_KEYS fieldName
  deserializeEnum (← getItem body "disposition") "payload.receipt.admission_evidence.disposition"

/-- `_detach_json_object(_require_mapping(value, path), path)` -/
def deserializeJsonObject (value : PyValue) (fieldName : String) : Except PyException PyValue := do
  let items ← requireMapping value fieldName
  .ok (.mapping (← detachJsonObject (.mapping items) fieldName))

def deserializeDecisionReceipt (payload : PyValue) : Except PyException DecisionReceipt := do
  let outer ← requireMapping payload "payload"
  requireExactKeys outer OUTER_KEYS "payload"
  let version ← requireInt64 (← getItem outer "receipt_serialization_version")
    "payload.receipt_serialization_version"
  if version.value ≠ DECISION_RECEIPT_SERIALIZATION_VERSION then
    .error (.valueError "payload.receipt_serialization_version is unsupported; expected 1")
  else
    let receiptBody ← requireMapping (← getItem outer "receipt") "payload.receipt"
    requireExactKeys receiptBody RECEIPT_KEYS "payload.receipt"
    let subjectBody ← requireNestedMapping receiptBody "subject" SUBJECT_KEYS
    let correlationBody ← requireNestedMapping receiptBody "correlation" CORRELATION_KEYS
    let actorBody ← requireNestedMapping receiptBody "actor" ACTOR_KEYS
    let costSummaryBody ← requireNestedMapping receiptBody "cost_summary" COST_SUMMARY_KEYS
    let flagsBody ← requireNestedMapping receiptBody "flags" FLAGS_KEYS
    let admissionEvidence ← deserializeOptional deserializeAdmissionEvidence
      (← getItem receiptBody "admission_evidence") "payload.receipt.admission_evidence"
    let receiptId ← deserializeUuid (← getItem receiptBody "receipt_id") "payload.receipt.receipt_id"
    let outcomeId ← deserializeUuid (← getItem receiptBody "outcome_id") "payload.receipt.outcome_id"
    let ok ← requireBool (← getItem receiptBody "ok") "payload.receipt.ok"
    let boundary ← deserializeEnum (← getItem receiptBody "boundary") "payload.receipt.boundary"
    let category ← deserializeEnum (← getItem receiptBody "category") "payload.receipt.category"
    let semanticCode ← deserializeEnum (← getItem receiptBody "semantic_code")
      "payload.receipt.semantic_code"
    let severity ← deserializeEnum (← getItem receiptBody "severity") "payload.receipt.severity"
    let riskLevel ← deserializeEnum (← getItem receiptBody "risk_level") "payload.receipt.risk_level"
    let reversibility ← deserializeEnum (← getItem receiptBody "reversibility")
      "payload.receipt.reversibility"
    let reason ← requireString (← getItem receiptBody "reason") "payload.receipt.reason"
    let evidenceSource ← deserializeEnum (← getItem receiptBody "evidence_source")
      "payload.receipt.evidence_source"
    let subject ← deserializeSubject subjectBody
    let correlation ← deserializeCorrelation correlationBody
    let actor ← deserializeActor actorBody
    let costSummary ← deserializeCostSummary costSummaryBody
    let flags ← deserializeFlags flagsBody
    let evidenceSummary ← deserializeJsonObject (← getItem receiptBody "evidence_summary")
      "payload.receipt.evidence_summary"
    let metadata ← deserializeJsonObject (← getItem receiptBody "metadata") "payload.receipt.metadata"
    DecisionReceipt.make receiptId outcomeId ok boundary category semanticCode severity riskLevel reversibility
      reason evidenceSource subject correlation actor costSummary flags admissionEvidence
      evidenceSummary metadata
end StreamingCompass.Serialization
