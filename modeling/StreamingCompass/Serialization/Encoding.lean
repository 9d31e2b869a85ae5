import StreamingCompass.Serialization.Detachment

/-! # What the serializer writes

A receipt is accepted just if its integers and its nested JSON are portable; the payload is
then a dictionary whose fields are written without a further check.
-/
namespace StreamingCompass.Serialization

/-- The integer is an exact one of 64 bits, if there is one. -/
def PortableInt (value : Option PyInt) : Prop := ∀ n, value = some n → Portable (.int n)

def optionalInt (value : Option PyInt) : PyValue := serializeOptional PyValue.int value

theorem serializeOptionalInt64_eq_ok {value : Option PyInt} {w : PyValue} {fieldName : String} :
    serializeOptionalInt64 value fieldName = .ok w ↔ PortableInt value ∧ w = optionalInt value := by
  cases value with
  | none => simp [serializeOptionalInt64, PortableInt, optionalInt, serializeOptional, eq_comm]
  | some n =>
    simp only [serializeOptionalInt64, bind_eq_ok, requireInt64_eq_ok, Except.ok.injEq, PortableInt,
      optionalInt, serializeOptional]
    constructor
    · rintro ⟨_,⟨⟨⟩,h⟩,rfl⟩
      exact ⟨fun _ hn => Option.some.inj hn ▸ h,rfl⟩
    · rintro ⟨h,rfl⟩
      exact ⟨n,⟨rfl,h n rfl⟩,rfl⟩

/-! ## The written payload -/

def correlationFields (correlation : DecisionReceiptCorrelation) : PyItems :=
  dict [
    ("order_id",serializeOptional serializeString correlation.orderId),
    ("request_id",serializeOptional serializeString correlation.requestId),
    ("candidate_event_id",serializeOptional serializeUuid correlation.candidateEventId),
    ("accepted_event_id",serializeOptional serializeUuid correlation.acceptedEventId),
    ("snapshot_id",serializeOptional serializeUuid correlation.snapshotId),
    ("source_global_position",optionalInt correlation.sourceGlobalPosition),
    ("identity_source",serializeEnum correlation.identitySource)]

theorem serializeCorrelation_eq_ok {correlation : DecisionReceiptCorrelation} {items : PyItems} :
    serializeCorrelation correlation = .ok items ↔
      PortableInt correlation.sourceGlobalPosition ∧ items = correlationFields correlation := by
  simp only [serializeCorrelation, bind_eq_ok, serializeOptionalInt64_eq_ok, Except.ok.injEq]
  constructor
  · rintro ⟨_,⟨h,rfl⟩,rfl⟩
    exact ⟨h,rfl⟩
  · rintro ⟨h,rfl⟩
    exact ⟨_,⟨h,rfl⟩,rfl⟩

structure PortableCosts (cost : DecisionReceiptCostSummary) : Prop where
  elapsedMs : PortableInt cost.elapsedMs
  validationElapsedMs : PortableInt cost.validationElapsedMs
  replayElapsedMs : PortableInt cost.replayElapsedMs
  transactionElapsedMs : PortableInt cost.transactionElapsedMs
  lockWaitMs : PortableInt cost.lockWaitMs

def costSummaryFields (cost : DecisionReceiptCostSummary) : PyItems :=
  dict [
    ("elapsed_ms",optionalInt cost.elapsedMs),
    ("validation_elapsed_ms",optionalInt cost.validationElapsedMs),
    ("replay_elapsed_ms",optionalInt cost.replayElapsedMs),
    ("transaction_elapsed_ms",optionalInt cost.transactionElapsedMs),
    ("lock_wait_ms",optionalInt cost.lockWaitMs)]

theorem serializeCostSummary_eq_ok {cost : DecisionReceiptCostSummary} {items : PyItems} :
    serializeCostSummary cost = .ok items ↔
      PortableCosts cost ∧ items = costSummaryFields cost := by
  simp only [serializeCostSummary, bind_eq_ok, serializeOptionalInt64_eq_ok, Except.ok.injEq]
  constructor
  · rintro ⟨_,⟨h1,rfl⟩,_,⟨h2,rfl⟩,_,⟨h3,rfl⟩,_,⟨h4,rfl⟩,_,⟨h5,rfl⟩,rfl⟩
    exact ⟨⟨h1,h2,h3,h4,h5⟩,rfl⟩
  · rintro ⟨h,rfl⟩
    exact ⟨_,⟨h.elapsedMs,rfl⟩,_,⟨h.validationElapsedMs,rfl⟩,_,⟨h.replayElapsedMs,rfl⟩,
      _,⟨h.transactionElapsedMs,rfl⟩,_,⟨h.lockWaitMs,rfl⟩,rfl⟩

/-- A receipt the serializer accepts. -/
structure PortableReceipt (r : DecisionReceipt) : Prop where
  sourceGlobalPosition : PortableInt r.correlation.sourceGlobalPosition
  costs : PortableCosts r.costSummary
  evidenceSummary : Detachable r.evidenceSummary.items
  metadata : Detachable r.metadata.items

def DecisionReceipt.body (r : DecisionReceipt) : PyItems :=
  receiptBody r (correlationFields r.correlation) (costSummaryFields r.costSummary)
    (fieldsWithSequences .list r.evidenceSummary.items)
    (fieldsWithSequences .list r.metadata.items)

def DecisionReceipt.payload (r : DecisionReceipt) : PyItems :=
  dict [("receipt_serialization_version",.int ⟨DECISION_RECEIPT_SERIALIZATION_VERSION,true⟩),
        ("receipt",.mapping r.body)]

theorem serializeDecisionReceipt_eq_ok {r : DecisionReceipt} {payload : PyItems} :
    serializeDecisionReceipt r = .ok payload ↔ PortableReceipt r ∧ payload = r.payload := by
  simp only [serializeDecisionReceipt, bind_eq_ok, serializeCorrelation_eq_ok,
    serializeCostSummary_eq_ok, detachJsonObject_eq_ok, Except.ok.injEq]
  constructor
  · rintro ⟨_,⟨hp,rfl⟩,_,⟨hc,rfl⟩,_,⟨_,⟨⟩,he,rfl⟩,_,⟨_,⟨⟩,hm,rfl⟩,rfl⟩
    exact ⟨⟨hp,hc,he,hm⟩,rfl⟩
  · rintro ⟨h,rfl⟩
    exact ⟨_,⟨h.sourceGlobalPosition,rfl⟩,_,⟨h.costs,rfl⟩,_,⟨_,rfl,h.evidenceSummary,rfl⟩,
      _,⟨_,rfl,h.metadata,rfl⟩,rfl⟩

end StreamingCompass.Serialization
