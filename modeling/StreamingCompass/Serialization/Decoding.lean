import StreamingCompass.Serialization.Encoding

/-! # What the deserializer reads

One specification for each decoder: the items it reads and what each has to decode to. A
payload decodes to a receipt just if every item decodes to the receipt's field.
-/
namespace StreamingCompass.Serialization

/-! ## Reading a dictionary display -/

theorem exactKeys_dict (fieldName : String) (fields : List (String × PyValue)) :
    exactKeys fieldName (dict fields) = .ok (fields.map Prod.fst) := by
  induction fields with
  | nil => rfl
  | cons field rest ih =>
    have hcons : exactKeys fieldName (dict (field :: rest)) =
        (do .ok (field.1 :: (← exactKeys fieldName (dict rest)))) := rfl
    rw [hcons, ih]
    rfl

theorem sorted_eq_nil_iff {keys : List String} : sorted keys = [] ↔ keys = [] := by
  rw [← List.length_eq_zero_iff, sorted, List.length_insertionSort, List.length_eq_zero_iff]

theorem requireExactKeys_eq_ok {value : PyItems} {expectedKeys : List String} {fieldName : String} :
    requireExactKeys value expectedKeys fieldName = .ok () ↔
      ∃ actualKeys, exactKeys fieldName value = .ok actualKeys ∧
        ∀ key, key ∈ actualKeys ↔ key ∈ expectedKeys := by
  simp only [requireExactKeys, bind_eq_ok]
  refine exists_congr (fun actualKeys => and_congr_right (fun _ => ?_))
  have hsame : (∀ key, key ∈ actualKeys ↔ key ∈ expectedKeys) ↔
      (∀ key ∈ expectedKeys, key ∈ actualKeys) ∧ ∀ key ∈ actualKeys, key ∈ expectedKeys :=
    ⟨fun h => ⟨fun key => (h key).mpr,fun key => (h key).mp⟩,fun h key => ⟨h.2 key,h.1 key⟩⟩
  rw [hsame]
  split
  · rename_i h
    simpa [sorted_eq_nil_iff, List.filter_eq_nil_iff] using h
  · rename_i h
    simpa [sorted_eq_nil_iff, List.filter_eq_nil_iff] using h

theorem requireExactKeys_dict {fields : List (String × PyValue)} {expectedKeys : List String}
    {fieldName : String} (h : fields.map Prod.fst = expectedKeys) :
    requireExactKeys (dict fields) expectedKeys fieldName = .ok () :=
  requireExactKeys_eq_ok.mpr ⟨_,exactKeys_dict fieldName fields,fun key => by rw [h]⟩

/-! ## Leaves -/

section Leaves
variable {α : Type} {fieldName : String}

@[simp] theorem requireMapping_mapping (items : PyItems) :
    requireMapping (.mapping items) fieldName = .ok items := rfl

theorem deserializeEnum_eq_ok [PyEnum α] {value : PyValue} {a : α} :
    deserializeEnum value fieldName = .ok a ↔ value = serializeEnum a := by
  unfold deserializeEnum
  split
  · rename_i text
    split
    · rename_i member hmember
      rw [← PyEnum.ofValue_eq_some.mp hmember]
      simp only [Except.ok.injEq, serializeEnum, PyStr.ofText, PyValue.str.injEq, PyStr.mk.injEq,
        and_true]
      exact ⟨congrArg _,PyEnum.value_injective⟩
    · rename_i hnone
      refine ⟨nofun,?_⟩
      rintro ⟨⟩
      simp at hnone
  · rename_i hne
    refine ⟨nofun,?_⟩
    rintro rfl
    exact (hne (PyEnum.value a) rfl).elim

@[simp] theorem deserializeEnum_serializeEnum [PyEnum α] (a : α) :
    deserializeEnum (serializeEnum a) fieldName = .ok a := deserializeEnum_eq_ok.mpr rfl

theorem deserializeUuid_eq_ok {value : PyValue} {u : Uuid} :
    deserializeUuid value fieldName = .ok u ↔
      ∃ text, value = .str (.ofText text) ∧ Uuid.parse text = some u := by
  unfold deserializeUuid
  split
  · rename_i text
    constructor
    · intro h
      cases hp : Uuid.parse text with
      | none => simp [hp] at h
      | some parsed =>
        simp only [hp, Except.ok.injEq] at h
        exact ⟨text,rfl,by rw [hp, h]⟩
    · rintro ⟨_,⟨⟩,hp⟩
      simp [hp]
  · rename_i hne
    refine ⟨nofun,?_⟩
    rintro ⟨text,rfl,-⟩
    exact (hne text rfl).elim

@[simp] theorem deserializeUuid_serializeUuid (u : Uuid) :
    deserializeUuid (serializeUuid u) fieldName = .ok u :=
  deserializeUuid_eq_ok.mpr ⟨u.str,rfl,Uuid.parse_str u⟩

theorem requireBool_eq_ok {value : PyValue} {b : Bool} :
    requireBool value fieldName = .ok b ↔ value = .bool b := by
  cases value <;> simp [requireBool]

theorem requireString_eq_ok {value : PyValue} {s : PyStr} :
    requireString value fieldName = .ok s ↔ value = .str s ∧ s.exact = true := by
  unfold requireString
  split
  · rename_i text
    simp only [Except.ok.injEq, PyValue.str.injEq]
    refine ⟨?_,fun h => h.1⟩
    rintro rfl
    exact ⟨rfl,rfl⟩
  · rename_i hne
    refine ⟨nofun,?_⟩
    rintro ⟨rfl,hexact⟩
    obtain ⟨text,exact⟩ := s
    cases hexact
    exact (hne text rfl).elim

/-- An optional field decodes where its value does. -/
theorem deserializeOptional_serializeOptional {encode : α → PyValue}
    {decode : PyValue → String → Except PyException α} {value : Option α}
    (hne : ∀ a, encode a ≠ .none) (h : ∀ a, value = some a → decode (encode a) fieldName = .ok a) :
    deserializeOptional decode (serializeOptional encode value) fieldName = .ok value := by
  cases value with
  | none => rfl
  | some a =>
    simp only [serializeOptional, deserializeOptional]
    split
    · rename_i hnone
      exact (hne a hnone).elim
    · rw [h a rfl]
      rfl

def ExactText (value : Option PyStr) : Prop := ∀ s, value = some s → s.exact = true

theorem deserializeOptionalString_serialize {value : Option PyStr} (h : ExactText value) :
    deserializeOptionalString (serializeOptional serializeString value) fieldName = .ok value :=
  deserializeOptional_serializeOptional nofun
    (fun s hs => requireString_eq_ok.mpr ⟨rfl,h s hs⟩)

@[simp] theorem deserializeOptionalUuid_serialize (value : Option Uuid) :
    deserializeOptionalUuid (serializeOptional serializeUuid value) fieldName = .ok value :=
  deserializeOptional_serializeOptional nofun (fun u _ => deserializeUuid_serializeUuid u)

theorem deserializeOptionalInt64_serialize {value : Option PyInt} (h : PortableInt value) :
    deserializeOptionalInt64 (optionalInt value) fieldName = .ok value :=
  deserializeOptional_serializeOptional nofun (fun n hn => requireInt64_eq_ok.mpr ⟨rfl,h n hn⟩)

end Leaves

/-! ## What each decoder reads -/

/-- The item under a key decodes to `a`. -/
def Reads {α : Type} (body : PyItems) (key : String) (decode : PyValue → Except PyException α)
    (a : α) : Prop :=
  ∃ v, body.get (.inl key) = some v ∧ decode v = .ok a

/-- The item under a key is an object with the given keys that decodes to `a`. -/
def ReadsNested {α : Type} (body : PyItems) (key : String) (keys : List String)
    (decode : PyItems → Except PyException α) (a : α) : Prop :=
  ∃ nested, body.get (.inl key) = some (.mapping nested) ∧
    requireExactKeys nested keys ("payload.receipt." ++ key) = .ok () ∧ decode nested = .ok a

section Reads
variable {α β : Type} {body : PyItems} {key : String}

theorem getItem_eq_ok {v : PyValue} : getItem body key = .ok v ↔ body.get (.inl key) = some v := by
  unfold getItem
  split <;> simp_all

theorem read_eq_ok {decode : PyValue → Except PyException α} {f : α → Except PyException β} {b : β} :
    (getItem body key >>= fun v => decode v >>= f) = .ok b ↔
      ∃ a, Reads body key decode a ∧ f a = .ok b := by
  simp only [bind_eq_ok, getItem_eq_ok, Reads]
  constructor
  · rintro ⟨v,hv,a,ha,hf⟩
    exact ⟨a,⟨v,hv,ha⟩,hf⟩
  · rintro ⟨a,⟨v,hv,ha⟩,hf⟩
    exact ⟨v,hv,a,ha,hf⟩

theorem requireMapping_eq_ok {value : PyValue} {fieldName : String} {items : PyItems} :
    requireMapping value fieldName = .ok items ↔ value = .mapping items := by
  unfold requireMapping
  split <;> simp_all

theorem requireNestedMapping_eq_ok {keys : List String} {nested : PyItems} :
    requireNestedMapping body key keys = .ok nested ↔ body.get (.inl key) = some (.mapping nested) ∧
      requireExactKeys nested keys ("payload.receipt." ++ key) = .ok () := by
  simp only [requireNestedMapping, bind_eq_ok, getItem_eq_ok, requireMapping_eq_ok, Except.ok.injEq]
  constructor
  · rintro ⟨_,hv,_,rfl,⟨⟩,hkeys,rfl⟩
    exact ⟨hv,hkeys⟩
  · rintro ⟨hv,hkeys⟩
    exact ⟨_,hv,_,rfl,(),hkeys,rfl⟩

end Reads

theorem deserializeSubject_eq_ok {body : PyItems} {s : DecisionReceiptSubject} :
    deserializeSubject body = .ok s ↔
      Reads body "subject_type" (deserializeEnum · "payload.receipt.subject.subject_type")
        s.subjectType ∧
      Reads body "subject_id" (deserializeOptionalString · "payload.receipt.subject.subject_id")
        s.subjectId := by
  simp only [deserializeSubject, read_eq_ok, DecisionReceiptSubject.make_eq_ok]
  constructor
  · rintro ⟨_,htype,_,hid,rfl,rfl⟩
    exact ⟨htype,hid⟩
  · rintro ⟨htype,hid⟩
    exact ⟨_,htype,_,hid,rfl,rfl⟩

theorem deserializeCorrelation_eq_ok {body : PyItems} {s : DecisionReceiptCorrelation} :
    deserializeCorrelation body = .ok s ↔
      Reads body "order_id" (deserializeOptionalString · "payload.receipt.correlation.order_id")
        s.orderId ∧
      Reads body "request_id" (deserializeOptionalString · "payload.receipt.correlation.request_id")
        s.requestId ∧
      Reads body "candidate_event_id"
        (deserializeOptionalUuid · "payload.receipt.correlation.candidate_event_id")
        s.candidateEventId ∧
      Reads body "accepted_event_id"
        (deserializeOptionalUuid · "payload.receipt.correlation.accepted_event_id")
        s.acceptedEventId ∧
      Reads body "snapshot_id" (deserializeOptionalUuid · "payload.receipt.correlation.snapshot_id")
        s.snapshotId ∧
      Reads body "source_global_position"
        (deserializeOptionalInt64 · "payload.receipt.correlation.source_global_position")
        s.sourceGlobalPosition ∧
      Reads body "identity_source" (deserializeEnum · "payload.receipt.correlation.identity_source")
        s.identitySource := by
  simp only [deserializeCorrelation, read_eq_ok, DecisionReceiptCorrelation.make_eq_ok]
  constructor
  · rintro ⟨_,h1,_,h2,_,h3,_,h4,_,h5,_,h6,_,h7,rfl,rfl,rfl,rfl,rfl,rfl,rfl⟩
    exact ⟨h1,h2,h3,h4,h5,h6,h7⟩
  · rintro ⟨h1,h2,h3,h4,h5,h6,h7⟩
    exact ⟨_,h1,_,h2,_,h3,_,h4,_,h5,_,h6,_,h7,rfl,rfl,rfl,rfl,rfl,rfl,rfl⟩

theorem deserializeActor_eq_ok {body : PyItems} {s : DecisionReceiptActor} :
    deserializeActor body = .ok s ↔
      Reads body "actor_id" (deserializeOptionalString · "payload.receipt.actor.actor_id")
        s.actorId ∧
      Reads body "actor_role" (deserializeOptionalString · "payload.receipt.actor.actor_role")
        s.actorRole ∧
      Reads body "runtime_role" (deserializeOptionalString · "payload.receipt.actor.runtime_role")
        s.runtimeRole := by
  simp only [deserializeActor, read_eq_ok, DecisionReceiptActor.make_eq_ok]
  constructor
  · rintro ⟨_,h1,_,h2,_,h3,rfl,rfl,rfl⟩
    exact ⟨h1,h2,h3⟩
  · rintro ⟨h1,h2,h3⟩
    exact ⟨_,h1,_,h2,_,h3,rfl,rfl,rfl⟩

theorem deserializeCostSummary_eq_ok {body : PyItems} {s : DecisionReceiptCostSummary} :
    deserializeCostSummary body = .ok s ↔
      Reads body "elapsed_ms" (deserializeOptionalInt64 · "payload.receipt.cost_summary.elapsed_ms")
        s.elapsedMs ∧
      Reads body "validation_elapsed_ms"
        (deserializeOptionalInt64 · "payload.receipt.cost_summary.validation_elapsed_ms")
        s.validationElapsedMs ∧
      Reads body "replay_elapsed_ms"
        (deserializeOptionalInt64 · "payload.receipt.cost_summary.replay_elapsed_ms")
        s.replayElapsedMs ∧
      Reads body "transaction_elapsed_ms"
        (deserializeOptionalInt64 · "payload.receipt.cost_summary.transaction_elapsed_ms")
        s.transactionElapsedMs ∧
      Reads body "lock_wait_ms"
        (deserializeOptionalInt64 · "payload.receipt.cost_summary.lock_wait_ms") s.lockWaitMs := by
  simp only [deserializeCostSummary, read_eq_ok, DecisionReceiptCostSummary.make_eq_ok]
  constructor
  · rintro ⟨_,h1,_,h2,_,h3,_,h4,_,h5,rfl,rfl,rfl,rfl,rfl⟩
    exact ⟨h1,h2,h3,h4,h5⟩
  · rintro ⟨h1,h2,h3,h4,h5⟩
    exact ⟨_,h1,_,h2,_,h3,_,h4,_,h5,rfl,rfl,rfl,rfl,rfl⟩

theorem deserializeFlags_eq_ok {body : PyItems} {s : DecisionReceiptFlags} :
    deserializeFlags body = .ok s ↔
      Reads body "fallback_required" (deserializeEnum · "payload.receipt.flags.fallback_required")
        s.fallbackRequired ∧
      Reads body "rebuild_required" (deserializeEnum · "payload.receipt.flags.rebuild_required")
        s.rebuildRequired ∧
      Reads body "operator_review_required"
        (deserializeEnum · "payload.receipt.flags.operator_review_required")
        s.operatorReviewRequired ∧
      Reads body "retry_candidate" (deserializeEnum · "payload.receipt.flags.retry_candidate")
        s.retryCandidate := by
  simp only [deserializeFlags, read_eq_ok, Except.ok.injEq]
  constructor
  · rintro ⟨_,h1,_,h2,_,h3,_,h4,rfl⟩
    exact ⟨h1,h2,h3,h4⟩
  · rintro ⟨h1,h2,h3,h4⟩
    exact ⟨_,h1,_,h2,_,h3,_,h4,rfl⟩

theorem deserializeAdmissionEvidence_eq_ok {value : PyValue} {fieldName : String}
    {d : EventAdmissionDisposition} : deserializeAdmissionEvidence value fieldName = .ok d ↔
      ∃ body, value = .mapping body ∧
        requireExactKeys body ADMISSION_EVIDENCE_KEYS fieldName = .ok () ∧
        Reads body "disposition"
          (deserializeEnum · "payload.receipt.admission_evidence.disposition") d := by
  simp only [deserializeAdmissionEvidence, bind_eq_ok, requireMapping_eq_ok, getItem_eq_ok, Reads]
  constructor
  · rintro ⟨body,rfl,_,hkeys,hread⟩
    exact ⟨body,rfl,hkeys,hread⟩
  · rintro ⟨body,rfl,hkeys,hread⟩
    exact ⟨body,rfl,(),hkeys,hread⟩

/-- Evidence or metadata: detached by the decoder, frozen by the constructor. -/
def decodeJson (value : PyValue) (path fieldName : String) : Except PyException JsonObject := do
  frozenJsonObject (← deserializeJsonObject value path) fieldName

theorem decodeJson_eq_ok {value : PyValue} {path fieldName : String} {o : JsonObject} :
    decodeJson value path fieldName = .ok o ↔ ∃ items, value = .mapping items ∧ Detachable items ∧
      o.items = fieldsWithSequences .tuple items := by
  simp only [decodeJson, deserializeJsonObject, bind_eq_ok, requireMapping_eq_ok,
    detachJsonObject_eq_ok, frozenJsonObject_eq_ok, ensureJsonObject_eq_ok, Except.ok.injEq,
    PyValue.mapping.injEq]
  constructor
  · rintro ⟨_,⟨items,rfl,_,⟨_,⟨⟩,hdetach,rfl⟩,rfl⟩,_,⟨⟩,-,ho⟩
    exact ⟨items,rfl,hdetach,by rw [ho, fieldsWithSequences_fieldsWithSequences]⟩
  · rintro ⟨items,rfl,hdetach,ho⟩
    refine ⟨_,⟨items,rfl,_,⟨items,rfl,hdetach,rfl⟩,rfl⟩,_,rfl,?_,?_⟩
    · exact (jsonSafe_withSequences .list items).mpr hdetach.safe
    · rw [ho, fieldsWithSequences_fieldsWithSequences]

/-- The body of a payload of `r`. -/
structure DecodesBody (body : PyItems) (r : DecisionReceipt) : Prop where
  keys : requireExactKeys body RECEIPT_KEYS "payload.receipt" = .ok ()
  subject : ReadsNested body "subject" SUBJECT_KEYS deserializeSubject r.subject
  correlation : ReadsNested body "correlation" CORRELATION_KEYS deserializeCorrelation r.correlation
  actor : ReadsNested body "actor" ACTOR_KEYS deserializeActor r.actor
  costSummary : ReadsNested body "cost_summary" COST_SUMMARY_KEYS deserializeCostSummary r.costSummary
  flags : ReadsNested body "flags" FLAGS_KEYS deserializeFlags r.flags
  admissionEvidence : Reads body "admission_evidence"
    (deserializeOptional deserializeAdmissionEvidence · "payload.receipt.admission_evidence")
    r.admissionEvidence
  receiptId : Reads body "receipt_id" (deserializeUuid · "payload.receipt.receipt_id") r.receiptId
  outcomeId : Reads body "outcome_id" (deserializeUuid · "payload.receipt.outcome_id") r.outcomeId
  ok : Reads body "ok" (requireBool · "payload.receipt.ok") r.ok
  boundary : Reads body "boundary" (deserializeEnum · "payload.receipt.boundary") r.boundary
  category : Reads body "category" (deserializeEnum · "payload.receipt.category") r.category
  semanticCode : Reads body "semantic_code" (deserializeEnum · "payload.receipt.semantic_code")
    r.semanticCode
  severity : Reads body "severity" (deserializeEnum · "payload.receipt.severity") r.severity
  riskLevel : Reads body "risk_level" (deserializeEnum · "payload.receipt.risk_level") r.riskLevel
  reversibility : Reads body "reversibility" (deserializeEnum · "payload.receipt.reversibility")
    r.reversibility
  reason : Reads body "reason" (requireString · "payload.receipt.reason") r.reason
  evidenceSource : Reads body "evidence_source" (deserializeEnum · "payload.receipt.evidence_source")
    r.evidenceSource
  evidenceSummary : Reads body "evidence_summary"
    (decodeJson · "payload.receipt.evidence_summary" "evidence_summary") r.evidenceSummary
  metadata : Reads body "metadata" (decodeJson · "payload.receipt.metadata" "metadata") r.metadata

/-- A payload of version 1 of `r`. -/
def Decodes (payload : PyValue) (r : DecisionReceipt) : Prop :=
  ∃ outer body : PyItems, payload = .mapping outer ∧
    requireExactKeys outer OUTER_KEYS "payload" = .ok () ∧
    outer.get (.inl "receipt_serialization_version") =
      some (.int ⟨DECISION_RECEIPT_SERIALIZATION_VERSION,true⟩) ∧
    outer.get (.inl "receipt") = some (.mapping body) ∧ DecodesBody body r

theorem deserializeDecisionReceipt_eq_ok {payload : PyValue} {r : DecisionReceipt} :
    deserializeDecisionReceipt payload = .ok r ↔ Decodes payload r := by
  constructor
  · intro h
    obtain ⟨outer,houter,h⟩ := bind_eq_ok.mp h
    obtain ⟨_,hkeys,h⟩ := bind_eq_ok.mp h
    obtain ⟨version,hversion,h⟩ := read_eq_ok.mp h
    split at h
    · cases h
    · rename_i hone
      obtain ⟨body,hbody,h⟩ := read_eq_ok.mp h
      obtain ⟨_,hbodyKeys,h⟩ := bind_eq_ok.mp h
      obtain ⟨subjectBody,hsubject,h⟩ := bind_eq_ok.mp h
      obtain ⟨correlationBody,hcorrelation,h⟩ := bind_eq_ok.mp h
      obtain ⟨actorBody,hactor,h⟩ := bind_eq_ok.mp h
      obtain ⟨costSummaryBody,hcostSummary,h⟩ := bind_eq_ok.mp h
      obtain ⟨flagsBody,hflags,h⟩ := bind_eq_ok.mp h
      obtain ⟨_,hadmissionEvidence,h⟩ := read_eq_ok.mp h
      obtain ⟨_,hreceiptId,h⟩ := read_eq_ok.mp h
      obtain ⟨_,houtcomeId,h⟩ := read_eq_ok.mp h
      obtain ⟨_,hok,h⟩ := read_eq_ok.mp h
      obtain ⟨_,hboundary,h⟩ := read_eq_ok.mp h
      obtain ⟨_,hcategory,h⟩ := read_eq_ok.mp h
      obtain ⟨_,hsemanticCode,h⟩ := read_eq_ok.mp h
      obtain ⟨_,hseverity,h⟩ := read_eq_ok.mp h
      obtain ⟨_,hriskLevel,h⟩ := read_eq_ok.mp h
      obtain ⟨_,hreversibility,h⟩ := read_eq_ok.mp h
      obtain ⟨_,hreason,h⟩ := read_eq_ok.mp h
      obtain ⟨_,hevidenceSource,h⟩ := read_eq_ok.mp h
      obtain ⟨subject,hs,h⟩ := bind_eq_ok.mp h
      obtain ⟨correlation,hc,h⟩ := bind_eq_ok.mp h
      obtain ⟨actor,ha,h⟩ := bind_eq_ok.mp h
      obtain ⟨costSummary,hcost,h⟩ := bind_eq_ok.mp h
      obtain ⟨flags,hf,h⟩ := bind_eq_ok.mp h
      obtain ⟨evidenceSummary,⟨ev,hev,hevidence⟩,h⟩ := read_eq_ok.mp h
      obtain ⟨metadata,⟨mv,hmv,hmetadata⟩,h⟩ := read_eq_ok.mp h
      obtain ⟨rfl,rfl,rfl,rfl,rfl,rfl,rfl,rfl,rfl,rfl,rfl,rfl,rfl,rfl,rfl,rfl,rfl,hfe,hfm⟩ :=
        DecisionReceipt.make_eq_ok.mp h
      obtain ⟨bv,hreceipt,hbody⟩ := hbody
      obtain ⟨vv,hvv,hversion⟩ := hversion
      cases requireMapping_eq_ok.mp houter
      cases requireMapping_eq_ok.mp hbody
      have hnested {key : String} {keys : List String} {nested : PyItems}
          (hn : requireNestedMapping body key keys = .ok nested) {α : Type}
          {decode : PyItems → Except PyException α} {a : α} (hd : decode nested = .ok a) :
          ReadsNested body key keys decode a := by
        obtain ⟨hget,hnkeys⟩ := requireNestedMapping_eq_ok.mp hn
        exact ⟨nested,hget,hnkeys,hd⟩
      obtain ⟨rfl,hexact,-⟩ := requireInt64_eq_ok.mp hversion
      obtain ⟨n,exact⟩ := version
      obtain rfl : n = DECISION_RECEIPT_SERIALIZATION_VERSION := not_not.mp hone
      obtain rfl : exact = true := hexact
      exact ⟨outer,body,rfl,hkeys,hvv,hreceipt,hbodyKeys,hnested hsubject hs,
        hnested hcorrelation hc,hnested hactor ha,hnested hcostSummary hcost,hnested hflags hf,
        hadmissionEvidence,hreceiptId,houtcomeId,hok,hboundary,hcategory,hsemanticCode,hseverity,
        hriskLevel,hreversibility,hreason,hevidenceSource,⟨ev,hev,bind_eq_ok.mpr ⟨_,hevidence,hfe⟩⟩,
        ⟨mv,hmv,bind_eq_ok.mpr ⟨_,hmetadata,hfm⟩⟩⟩
  · rintro ⟨outer,body,rfl,hkeys,hversion,hbody,h⟩
    obtain ⟨_,hsubject,hsubjectKeys,hs⟩ := h.subject
    obtain ⟨_,hcorrelation,hcorrelationKeys,hc⟩ := h.correlation
    obtain ⟨_,hactor,hactorKeys,ha⟩ := h.actor
    obtain ⟨_,hcostSummary,hcostSummaryKeys,hcost⟩ := h.costSummary
    obtain ⟨_,hflags,hflagsKeys,hf⟩ := h.flags
    obtain ⟨ev,hev,hevidence⟩ := h.evidenceSummary
    obtain ⟨_,hevidence,hfe⟩ := bind_eq_ok.mp hevidence
    obtain ⟨mv,hmv,hmetadata⟩ := h.metadata
    obtain ⟨_,hmetadata,hfm⟩ := bind_eq_ok.mp hmetadata
    have hfits : Portable (.int ⟨DECISION_RECEIPT_SERIALIZATION_VERSION,true⟩) :=
      ⟨rfl,by decide,by decide⟩
    refine bind_eq_ok.mpr ⟨outer,rfl,bind_eq_ok.mpr ⟨(),hkeys,?_⟩⟩
    refine read_eq_ok.mpr ⟨_,⟨_,hversion,requireInt64_eq_ok.mpr ⟨rfl,hfits⟩⟩,?_⟩
    rw [if_neg (not_not.mpr rfl)]
    refine read_eq_ok.mpr ⟨_,⟨_,hbody,rfl⟩,bind_eq_ok.mpr ⟨(),h.keys,?_⟩⟩
    refine bind_eq_ok.mpr ⟨_,requireNestedMapping_eq_ok.mpr ⟨hsubject,hsubjectKeys⟩,?_⟩
    refine bind_eq_ok.mpr ⟨_,requireNestedMapping_eq_ok.mpr ⟨hcorrelation,hcorrelationKeys⟩,?_⟩
    refine bind_eq_ok.mpr ⟨_,requireNestedMapping_eq_ok.mpr ⟨hactor,hactorKeys⟩,?_⟩
    refine bind_eq_ok.mpr ⟨_,requireNestedMapping_eq_ok.mpr ⟨hcostSummary,hcostSummaryKeys⟩,?_⟩
    refine bind_eq_ok.mpr ⟨_,requireNestedMapping_eq_ok.mpr ⟨hflags,hflagsKeys⟩,?_⟩
    refine read_eq_ok.mpr ⟨_,h.admissionEvidence,?_⟩
    refine read_eq_ok.mpr ⟨_,h.receiptId,read_eq_ok.mpr ⟨_,h.outcomeId,?_⟩⟩
    refine read_eq_ok.mpr ⟨_,h.ok,read_eq_ok.mpr ⟨_,h.boundary,?_⟩⟩
    refine read_eq_ok.mpr ⟨_,h.category,read_eq_ok.mpr ⟨_,h.semanticCode,?_⟩⟩
    refine read_eq_ok.mpr ⟨_,h.severity,read_eq_ok.mpr ⟨_,h.riskLevel,?_⟩⟩
    refine read_eq_ok.mpr ⟨_,h.reversibility,read_eq_ok.mpr ⟨_,h.reason,?_⟩⟩
    refine read_eq_ok.mpr ⟨_,h.evidenceSource,?_⟩
    refine bind_eq_ok.mpr ⟨_,hs,bind_eq_ok.mpr ⟨_,hc,bind_eq_ok.mpr ⟨_,ha,?_⟩⟩⟩
    refine bind_eq_ok.mpr ⟨_,hcost,bind_eq_ok.mpr ⟨_,hf,?_⟩⟩
    refine read_eq_ok.mpr ⟨_,⟨ev,hev,hevidence⟩,read_eq_ok.mpr ⟨_,⟨mv,hmv,hmetadata⟩,?_⟩⟩
    exact DecisionReceipt.make_eq_ok.mpr
      ⟨rfl,rfl,rfl,rfl,rfl,rfl,rfl,rfl,rfl,rfl,rfl,rfl,rfl,rfl,rfl,rfl,rfl,hfe,hfm⟩

end StreamingCompass.Serialization
