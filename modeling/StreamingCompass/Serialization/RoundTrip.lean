import StreamingCompass.Serialization.Decoding

/-! # Decoding an encoded receipt

The payload of a receipt decodes to the receipt just if its texts are exact strings: the
serializer passes instances of subclasses of `str` on, the deserializer refuses them.
-/
namespace StreamingCompass.Serialization

/-- Every text outside evidence and metadata is an exact string. -/
structure ExactTexts (r : DecisionReceipt) : Prop where
  reason : r.reason.exact = true
  subjectId : ExactText r.subject.subjectId
  orderId : ExactText r.correlation.orderId
  requestId : ExactText r.correlation.requestId
  actorId : ExactText r.actor.actorId
  actorRole : ExactText r.actor.actorRole
  runtimeRole : ExactText r.actor.runtimeRole

/-- Reading a dictionary display: the item is the one with the key. -/
theorem reads_cons {α : Type} {text key : String} {v : PyValue} {rest : List (String × PyValue)}
    {decode : PyValue → Except PyException α} {a : α} :
    Reads (dict ((text,v) :: rest)) key decode a ↔
      if text = key then decode v = .ok a else Reads (dict rest) key decode a := by
  simp only [Reads, dict, List.map_cons, PyItems.get_cons, PyKey.identity_ofText, Sum.inl.injEq]
  by_cases h : text = key <;> simp [h]

theorem readsNested_cons {α : Type} {text key : String} {v : PyValue}
    {rest : List (String × PyValue)} {keys : List String}
    {decode : PyItems → Except PyException α} {a : α} :
    ReadsNested (dict ((text,v) :: rest)) key keys decode a ↔
      if text = key then ∃ nested, v = .mapping nested ∧
        requireExactKeys nested keys ("payload.receipt." ++ key) = .ok () ∧ decode nested = .ok a
      else ReadsNested (dict rest) key keys decode a := by
  simp only [ReadsNested, dict, List.map_cons, PyItems.get_cons, PyKey.identity_ofText,
    Sum.inl.injEq]
  by_cases h : text = key <;> simp [h]

theorem deserializeSubject_serialize {s : DecisionReceiptSubject} (h : ExactText s.subjectId) :
    deserializeSubject (serializeSubject s) = .ok s := by
  simp [deserializeSubject_eq_ok, serializeSubject, reads_cons,
    deserializeOptionalString_serialize h]

theorem deserializeCorrelation_serialize {s : DecisionReceiptCorrelation}
    (ho : ExactText s.orderId) (hr : ExactText s.requestId)
    (hp : PortableInt s.sourceGlobalPosition) :
    deserializeCorrelation (correlationFields s) = .ok s := by
  simp [deserializeCorrelation_eq_ok, correlationFields, reads_cons,
    deserializeOptionalString_serialize ho, deserializeOptionalString_serialize hr,
    deserializeOptionalInt64_serialize hp]

theorem deserializeActor_serialize {s : DecisionReceiptActor} (hid : ExactText s.actorId)
    (hrole : ExactText s.actorRole) (hruntime : ExactText s.runtimeRole) :
    deserializeActor (serializeActor s) = .ok s := by
  simp [deserializeActor_eq_ok, serializeActor, reads_cons,
    deserializeOptionalString_serialize hid, deserializeOptionalString_serialize hrole,
    deserializeOptionalString_serialize hruntime]

theorem deserializeCostSummary_serialize {s : DecisionReceiptCostSummary} (h : PortableCosts s) :
    deserializeCostSummary (costSummaryFields s) = .ok s := by
  simp [deserializeCostSummary_eq_ok, costSummaryFields, reads_cons,
    deserializeOptionalInt64_serialize h.elapsedMs,
    deserializeOptionalInt64_serialize h.validationElapsedMs,
    deserializeOptionalInt64_serialize h.replayElapsedMs,
    deserializeOptionalInt64_serialize h.transactionElapsedMs,
    deserializeOptionalInt64_serialize h.lockWaitMs]

theorem deserializeFlags_serialize (s : DecisionReceiptFlags) :
    deserializeFlags (serializeFlags s) = .ok s := by
  simp [deserializeFlags_eq_ok, serializeFlags, reads_cons]

theorem deserializeAdmissionEvidence_serialize (d : EventAdmissionDisposition) {fieldName : String} :
    deserializeAdmissionEvidence (serializeAdmissionEvidence d) fieldName = .ok d :=
  deserializeAdmissionEvidence_eq_ok.mpr
    ⟨_,rfl,requireExactKeys_dict rfl,reads_cons.mpr (by simp)⟩

/-- Nested JSON comes back frozen as it was. -/
theorem decodeJson_detached {o : JsonObject} (h : Detachable o.items) {path fieldName : String} :
    decodeJson (.mapping (fieldsWithSequences .list o.items)) path fieldName = .ok o :=
  decodeJson_eq_ok.mpr ⟨_,rfl,(detachable_withSequences .list o.items).mpr h,
    by rw [fieldsWithSequences_fieldsWithSequences, o.tuples]⟩

theorem decodesBody_body {r : DecisionReceipt} (hp : PortableReceipt r) (he : ExactTexts r) :
    DecodesBody r.body r := by
  have hdisposition : deserializeOptional deserializeAdmissionEvidence
      (serializeOptional serializeAdmissionEvidence r.admissionEvidence)
      "payload.receipt.admission_evidence" = .ok r.admissionEvidence :=
    deserializeOptional_serializeOptional nofun
      (fun d _ => deserializeAdmissionEvidence_serialize d)
  have hreason : requireString (.str r.reason) "payload.receipt.reason" = .ok r.reason :=
    requireString_eq_ok.mpr ⟨rfl,he.reason⟩
  constructor
  case keys => exact requireExactKeys_dict rfl
  case subject =>
    simp only [DecisionReceipt.body, receiptBody, readsNested_cons]
    exact ⟨_,rfl,requireExactKeys_dict rfl,deserializeSubject_serialize he.subjectId⟩
  case correlation =>
    simp only [DecisionReceipt.body, receiptBody, readsNested_cons]
    exact ⟨_,rfl,requireExactKeys_dict rfl,
      deserializeCorrelation_serialize he.orderId he.requestId hp.sourceGlobalPosition⟩
  case actor =>
    simp only [DecisionReceipt.body, receiptBody, readsNested_cons]
    exact ⟨_,rfl,requireExactKeys_dict rfl,
      deserializeActor_serialize he.actorId he.actorRole he.runtimeRole⟩
  case costSummary =>
    simp only [DecisionReceipt.body, receiptBody, readsNested_cons]
    exact ⟨_,rfl,requireExactKeys_dict rfl,deserializeCostSummary_serialize hp.costs⟩
  case flags =>
    simp only [DecisionReceipt.body, receiptBody, readsNested_cons]
    exact ⟨_,rfl,requireExactKeys_dict rfl,deserializeFlags_serialize r.flags⟩
  all_goals
    simp [DecisionReceipt.body, receiptBody, reads_cons, serializeString, requireBool_eq_ok, hreason,
      hdisposition, decodeJson_detached hp.evidenceSummary, decodeJson_detached hp.metadata]

/-! ## Only exact texts are decoded -/

theorem exactText_of_decoded {text decoded : Option PyStr} {fieldName : String}
    (h : deserializeOptionalString (serializeOptional serializeString text) fieldName = .ok decoded) :
    ExactText text := by
  rintro s rfl
  obtain ⟨_,hs,-⟩ := bind_eq_ok.mp h
  obtain ⟨heq,hexact⟩ := requireString_eq_ok.mp hs
  cases heq
  exact hexact

theorem exactTexts_of_decodes {r s : DecisionReceipt} (h : Decodes (.mapping r.payload) s) :
    ExactTexts r := by
  obtain ⟨_,body,⟨⟩,-,-,hbody,h⟩ := h
  obtain rfl : r.body = body := PyValue.mapping.inj (Option.some.inj hbody)
  obtain ⟨_,hnested,-,hsubject⟩ := h.subject
  obtain rfl := PyValue.mapping.inj (Option.some.inj hnested)
  obtain ⟨_,hnested,-,hcorrelation⟩ := h.correlation
  obtain rfl := PyValue.mapping.inj (Option.some.inj hnested)
  obtain ⟨_,hnested,-,hactor⟩ := h.actor
  obtain rfl := PyValue.mapping.inj (Option.some.inj hnested)
  obtain ⟨_,hget,hreason⟩ := h.reason
  obtain rfl := Option.some.inj hget
  simp only [deserializeSubject_eq_ok, serializeSubject, reads_cons] at hsubject
  simp only [deserializeCorrelation_eq_ok, correlationFields, reads_cons] at hcorrelation
  simp only [deserializeActor_eq_ok, serializeActor, reads_cons] at hactor
  obtain ⟨heq,hexact⟩ := requireString_eq_ok.mp hreason
  rw [← PyValue.str.inj heq] at hexact
  exact ⟨hexact,exactText_of_decoded hsubject.2,exactText_of_decoded hcorrelation.1,
    exactText_of_decoded hcorrelation.2.1,exactText_of_decoded hactor.1,
    exactText_of_decoded hactor.2.1,exactText_of_decoded hactor.2.2⟩

theorem decode_payload_iff {r : DecisionReceipt} {payload : PyItems}
    (h : serializeDecisionReceipt r = .ok payload) :
    deserializeDecisionReceipt (.mapping payload) = .ok r ↔ ExactTexts r := by
  obtain ⟨hp,rfl⟩ := serializeDecisionReceipt_eq_ok.mp h
  rw [deserializeDecisionReceipt_eq_ok]
  refine ⟨exactTexts_of_decodes,fun he => ?_⟩
  exact ⟨r.payload,r.body,rfl,requireExactKeys_dict rfl,rfl,rfl,decodesBody_body hp he⟩

/-- The payload of an accepted receipt decodes to the receipt if its texts are exact, and to
none if they are not. -/
theorem decode_undoes_encode {r : DecisionReceipt} {payload : PyItems}
    (h : serializeDecisionReceipt r = .ok payload) :
    (deserializeDecisionReceipt (.mapping payload) = .ok r ↔ ExactTexts r) ∧
      ∀ s, deserializeDecisionReceipt (.mapping payload) = .ok s → ExactTexts r := by
  refine ⟨decode_payload_iff h,fun s hs => ?_⟩
  obtain ⟨-,rfl⟩ := serializeDecisionReceipt_eq_ok.mp h
  exact exactTexts_of_decodes (deserializeDecisionReceipt_eq_ok.mp hs)

/-- An accepted receipt: a payment by a role `role`, with nested evidence. -/
def paidOrderReceipt (role : PyStr) (h : Named (some role)) : DecisionReceipt where
  receiptId := ⟨1,by decide⟩
  outcomeId := ⟨2,by decide⟩
  ok := true
  boundary := .layer1WriteSide
  category := .valid
  semanticCode := .semanticallyValid
  severity := .info
  riskLevel := .low
  reversibility := .reversible
  reason := .ofText "accepted"
  evidenceSource := .writeSideAdmission
  subject := ⟨.acceptedEvent,some (.ofText "order-1"),by decide⟩
  correlation := ⟨some (.ofText "order-1"),none,some ⟨3,by decide⟩,some ⟨3,by decide⟩,none,
    some ⟨7,true⟩,.acceptedHistory,by decide,by decide,by decide⟩
  actor := ⟨none,none,some role,by decide,by decide,h⟩
  costSummary := ⟨some ⟨12,true⟩,none,none,none,none,by decide,by decide,by decide,by decide,by decide⟩
  flags := ⟨.false,.notEvaluated,.notEvaluated,.notEvaluated⟩
  admissionEvidence := some .admittedToAcceptedHistory
  evidenceSummary := .ofFrozen (dict [("checks",.sequence .tuple [.bool true,.none]),
    ("cost",.mapping (dict [("ms",.int ⟨12,true⟩)]))]) "evidence_summary" rfl
  metadata := .ofFrozen [] "metadata" rfl
  reasoned := by decide
  aligned := rfl

theorem decode_undoes_encode_paid : ∃ payload,
    serializeDecisionReceipt (paidOrderReceipt (.ofText "writer") (by decide)) = .ok payload ∧
    deserializeDecisionReceipt (.mapping payload) =
      .ok (paidOrderReceipt (.ofText "writer") (by decide)) := by
  have hok : serializeDecisionReceipt (paidOrderReceipt (.ofText "writer") (by decide)) =
      .ok (paidOrderReceipt (.ofText "writer") (by decide)).payload := rfl
  have hexact (text : String) : ExactText (some (.ofText text)) := by
    rintro s ⟨⟩
    rfl
  exact ⟨_,hok,(decode_undoes_encode hok).1.mpr
    ⟨rfl,hexact "order-1",hexact "order-1",nofun,nofun,nofun,hexact "writer"⟩⟩

/-- A member of a `(str, Enum)` class as the runtime role: encoded, but not decoded. -/
theorem enum_member_not_decoded : ∃ payload,
    serializeDecisionReceipt (paidOrderReceipt ⟨"WRITE_SIDE_ADMISSION",false⟩ (by decide)) =
      .ok payload ∧
    deserializeDecisionReceipt (.mapping payload) =
      .error (.typeError "payload.receipt.actor.runtime_role must be str") :=
  ⟨_,rfl,rfl⟩

end StreamingCompass.Serialization
