import StreamingCompass.Serialization.Comparison

/-! # A stored row

The row of an accepted receipt passes every check of the table. It is read as the receipt with
exact strings for its texts and with its nested JSON as it comes back.
-/
namespace StreamingCompass.Serialization

/-! ## The checks -/

theorem notEmptyIfPresent_of_named {text : Option PyStr} (h : Named text) :
    notEmptyIfPresent (text.map PyStr.text) = true := by
  cases text with
  | none => rfl
  | some s => exact trimNotEmpty_of_not_blank (h s.text rfl)

theorem nonNegativeIfPresent_of {n : Option PyInt} (h : NonNegative n) :
    nonNegativeIfPresent (n.map PyInt.value) = true := by
  cases n with
  | none => rfl
  | some n => exact decide_eq_true (h n.value rfl)

/-- The check of the identities is the contract's. -/
theorem admissionIdentityAligned_of_error {row : DecisionReceiptRow} {d : EventAdmissionDisposition}
    (hd : row.admissionDisposition = some d.value)
    (h : admissionEvidenceError d row.candidateEventId row.acceptedEventId = none) :
    admissionIdentityAligned row = true := by
  unfold admissionIdentityAligned
  rw [hd]
  cases d with
  | admittedToAcceptedHistory =>
    simp only [admissionEvidenceError] at h
    split_ifs at h with hcandidate haccepted hsame
    simp [EventAdmissionDisposition.value, not_not.mp hsame, Option.isSome_iff_ne_none.mpr haccepted]
  | matchedExistingAcceptedEvent | idempotencyConflictWithAcceptedHistory =>
    have haccepted : row.acceptedEventId ≠ none := by simpa [admissionEvidenceError] using h
    simp [EventAdmissionDisposition.value, Option.isSome_iff_ne_none.mpr haccepted]
  | semanticAdmissionRejected | appendConcurrencyConflict | appendTechnicalFailure
  | commitOutcomeUnresolved =>
    simp only [admissionEvidenceError, ne_eq, ite_not] at h
    split_ifs at h with hcandidate haccepted
    simp [EventAdmissionDisposition.value, Option.isSome_iff_ne_none.mpr hcandidate, haccepted]
  | appendAdmissionNotReached =>
    have haccepted : row.acceptedEventId = none := by simpa [admissionEvidenceError] using h
    simp [EventAdmissionDisposition.value, haccepted]
  | unknown => simp [EventAdmissionDisposition.value]

/-- A check that lists the values of an enumeration. -/
theorem contains_value {α : Type} [PyEnum α] {values : List String}
    (h : PyEnum.members.map (PyEnum.value : α → String) = values) (a : α) :
    values.contains (PyEnum.value a) = true := by
  rw [← h, List.contains_iff_mem]
  exact List.mem_map_of_mem (PyEnum.complete a)

section Row
variable (r : DecisionReceipt) (provenance : DecisionReceiptMaterializationProvenance)
  (evidenceSummary metadata : Json JsonNumeric) (now : ℤ)

theorem admissionIdentityAligned_insertedRow :
    admissionIdentityAligned (insertedRow r provenance evidenceSummary metadata now) = true := by
  cases hd : r.admissionEvidence with
  | none => simp [admissionIdentityAligned, insertedRow, hd]
  | some d =>
    have haligned := r.aligned
    rw [hd, Aligned, Option.bind_some] at haligned
    exact admissionIdentityAligned_of_error (by simp [insertedRow, hd]) haligned

theorem receiptChecks_insertedRow (he : evidenceSummary.isObject = true)
    (hm : metadata.isObject = true) : ∀ check ∈
      receiptChecks (insertedRow r provenance evidenceSummary metadata now), check.2 = true := by
  simp only [receiptChecks, List.forall_mem_cons, List.not_mem_nil, false_implies, implies_true,
    and_true, admissionIdentityAligned_insertedRow, true_and]
  simp only [insertedRow, notEmptyIfPresent_of_named r.actor.actorNamed,
    notEmptyIfPresent_of_named r.actor.actorRoleNamed,
    notEmptyIfPresent_of_named r.actor.runtimeRoleNamed,
    notEmptyIfPresent_of_named r.subject.named, notEmptyIfPresent_of_named r.correlation.orderNamed,
    notEmptyIfPresent_of_named r.correlation.requestNamed,
    nonNegativeIfPresent_of r.correlation.positioned, nonNegativeIfPresent_of r.costSummary.elapsed,
    nonNegativeIfPresent_of r.costSummary.validationElapsed,
    nonNegativeIfPresent_of r.costSummary.replayElapsed,
    nonNegativeIfPresent_of r.costSummary.transactionElapsed,
    nonNegativeIfPresent_of r.costSummary.lockWait, trimNotEmpty_of_not_blank r.reasoned, he, hm,
    true_and]
  refine ⟨?_,contains_value rfl r.boundary,contains_value rfl r.category,
    contains_value rfl r.evidenceSource,contains_value rfl r.flags.fallbackRequired,
    contains_value rfl r.correlation.identitySource,contains_value rfl provenance,
    contains_value rfl r.flags.operatorReviewRequired,contains_value rfl r.flags.rebuildRequired,
    contains_value rfl r.flags.retryCandidate,contains_value rfl r.reversibility,
    contains_value rfl r.riskLevel,contains_value rfl r.semanticCode,by decide,
    contains_value rfl r.severity,contains_value rfl r.subject.subjectType,trivial⟩
  cases r.admissionEvidence with
  | none => rfl
  | some d => exact contains_value rfl d

end Row

/-! ## Storable receipts -/

def DecisionReceipt.texts (r : DecisionReceipt) : List PyStr :=
  [r.reason] ++ r.subject.subjectId.toList ++ r.correlation.orderId.toList ++
  r.correlation.requestId.toList ++ r.actor.actorId.toList ++ r.actor.actorRole.toList ++
  r.actor.runtimeRole.toList

/-- PostgreSQL can store the strings of the receipt. -/
structure Storable (r : DecisionReceipt) : Prop where
  texts : ∀ s ∈ r.texts, hasNul s.text = false
  evidenceSummary : (PyValue.mapping r.evidenceSummary.items).All NulFree
  metadata : (PyValue.mapping r.metadata.items).All NulFree

theorem hasNul_value {α : Type} [PyEnum α]
    (h : (PyEnum.members : List α).all (fun a => !hasNul (PyEnum.value a)) = true) (a : α) :
    hasNul (PyEnum.value a) = false := by
  simpa using List.all_eq_true.mp h a (PyEnum.complete a)

theorem all_nulFree_withSequences (type : SequenceType) (v : PyValue) :
    (v.withSequences type).All NulFree ↔ v.All NulFree := by
  refine PyValue.all_withSequences type (fun v => ?_) v
  cases v with
  | mapping items => simp only [PyValue.withSequences_mapping, NulFree, List.forall_mem_map]
  | sequence _ items => simp only [PyValue.withSequences_sequence, NulFree]
  | _ => exact Iff.rfl

theorem texts_insertedRow {r : DecisionReceipt} (h : Storable r)
    (provenance : DecisionReceiptMaterializationProvenance) (e m : Json JsonNumeric) (now : ℤ) :
    (insertedRow r provenance e m now).texts.any hasNul = false := by
  have hr := h.texts
  simp only [DecisionReceipt.texts, List.forall_mem_append, List.forall_mem_singleton,
    Option.mem_toList] at hr
  obtain ⟨⟨⟨⟨⟨⟨hreason,hsubject⟩,horder⟩,hrequest⟩,hactor⟩,hrole⟩,hruntime⟩ := hr
  simp only [List.any_eq_false, Bool.not_eq_true, DecisionReceiptRow.texts, insertedRow,
    List.forall_mem_append, List.forall_mem_cons, List.not_mem_nil, false_implies, implies_true,
    Option.mem_toList, Option.map_eq_some_iff, forall_exists_index, and_imp,
    forall_apply_eq_imp_iff₂, and_true, and_assoc]
  exact ⟨hasNul_value (by decide) r.boundary,hasNul_value (by decide) r.category,
    hasNul_value (by decide) r.semanticCode,hasNul_value (by decide) r.severity,
    hasNul_value (by decide) r.riskLevel,hasNul_value (by decide) r.reversibility,hreason,
    hasNul_value (by decide) r.evidenceSource,hasNul_value (by decide) r.subject.subjectType,
    hsubject,horder,hrequest,hasNul_value (by decide) r.correlation.identitySource,hactor,hrole,
    hruntime,hasNul_value (by decide) r.flags.fallbackRequired,
    hasNul_value (by decide) r.flags.rebuildRequired,
    hasNul_value (by decide) r.flags.operatorReviewRequired,
    hasNul_value (by decide) r.flags.retryCandidate,
    fun d _ => hasNul_value (by decide) d,hasNul_value (by decide) provenance⟩

/-! ## The receipt of a row -/

def PyStr.reread (s : PyStr) : PyStr := .ofText s.text

theorem map_ofText_text (text : Option PyStr) :
    (text.map PyStr.text).map PyStr.ofText = text.map PyStr.reread := by
  rw [Option.map_map]
  rfl

theorem named_reread {text : Option PyStr} (h : Named text) : Named (text.map PyStr.reread) := by
  rw [Named, Option.map_map]
  exact h

theorem map_exactInt_value {n : Option PyInt} (h : PortableInt n) :
    (n.map PyInt.value).map exactInt = n := by
  cases n with
  | none => rfl
  | some n =>
    obtain ⟨value,exact⟩ := n
    obtain rfl : exact = true := (h _ rfl).1
    rfl

def DecisionReceiptSubject.reread (s : DecisionReceiptSubject) : DecisionReceiptSubject :=
  { s with subjectId := s.subjectId.map PyStr.reread, named := named_reread s.named }

def DecisionReceiptCorrelation.reread (s : DecisionReceiptCorrelation) :
    DecisionReceiptCorrelation :=
  { s with
    orderId := s.orderId.map PyStr.reread
    requestId := s.requestId.map PyStr.reread
    orderNamed := named_reread s.orderNamed
    requestNamed := named_reread s.requestNamed }

def DecisionReceiptActor.reread (s : DecisionReceiptActor) : DecisionReceiptActor where
  actorId := s.actorId.map PyStr.reread
  actorRole := s.actorRole.map PyStr.reread
  runtimeRole := s.runtimeRole.map PyStr.reread
  actorNamed := named_reread s.actorNamed
  actorRoleNamed := named_reread s.actorRoleNamed
  runtimeRoleNamed := named_reread s.runtimeRoleNamed

theorem jsonSafe_reloaded {items : PyItems} (h : JsonSafe items) :
    JsonSafe (sortItems (fieldsReloaded items)) := by
  have hwithin := PyValue.within_reloaded h.within
  have hnodes := PyValue.all_reloaded (fun _ => jsonNode_reloaded) h.nodes
  rw [PyValue.reloaded_mapping] at hwithin hnodes
  exact ⟨hwithin,hnodes⟩

/-- The items a column comes back with. -/
def JsonObject.reloaded (o : JsonObject) : PyItems :=
  sortItems (fieldsReloaded (fieldsWithSequences .list o.items))

theorem JsonObject.reloaded_safe (o : JsonObject) : JsonSafe o.reloaded :=
  jsonSafe_reloaded ((jsonSafe_withSequences .list o.items).mpr o.safe)

/-- The nested JSON of the receipt that is read. -/
def JsonObject.reread (o : JsonObject) : JsonObject where
  items := fieldsWithSequences .tuple o.reloaded
  safe := (jsonSafe_withSequences .tuple o.reloaded).mpr o.reloaded_safe
  tuples := fieldsWithSequences_fieldsWithSequences .tuple .tuple o.reloaded

theorem frozenJsonObject_reloaded (o : JsonObject) (fieldName : String) :
    frozenJsonObject (.mapping o.reloaded) fieldName = .ok o.reread :=
  frozenJsonObject_eq_ok.mpr (ensureJsonObject_eq_ok.mpr ⟨_,rfl,o.reloaded_safe,rfl⟩)

def DecisionReceipt.reread (r : DecisionReceipt) : DecisionReceipt :=
  { r with
    reason := r.reason.reread
    subject := r.subject.reread
    correlation := r.correlation.reread
    actor := r.actor.reread
    evidenceSummary := r.evidenceSummary.reread
    metadata := r.metadata.reread
    reasoned := r.reasoned
    aligned := r.aligned }

@[simp] theorem enumOf_value {α : Type} [PyEnum α] (a : α) : enumOf (PyEnum.value a) = .ok a := by
  rw [enumOf, PyEnum.ofValue_value]

theorem optionalEnumOf_value {α : Type} [PyEnum α] (a : Option α) :
    optionalEnumOf (a.map PyEnum.value) = .ok a := by
  cases a with
  | none => rfl
  | some a => rw [Option.map_some, optionalEnumOf, enumOf_value, ok_bind]

theorem bind_of_ok {ε α β : Type} {x : Except ε α} {a : α} (h : x = .ok a) {f : α → Except ε β} :
    x >>= f = f a := by
  rw [h, ok_bind]

theorem persistedDecisionReceiptFromRow_insertedRow {r : DecisionReceipt} (h : PortableReceipt r)
    (provenance : DecisionReceiptMaterializationProvenance) {evidenceSummary metadata : Json JsonNumeric}
    (now : ℤ) (he : evidenceSummary.loads = .mapping r.evidenceSummary.reloaded)
    (hm : metadata.loads = .mapping r.metadata.reloaded) :
    persistedDecisionReceiptFromRow (insertedRow r provenance evidenceSummary metadata now) =
      serializeDecisionReceipt r.reread >>= fun _ => .ok ⟨r.reread,provenance,now⟩ := by
  have hsubject : DecisionReceiptSubject.make r.subject.subjectType
      ((r.subject.subjectId.map PyStr.text).map PyStr.ofText) = .ok r.subject.reread :=
    DecisionReceiptSubject.make_eq_ok.mpr ⟨rfl,(map_ofText_text _).symm⟩
  have hcorrelation : DecisionReceiptCorrelation.make
      ((r.correlation.orderId.map PyStr.text).map PyStr.ofText)
      ((r.correlation.requestId.map PyStr.text).map PyStr.ofText) r.correlation.candidateEventId
      r.correlation.acceptedEventId r.correlation.snapshotId
      ((r.correlation.sourceGlobalPosition.map PyInt.value).map exactInt)
      r.correlation.identitySource = .ok r.correlation.reread :=
    DecisionReceiptCorrelation.make_eq_ok.mpr ⟨(map_ofText_text _).symm,(map_ofText_text _).symm,
      rfl,rfl,rfl,(map_exactInt_value h.sourceGlobalPosition).symm,rfl⟩
  have hactor : DecisionReceiptActor.make ((r.actor.actorId.map PyStr.text).map PyStr.ofText)
      ((r.actor.actorRole.map PyStr.text).map PyStr.ofText)
      ((r.actor.runtimeRole.map PyStr.text).map PyStr.ofText) = .ok r.actor.reread :=
    DecisionReceiptActor.make_eq_ok.mpr ⟨(map_ofText_text _).symm,(map_ofText_text _).symm,
      (map_ofText_text _).symm⟩
  have hcost : DecisionReceiptCostSummary.make ((r.costSummary.elapsedMs.map PyInt.value).map exactInt)
      ((r.costSummary.validationElapsedMs.map PyInt.value).map exactInt)
      ((r.costSummary.replayElapsedMs.map PyInt.value).map exactInt)
      ((r.costSummary.transactionElapsedMs.map PyInt.value).map exactInt)
      ((r.costSummary.lockWaitMs.map PyInt.value).map exactInt) = .ok r.costSummary :=
    DecisionReceiptCostSummary.make_eq_ok.mpr ⟨(map_exactInt_value h.costs.elapsedMs).symm,
      (map_exactInt_value h.costs.validationElapsedMs).symm,
      (map_exactInt_value h.costs.replayElapsedMs).symm,
      (map_exactInt_value h.costs.transactionElapsedMs).symm,
      (map_exactInt_value h.costs.lockWaitMs).symm⟩
  have hreceipt : DecisionReceipt.make r.receiptId r.outcomeId r.ok r.boundary r.category
      r.semanticCode r.severity r.riskLevel r.reversibility (.ofText r.reason.text) r.evidenceSource
      r.subject.reread r.correlation.reread r.actor.reread r.costSummary
      ⟨r.flags.fallbackRequired,r.flags.rebuildRequired,r.flags.operatorReviewRequired,
        r.flags.retryCandidate⟩ r.admissionEvidence evidenceSummary.loads metadata.loads =
      .ok r.reread := by
    rw [he, hm]
    exact DecisionReceipt.make_eq_ok.mpr ⟨rfl,rfl,rfl,rfl,rfl,rfl,rfl,rfl,rfl,rfl,rfl,rfl,rfl,rfl,
      rfl,rfl,rfl,frozenJsonObject_reloaded _ _,frozenJsonObject_reloaded _ _⟩
  refine (if_neg (not_not.mpr rfl)).trans ?_
  refine (bind_of_ok (optionalEnumOf_value r.admissionEvidence)).trans ?_
  refine (bind_of_ok (enumOf_value r.boundary)).trans ?_
  refine (bind_of_ok (enumOf_value r.category)).trans ?_
  refine (bind_of_ok (enumOf_value r.semanticCode)).trans ?_
  refine (bind_of_ok (enumOf_value r.severity)).trans ?_
  refine (bind_of_ok (enumOf_value r.riskLevel)).trans ?_
  refine (bind_of_ok (enumOf_value r.reversibility)).trans ?_
  refine (bind_of_ok (enumOf_value r.evidenceSource)).trans ?_
  refine (bind_of_ok (enumOf_value r.subject.subjectType)).trans ?_
  refine (bind_of_ok hsubject).trans ?_
  refine (bind_of_ok (enumOf_value r.correlation.identitySource)).trans ?_
  refine (bind_of_ok hcorrelation).trans ?_
  refine (bind_of_ok hactor).trans ?_
  refine (bind_of_ok hcost).trans ?_
  refine (bind_of_ok (enumOf_value r.flags.fallbackRequired)).trans ?_
  refine (bind_of_ok (enumOf_value r.flags.rebuildRequired)).trans ?_
  refine (bind_of_ok (enumOf_value r.flags.operatorReviewRequired)).trans ?_
  refine (bind_of_ok (enumOf_value r.flags.retryCandidate)).trans ?_
  refine (bind_of_ok hreceipt).trans ?_
  refine bind_congr (fun _ => ?_)
  exact bind_of_ok (enumOf_value provenance)

end StreamingCompass.Serialization
