import StreamingCompass.Compass.ReinvocationAuthority
import StreamingCompass.Compass.WriteSideReceipt

/-! # Write-side results and their receipts

Every result with identified evidence has a receipt, one profile for each shape a write
invocation returns, except a lock refused for a blank order.
-/
namespace StreamingCompass
open WriteSideReceipt

/-- The ids of an event as the producer generates and checks them. -/
structure OrderEvent.Identified (e : OrderEvent) (eventId : Uuid) : Prop where
  eventId : e.eventId = eventId.str
  orderId : isBlank e.orderId = false
  requestId : isBlank e.requestId = false

/-- A record of the event it was accepted with. -/
structure IdempotencyRecord.Identified (r : IdempotencyRecord) (eventId : Uuid) : Prop where
  acceptedEvent : r.acceptedEvent.Identified eventId
  orderId : r.signature.orderId = r.acceptedEvent.orderId
  requestId : r.signature.requestId = r.acceptedEvent.requestId

/-- `ck_decision_receipts_admission_identity_alignment` -/
def ckAdmissionIdentityAlignment (disposition : Option EventAdmissionDisposition)
    (candidateEventId acceptedEventId : Option Uuid) : Bool :=
  match disposition with
  | none | some .unknown => true
  | some .admittedToAcceptedHistory =>
    candidateEventId.isSome && acceptedEventId.isSome && candidateEventId == acceptedEventId
  | some .matchedExistingAcceptedEvent | some .idempotencyConflictWithAcceptedHistory =>
    acceptedEventId.isSome
  | some .semanticAdmissionRejected | some .appendConcurrencyConflict
  | some .appendTechnicalFailure | some .commitOutcomeUnresolved =>
    candidateEventId.isSome && acceptedEventId.isNone
  | some .appendAdmissionNotReached => acceptedEventId.isNone

theorem sameIdentity_iff {α : Type} [DecidableEq α] {a b : Option α} :
    (a.isSome && b.isSome && a == b) = true ↔ a ≠ none ∧ b ≠ none ∧ a = b := by
  cases a <;> cases b <;> simp

/-- The contract object and the table check the same alignment. -/
theorem ckAdmissionIdentityAlignment_iff {disposition : EventAdmissionDisposition}
    {candidateEventId acceptedEventId : Option Uuid} :
    ckAdmissionIdentityAlignment (some disposition) candidateEventId acceptedEventId = true ↔
      admissionEvidenceError disposition candidateEventId acceptedEventId = none := by
  cases disposition with
  | admittedToAcceptedHistory =>
    simp only [ckAdmissionIdentityAlignment, sameIdentity_iff, admissionEvidenceError]
    split_ifs with hc ha he
    · exact ⟨fun h => absurd hc h.1,fun h => (nomatch h)⟩
    · exact ⟨fun h => absurd ha h.2.1,fun h => (nomatch h)⟩
    · exact ⟨fun h => absurd h.2.2 he,fun h => (nomatch h)⟩
    · exact ⟨fun _ => rfl,fun _ => ⟨hc,ha,not_not.mp he⟩⟩
  | _ =>
    cases candidateEventId <;> cases acceptedEventId <;>
      simp only [ckAdmissionIdentityAlignment, admissionEvidenceError] <;> simp

theorem ckAdmissionIdentityAlignment_same (u : Uuid) :
    ckAdmissionIdentityAlignment (some .admittedToAcceptedHistory) (some u) (some u) = true := by
  rw [ckAdmissionIdentityAlignment, sameIdentity_iff]
  exact ⟨Option.some_ne_none u,Option.some_ne_none u,rfl⟩

/-- What makes a result a receipt with given ids and admission fate. -/
structure ReceiptProfile (r : PostgresWriteSideResult) (identity : SelectedIdentity)
    (disposition : EventAdmissionDisposition) : Prop where
  shape : validateResultShape r = .ok ()
  outcomeShape : r.validateOutcomeShape = .ok ()
  status : ∃ status m reason, r.technicalStatus = .ok status ∧ mappingForStatus status = .ok m ∧
    r.outcomeReason status = .ok reason
  orderContext : ∃ orderId, r.contextOrderId = .ok orderId
  requestContext : ∃ requestId, r.contextRequestId = .ok requestId
  selected : selectIdentity r = .ok identity
  subject : ∃ subject, subjectForResult r identity = .ok subject
  fate : admissionDispositionForResult r = .ok disposition
  summary : ∃ status, technicalStatusForResult r = .ok status
  orderNamed : NonEmptyIfPresent identity.orderId
  requestNamed : NonEmptyIfPresent identity.requestId
  aligned : ckAdmissionIdentityAlignment (some disposition) identity.candidateEventId
    identity.acceptedEventId = true

/-- The ids and the admission fate a receipt reports. -/
structure DecisionReceipt.Reports (receipt : DecisionReceipt) (identity : SelectedIdentity)
    (disposition : EventAdmissionDisposition) : Prop where
  cites : receipt.Cites identity.orderId identity.requestId identity.candidateEventId
    identity.acceptedEventId none none
  admissionEvidence : receipt.admissionEvidence = some disposition

theorem evidenceSummary_keyed {r : PostgresWriteSideResult} {status : String}
    (h : technicalStatusForResult r = .ok status) : ∃ summary,
      evidenceSummaryForResult r = .ok summary ∧
      summary.any (fun item => item.1.isEmpty) = false := by
  simp only [evidenceSummaryForResult, h, ok_bind]
  refine ⟨_,rfl,?_⟩
  cases r.streamAdmissionResult <;> cases r.validationDecision <;> cases r.admissionResult <;> rfl

structure SemanticOutcome.Means (o : SemanticOutcome) (m : RuntimeTechnicalStatusMapping) : Prop where
  boundary : o.boundary = .layer1WriteSide
  category : o.category = m.category
  semanticCode : o.semanticCode = m.semanticCode

/-- A well-formed result with a known status has the outcome of that status. -/
theorem outcome_made {r : PostgresWriteSideResult} (hshape : r.validateOutcomeShape = .ok ())
    {status reason : String} {m : RuntimeTechnicalStatusMapping}
    (hstatus : r.technicalStatus = .ok status) (hm : mappingForStatus status = .ok m)
    (hreason : r.outcomeReason status = .ok reason) {orderId requestId : Option String}
    (horder : r.contextOrderId = .ok orderId) (hrequest : r.contextRequestId = .ok requestId)
    (outcomeId : Uuid) : ∃ outcome,
      mapPostgresWriteSideResultToSemanticOutcome outcomeId r = .ok outcome ∧ outcome.Means m := by
  simp only [mapPostgresWriteSideResultToSemanticOutcome, PostgresWriteSideResult.outcomeContext,
    hshape, hstatus, hreason, horder, hrequest, ok_bind, mapWriteSideAdmissionStatusToSemanticOutcome]
  rw [mapRuntimeTechnicalStatus_ok hm rfl (requireReason_not_blank reason _)]
  exact ⟨_,rfl,rfl,rfl,rfl⟩

theorem ReceiptProfile.receipt {r : PostgresWriteSideResult} {identity : SelectedIdentity}
    {disposition : EventAdmissionDisposition} (h : ReceiptProfile r identity disposition)
    (receiptId outcomeId : Uuid) : ∃ receipt,
      mapPostgresWriteSideResultToDecisionReceipt receiptId outcomeId r = .ok receipt ∧
      receipt.Reports identity disposition := by
  obtain ⟨status,m,reason,hstatus,hm,hreason⟩ := h.status
  obtain ⟨orderId,horder⟩ := h.orderContext
  obtain ⟨requestId,hrequest⟩ := h.requestContext
  obtain ⟨subject,hsubject⟩ := h.subject
  obtain ⟨status',hstatus'⟩ := h.summary
  obtain ⟨summary,hsummary,hkeys⟩ := evidenceSummary_keyed hstatus'
  have hmade : ∃ receipt,
      mapPostgresWriteSideResultToDecisionReceipt receiptId outcomeId r = .ok receipt ∧
      receipt.Cites identity.orderId identity.requestId identity.candidateEventId
        identity.acceptedEventId none none ∧ receipt.admissionEvidence = some disposition := by
    simp only [mapPostgresWriteSideResultToDecisionReceipt,
      mapPostgresWriteSideResultToSemanticOutcome, PostgresWriteSideResult.outcomeContext, h.shape,
      h.outcomeShape, hstatus, hreason, horder, hrequest, h.selected, h.fate, hsummary, ok_bind,
      mapWriteSideAdmissionStatusToSemanticOutcome]
    exact receipt_made hm rfl (requireReason_not_blank reason _) ⟨subject,hsubject⟩ h.orderNamed
      h.requestNamed nonNegative_none
      (fun d hd => Option.some.inj hd ▸ ckAdmissionIdentityAlignment_iff.mp h.aligned) hkeys
  obtain ⟨receipt,hok,hcites,hadmission⟩ := hmade
  exact ⟨receipt,hok,hcites,hadmission⟩

/-! ## Selection -/

/-- Sources of one named value select it. -/
theorem selectConsistentString_eq {sources : Sources} {v : Option String} {field : String}
    (hv : NonEmptyIfPresent v) (h : ∀ source ∈ sources, v = some source.2)
    (hnone : sources = [] → v = none) : selectConsistentString sources field = .ok v := by
  have hnamed : sources.find? (fun source => (strip source.2).isEmpty) = none := by
    refine List.find?_eq_none.mpr (fun source hs => ?_)
    rw [strip_not_empty (hv _ (h source hs))]
    simp
  have hsame : contradictory (sources.map (fun source => source.2)) = false :=
    contradictory_eq_false (v := v) (fun w hw => by
      obtain ⟨source,hs,rfl⟩ := List.mem_map.mp hw
      exact h source hs)
  cases sources with
  | nil => rw [hnone rfl]; rfl
  | cons source rest =>
    simp only [selectConsistentString, hnamed, hsame]
    simp [h source (List.mem_cons_self ..)]

theorem parseUuid_str (u : Uuid) (field : String) : parseUuid u.str field = .ok u := by
  have hnamed : (strip u.str).isEmpty = false := strip_not_empty (generateEventId_not_blank ⟨u,0⟩)
  simp only [parseUuid, hnamed, Bool.false_eq_true, if_false, Uuid.parse_str]

theorem selectConsistentUuid_eq {sources : Sources} {v : Option Uuid} {field : String}
    (h : ∀ source ∈ sources, ∃ u, v = some u ∧ source.2 = u.str)
    (hnone : sources = [] → v = none) : selectConsistentUuid sources field = .ok v := by
  have hparsed : ∃ parsed, sources.mapM (fun source => parseUuid source.2 source.1) = .ok parsed ∧
      parsed.length = sources.length ∧ ∀ u ∈ parsed, v = some u := by
    clear hnone
    induction sources with
    | nil => exact ⟨[],rfl,rfl,by simp⟩
    | cons source rest ih =>
      obtain ⟨parsed,hparsed,hlength,hall⟩ := ih (fun s hs => h s (List.mem_cons_of_mem _ hs))
      obtain ⟨u,hu,htext⟩ := h source (List.mem_cons_self ..)
      refine ⟨u :: parsed,?_,by simp [hlength],?_⟩
      · rw [List.mapM_cons, htext, parseUuid_str, ok_bind, hparsed]
        rfl
      · intro w hw
        rcases List.mem_cons.mp hw with rfl | hw
        · exact hu
        · exact hall w hw
  obtain ⟨parsed,hparsed,hlength,hall⟩ := hparsed
  simp only [selectConsistentUuid, hparsed, ok_bind, contradictory_eq_false hall, Bool.false_eq_true,
    if_false]
  cases parsed with
  | nil => rw [hnone (List.eq_nil_of_length_eq_zero hlength.symm)]; rfl
  | cons u parsed => rw [hall u (List.mem_cons_self ..)]; rfl

/-- Every piece of evidence of a result names the same ids. -/
structure Evidenced (r : PostgresWriteSideResult) (identity : SelectedIdentity) : Prop where
  orderId : ∀ source ∈ orderSources r, identity.orderId = some source.2
  requestId : ∀ source ∈ requestSources r, identity.requestId = some source.2
  candidateEventId : ∀ source ∈ candidateSources r,
    ∃ u, identity.candidateEventId = some u ∧ source.2 = u.str
  acceptedEventId : ∀ source ∈ acceptedIdSources r,
    ∃ u, identity.acceptedEventId = some u ∧ source.2 = u.str
  noOrder : orderSources r = [] → identity.orderId = none
  noRequest : requestSources r = [] → identity.requestId = none
  noCandidate : candidateSources r = [] → identity.candidateEventId = none
  noAccepted : acceptedIdSources r = [] → identity.acceptedEventId = none
  orderNamed : NonEmptyIfPresent identity.orderId
  requestNamed : NonEmptyIfPresent identity.requestId

namespace Evidenced
variable {r : PostgresWriteSideResult} {identity : SelectedIdentity}

theorem selected (h : Evidenced r identity)
    (haccepted : r.outcome = .accepted → validateAcceptedIdentity r identity = .ok ()) :
    selectIdentity r = .ok identity := by
  simp only [selectIdentity, ok_bind, selectConsistentString_eq h.orderNamed h.orderId h.noOrder,
    selectConsistentString_eq h.requestNamed h.requestId h.noRequest,
    selectConsistentUuid_eq h.candidateEventId h.noCandidate,
    selectConsistentUuid_eq h.acceptedEventId h.noAccepted]
  split
  · rename_i ha
    rw [haccepted ha, ok_bind]
  · rfl

theorem mem_acceptedEvents {e : OrderEvent} (he : r.evidencedEvent = some e) :
    ∃ name, (name,e) ∈ acceptedEvents r := by
  unfold PostgresWriteSideResult.evidencedEvent at he
  split at he
  · rename_i e' ha
    obtain rfl := Option.some.inj he
    exact ⟨"returned accepted event",by simp [acceptedEvents, ha]⟩
  · obtain ⟨record,hr,rfl⟩ := Option.map_eq_some_iff.mp he
    exact ⟨"idempotency record accepted event",by simp [acceptedEvents, hr]⟩

theorem orderContext (h : Evidenced r identity) : ∃ orderId, r.contextOrderId = .ok orderId := by
  have hsame : contradictory ([r.evidencedEvent.map (fun e => e.orderId),
      r.streamAdmissionResult.map (fun s => s.orderId),
      r.idempotencyDecision.record.map (fun record => record.signature.orderId)].filterMap id) =
        false := by
    refine contradictory_eq_false (v := identity.orderId) (fun w hw => ?_)
    simp only [List.mem_filterMap, id_eq, exists_eq_right, List.mem_cons, List.not_mem_nil,
      or_false] at hw
    rcases hw with hw | hw | hw
    · obtain ⟨e,he,rfl⟩ := Option.map_eq_some_iff.mp hw.symm
      obtain ⟨name,hmem⟩ := mem_acceptedEvents he
      exact h.orderId (name ++ " order_id",e.orderId) (List.mem_append_left _
        (List.mem_append_left _ (List.mem_map.mpr ⟨_,hmem,rfl⟩)))
    · obtain ⟨stream,hs,rfl⟩ := Option.map_eq_some_iff.mp hw.symm
      exact h.orderId ("stream admission order_id",stream.orderId) (by simp [orderSources, hs])
    · obtain ⟨record,hr,rfl⟩ := Option.map_eq_some_iff.mp hw.symm
      exact h.orderId ("idempotency record signature order_id",record.signature.orderId)
        (by simp [orderSources, hr])
  exact ⟨_,by simp only [PostgresWriteSideResult.contextOrderId, hsame]; rfl⟩

theorem requestContext (h : Evidenced r identity) :
    ∃ requestId, r.contextRequestId = .ok requestId := by
  have hsame : contradictory ([r.evidencedEvent.map (fun e => e.requestId),
      r.idempotencyDecision.record.map (fun record => record.signature.requestId)].filterMap id) =
        false := by
    refine contradictory_eq_false (v := identity.requestId) (fun w hw => ?_)
    simp only [List.mem_filterMap, id_eq, exists_eq_right, List.mem_cons, List.not_mem_nil,
      or_false] at hw
    rcases hw with hw | hw
    · obtain ⟨e,he,rfl⟩ := Option.map_eq_some_iff.mp hw.symm
      obtain ⟨name,hmem⟩ := mem_acceptedEvents he
      exact h.requestId (name ++ " request_id",e.requestId) (List.mem_append_left _
        (List.mem_map.mpr ⟨_,hmem,rfl⟩))
    · obtain ⟨record,hr,rfl⟩ := Option.map_eq_some_iff.mp hw.symm
      exact h.requestId ("idempotency record signature request_id",record.signature.requestId)
        (by simp [requestSources, hr])
  exact ⟨_,by simp only [PostgresWriteSideResult.contextRequestId, hsame]; rfl⟩

end Evidenced

/-- The candidate id of a result, from its validation and its append. -/
structure Nominates (r : PostgresWriteSideResult) (candidateEventId : Option Uuid) : Prop where
  validation : ∀ d, r.validationDecision = some d →
    ∃ u, candidateEventId = some u ∧ d.validationResult.candidateEventId = u.str
  append : ∀ a, r.admissionResult = some a →
    ∃ u, candidateEventId = some u ∧ a.candidateEventId = u.str
  absent : r.validationDecision = none → candidateEventId = none

namespace Nominates
variable {r : PostgresWriteSideResult} {candidateEventId : Option Uuid}

theorem sources (h : Nominates r candidateEventId) : ∀ source ∈ candidateSources r,
    ∃ u, candidateEventId = some u ∧ source.2 = u.str := by
  intro source hs
  simp only [candidateSources, List.mem_append, List.mem_map, Option.mem_toList] at hs
  rcases hs with ⟨d,hd,rfl⟩ | ⟨a,ha,rfl⟩
  · exact h.validation d hd
  · exact h.append a ha

theorem none_of_sources (h : Nominates r candidateEventId) (hs : candidateSources r = []) :
    candidateEventId = none := by
  refine h.absent ?_
  cases hv : r.validationDecision with
  | none => rfl
  | some d => simp [candidateSources, hv] at hs

end Nominates

section Evidence
variable {r : PostgresWriteSideResult} {candidateEventId : Option Uuid} {u : Uuid}

theorem evidenced_record {record : IdempotencyRecord} (hn : Nominates r candidateEventId)
    (hrecord : r.idempotencyDecision.record = some record) (hid : record.Identified u)
    (hevent : ∀ e, r.acceptedEvent = some e → e = record.acceptedEvent)
    (hstream : r.streamAdmissionResult = none) :
    Evidenced r ⟨some record.acceptedEvent.orderId,some record.acceptedEvent.requestId,
      candidateEventId,some u⟩ := by
  have hevents : ∀ source ∈ acceptedEvents r, source.2 = record.acceptedEvent := by
    intro source hs
    simp only [acceptedEvents, hrecord, List.mem_append, List.mem_map, Option.mem_toList,
      Option.some.injEq] at hs
    rcases hs with ⟨e,he,rfl⟩ | ⟨_,rfl,rfl⟩
    · exact hevent e he
    · rfl
  refine ⟨fun source hs => ?_,fun source hs => ?_,hn.sources,fun source hs => ?_,?_,?_,
    hn.none_of_sources,?_,nonEmpty_some hid.acceptedEvent.orderId,
    nonEmpty_some hid.acceptedEvent.requestId⟩
  · simp only [orderSources, hrecord, hstream, List.mem_append, List.mem_map, Option.mem_toList,
      Option.some.injEq, reduceCtorEq, false_and, exists_false, or_false] at hs
    rcases hs with ⟨source,hs,rfl⟩ | ⟨_,rfl,rfl⟩
    · exact congrArg some (hevents source hs ▸ rfl)
    · exact congrArg some hid.orderId.symm
  · simp only [requestSources, hrecord, List.mem_append, List.mem_map, Option.mem_toList,
      Option.some.injEq] at hs
    rcases hs with ⟨source,hs,rfl⟩ | ⟨_,rfl,rfl⟩
    · exact congrArg some (hevents source hs ▸ rfl)
    · exact congrArg some hid.requestId.symm
  · obtain ⟨source,hmem,rfl⟩ := List.mem_map.mp hs
    exact ⟨u,rfl,(hevents source hmem).symm ▸ hid.acceptedEvent.eventId⟩
  · simp [orderSources, hrecord]
  · simp [requestSources, hrecord]
  · simp [acceptedIdSources, acceptedEvents, hrecord]

/-- A result without accepted history. -/
theorem evidenced_candidate (orderId : String) (hn : Nominates r candidateEventId)
    (hrecord : r.idempotencyDecision.record = none) (hevent : r.acceptedEvent = none)
    (hstream : ∀ s, r.streamAdmissionResult = some s → s.orderId = orderId ∧ isBlank orderId = false) :
    Evidenced r ⟨r.streamAdmissionResult.map (fun _ => orderId),none,candidateEventId,none⟩ := by
  have hevents : acceptedEvents r = [] := by simp [acceptedEvents, hrecord, hevent]
  cases hs : r.streamAdmissionResult with
  | none =>
    exact ⟨by simp [orderSources, hevents, hrecord, hs],by simp [requestSources, hevents, hrecord],
      hn.sources,by simp [acceptedIdSources, hevents],by simp,by simp,hn.none_of_sources,by simp,
      nonEmpty_none,nonEmpty_none⟩
  | some stream =>
    obtain ⟨ho,hb⟩ := hstream stream hs
    exact ⟨by simp [orderSources, hevents, hrecord, hs, ho],
      by simp [requestSources, hevents, hrecord],hn.sources,by simp [acceptedIdSources, hevents],
      by simp [orderSources, hs],by simp,hn.none_of_sources,by simp,nonEmpty_some hb,nonEmpty_none⟩

theorem evidenced_accepted {e : OrderEvent} (hn : Nominates r candidateEventId)
    (hrecord : r.idempotencyDecision.record = none) (hevent : r.acceptedEvent = some e)
    (hid : e.Identified u) (hstream : ∀ s, r.streamAdmissionResult = some s → s.orderId = e.orderId) :
    Evidenced r ⟨some e.orderId,some e.requestId,candidateEventId,some u⟩ := by
  have hevents : acceptedEvents r = [("returned accepted event",e)] := by
    simp [acceptedEvents, hrecord, hevent]
  refine ⟨fun source hs => ?_,?_,hn.sources,?_,?_,?_,hn.none_of_sources,?_,
    nonEmpty_some hid.orderId,nonEmpty_some hid.requestId⟩
  · simp only [orderSources, hevents, hrecord, List.map_cons, List.map_nil, Option.toList_none,
      List.append_nil, List.mem_append, List.mem_singleton, List.mem_map, Option.mem_toList] at hs
    rcases hs with rfl | ⟨s,hs,rfl⟩
    · rfl
    · exact congrArg some (hstream s hs).symm
  · simp [requestSources, hevents, hrecord]
  · simp [acceptedIdSources, hevents, hid.eventId]
  · simp [orderSources, hevents]
  · simp [requestSources, hevents]
  · simp [acceptedIdSources, hevents]

end Evidence

/-! ## The results of a write invocation -/

section Results
variable {c : Candidate} {u w : Uuid} {record : IdempotencyRecord} {p : StreamAdmissionResult}
  {validation : Option Candidate}

/-- The runtime's decision on a candidate with a canonical id. -/
structure Candidate.Judged (c : Candidate) (action : EnforcementAction) (u : Uuid) : Prop where
  action : c.validationDecision.action = action
  named : c.validationDecision.validationResult.candidateEventId = u.str

theorem profile_replay (hr : record.Identified u)
    (hv : ∀ c, validation = some c → c.Judged .allow w) :
    ReceiptProfile (.decided (.replay record) validation)
      ⟨some record.acceptedEvent.orderId,some record.acceptedEvent.requestId,
        validation.map (fun _ => w),some u⟩ .matchedExistingAcceptedEvent := by
  have hn : Nominates (.decided (.replay record) validation) (validation.map (fun _ => w)) := by
    cases validation with
    | none => exact ⟨fun _ h => (nomatch h),fun _ h => (nomatch h),fun _ => rfl⟩
    | some c =>
      refine ⟨fun d hd => ?_,fun _ h => (nomatch h),fun h => (nomatch h)⟩
      obtain rfl := Option.some.inj hd
      exact ⟨w,rfl,(hv c rfl).named⟩
  have he := evidenced_record hn rfl hr (fun e h => (Option.some.inj h).symm) rfl
  have hshape : validateResultShape (.decided (.replay record) validation) = .ok () := by
    cases validation with
    | none => rfl
    | some c =>
      simp [validateResultShape, validateReplayOrConflictResult, PostgresWriteSideResult.decided,
        IdempotencyDecision.replay, requireIdempotencyState, actsOtherThan, (hv c rfl).action]
  exact ⟨hshape,rfl,⟨_,_,_,rfl,rfl,rfl⟩,he.orderContext,he.requestContext,
    he.selected (fun h => nomatch h),⟨_,DecisionReceiptSubject.make_ok
      (nonEmpty_some (generateEventId_not_blank ⟨u,0⟩))⟩,rfl,⟨_,rfl⟩,he.orderNamed,he.requestNamed,rfl⟩

theorem profile_conflict (hr : record.Identified u)
    (hv : ∀ c, validation = some c → c.Judged .allow w) :
    ReceiptProfile (.decided (.conflict record) validation)
      ⟨some record.acceptedEvent.orderId,some record.acceptedEvent.requestId,
        validation.map (fun _ => w),some u⟩ .idempotencyConflictWithAcceptedHistory := by
  have hn : Nominates (.decided (.conflict record) validation) (validation.map (fun _ => w)) := by
    cases validation with
    | none => exact ⟨fun _ h => (nomatch h),fun _ h => (nomatch h),fun _ => rfl⟩
    | some c =>
      refine ⟨fun d hd => ?_,fun _ h => (nomatch h),fun h => (nomatch h)⟩
      obtain rfl := Option.some.inj hd
      exact ⟨w,rfl,(hv c rfl).named⟩
  have he := evidenced_record hn rfl hr (fun e h => (nomatch h)) rfl
  have hshape : validateResultShape (.decided (.conflict record) validation) = .ok () := by
    cases validation with
    | none => rfl
    | some c =>
      simp [validateResultShape, validateReplayOrConflictResult, PostgresWriteSideResult.decided,
        IdempotencyDecision.conflict, requireIdempotencyState, actsOtherThan, (hv c rfl).action]
  exact ⟨hshape,rfl,⟨_,_,_,rfl,rfl,rfl⟩,he.orderContext,he.requestContext,
    he.selected (fun h => nomatch h),⟨_,DecisionReceiptSubject.make_ok
      (nonEmpty_some hr.acceptedEvent.requestId)⟩,rfl,⟨_,rfl⟩,he.orderNamed,he.requestNamed,rfl⟩

/-- The stream was refused before the append. -/
theorem profile_notPrepared (hp : p.verdict ≠ .admitted) (ho : isBlank p.orderId = false)
    (hv : ∀ c, validation = some c → c.Judged .allow w) :
    ReceiptProfile (.notPrepared .miss p validation)
      ⟨some p.orderId,none,validation.map (fun _ => w),none⟩ .appendAdmissionNotReached := by
  have hn : Nominates (.notPrepared .miss p validation) (validation.map (fun _ => w)) := by
    cases validation with
    | none => exact ⟨fun _ h => (by cases h),fun _ h => (by cases h),fun _ => rfl⟩
    | some c =>
      refine ⟨fun d hd => ?_,fun _ h => (by cases h),fun h => (by cases h)⟩
      obtain rfl := Option.some.inj hd
      exact ⟨w,rfl,(hv c rfl).named⟩
  have he := evidenced_candidate p.orderId hn rfl rfl (fun s hs => by
    obtain rfl := Option.some.inj hs
    exact ⟨rfl,ho⟩)
  have hshape : validateResultShape (.notPrepared .miss p validation) = .ok () := by
    cases validation with
    | none =>
      simp [validateResultShape, validateAdmissionRejectedResult, PostgresWriteSideResult.notPrepared,
        IdempotencyDecision.miss, requireIdempotencyState, actsOtherThan,
        StreamAdmissionResult.admitted, beq_eq_false_iff_ne.mpr hp]
    | some c =>
      simp [validateResultShape, validateAdmissionRejectedResult, PostgresWriteSideResult.notPrepared,
        IdempotencyDecision.miss, requireIdempotencyState, actsOtherThan,
        StreamAdmissionResult.admitted, beq_eq_false_iff_ne.mpr hp, (hv c rfl).action]
  have hsubject : ∃ subject, subjectForResult (.notPrepared .miss p validation)
      ⟨some p.orderId,none,validation.map (fun _ => w),none⟩ = .ok subject := by
    cases validation with
    | none => exact ⟨_,DecisionReceiptSubject.make_ok (nonEmpty_some ho)⟩
    | some c => exact ⟨_,DecisionReceiptSubject.make_ok
        (nonEmpty_some (generateEventId_not_blank ⟨w,0⟩))⟩
  rcases p with ⟨verdict,reason,orderId⟩
  cases verdict with
  | admitted => exact absurd rfl hp
  | staleWrite =>
    exact ⟨hshape,rfl,⟨_,_,_,rfl,rfl,rfl⟩,he.orderContext,he.requestContext,
      he.selected (fun h => by cases h),hsubject,rfl,⟨_,rfl⟩,he.orderNamed,he.requestNamed,rfl⟩
  | lockTimeout =>
    exact ⟨hshape,rfl,⟨_,_,_,rfl,rfl,rfl⟩,he.orderContext,he.requestContext,
      he.selected (fun h => by cases h),hsubject,rfl,⟨_,rfl⟩,he.orderNamed,he.requestNamed,rfl⟩
  | infrastructureError =>
    exact ⟨hshape,rfl,⟨_,_,_,rfl,rfl,rfl⟩,he.orderContext,he.requestContext,
      he.selected (fun h => by cases h),hsubject,rfl,⟨_,rfl⟩,he.orderNamed,he.requestNamed,rfl⟩

theorem profile_blocked {prepared : Option StreamAdmissionResult} {orderId : String}
    (hp : ∀ s, prepared = some s → s.verdict = .admitted ∧ s.orderId = orderId)
    (ho : isBlank orderId = false) (hc : c.Judged .block w) :
    ReceiptProfile (.blocked .miss prepared c) ⟨prepared.map (fun _ => orderId),none,some w,none⟩
      .semanticAdmissionRejected := by
  have hn : Nominates (.blocked .miss prepared c) (some w) := by
    refine ⟨fun d hd => ?_,fun _ h => (by cases h),fun h => (by cases h)⟩
    obtain rfl := Option.some.inj hd
    exact ⟨w,rfl,hc.named⟩
  have he := evidenced_candidate orderId hn rfl rfl (fun s hs => ⟨(hp s hs).2,ho⟩)
  have hshape : validateResultShape (.blocked .miss prepared c) = .ok () := by
    cases prepared with
    | none =>
      simp [validateResultShape, validateValidationBlockedResult, PostgresWriteSideResult.blocked,
        IdempotencyDecision.miss, requireIdempotencyState, actsOtherThan, hc.action]
    | some s =>
      simp [validateResultShape, validateValidationBlockedResult, PostgresWriteSideResult.blocked,
        IdempotencyDecision.miss, requireIdempotencyState, actsOtherThan,
        StreamAdmissionResult.admitted, (hp s rfl).1, hc.action]
  exact ⟨hshape,rfl,⟨_,_,_,rfl,rfl,rfl⟩,he.orderContext,he.requestContext,
    he.selected (fun h => by cases h),⟨_,DecisionReceiptSubject.make_ok
      (nonEmpty_some (generateEventId_not_blank ⟨w,0⟩))⟩,rfl,⟨_,rfl⟩,he.orderNamed,he.requestNamed,rfl⟩

/-- The append refused the candidate, or failed. -/
theorem profile_notAppended {a : AdmissionResult} {cause : PyException}
    (hp : p.verdict = .admitted) (ho : isBlank p.orderId = false) (hc : c.Judged .allow w)
    (hevent : c.event.eventId = w.str) (ha : a.verdict ≠ .admitted) (hr : RejectedAs c.event cause a) :
    ∃ disposition, (disposition = .appendConcurrencyConflict ∨
        disposition = .appendTechnicalFailure) ∧
      ReceiptProfile (.notAppended .miss p c a) ⟨some p.orderId,none,some w,none⟩ disposition := by
  have hn : Nominates (.notAppended .miss p c a) (some w) := by
    refine ⟨fun d hd => ?_,fun b hb => ?_,fun h => (by cases h)⟩
    · obtain rfl := Option.some.inj hd
      exact ⟨w,rfl,hc.named⟩
    · obtain rfl := Option.some.inj hb
      exact ⟨w,rfl,hr.candidateEventId.trans hevent⟩
  have he := evidenced_candidate p.orderId hn rfl rfl (fun s hs => by
    obtain rfl := Option.some.inj hs
    exact ⟨rfl,ho⟩)
  have hshape : validateResultShape (.notAppended .miss p c a) = .ok () := by
    simp [validateResultShape, validateAdmissionRejectedResult, PostgresWriteSideResult.notAppended,
      IdempotencyDecision.miss, requireIdempotencyState, actsOtherThan,
      StreamAdmissionResult.admitted, AdmissionResult.admitted, hp, beq_eq_false_iff_ne.mpr ha,
      hr.acceptedEventId, hc.action]
  have hsubject : ∃ subject, subjectForResult (.notAppended .miss p c a)
      ⟨some p.orderId,none,some w,none⟩ = .ok subject :=
    ⟨_,DecisionReceiptSubject.make_ok (nonEmpty_some (generateEventId_not_blank ⟨w,0⟩))⟩
  have hnone := hr.acceptedEventId
  rcases a with ⟨verdict,reason,candidateEventId,acceptedEventId,evidence⟩
  subst hnone
  cases verdict with
  | admitted => exact absurd rfl ha
  | staleWrite =>
    exact ⟨.appendConcurrencyConflict,.inl rfl,hshape,rfl,⟨_,_,_,rfl,rfl,rfl⟩,he.orderContext,
      he.requestContext,he.selected (fun h => by cases h),hsubject,rfl,⟨_,rfl⟩,he.orderNamed,
      he.requestNamed,rfl⟩
  | lockTimeout =>
    exact ⟨.appendTechnicalFailure,.inr rfl,hshape,rfl,⟨_,_,_,rfl,rfl,rfl⟩,he.orderContext,
      he.requestContext,he.selected (fun h => by cases h),hsubject,rfl,⟨_,rfl⟩,he.orderNamed,
      he.requestNamed,rfl⟩
  | infrastructureError =>
    exact ⟨.appendTechnicalFailure,.inr rfl,hshape,rfl,⟨_,_,_,rfl,rfl,rfl⟩,he.orderContext,
      he.requestContext,he.selected (fun h => by cases h),hsubject,rfl,⟨_,rfl⟩,he.orderNamed,
      he.requestNamed,rfl⟩

theorem profile_accepted {gateName : String} (hp : p.verdict = .admitted)
    (ho : p.orderId = c.event.orderId) (hc : c.Judged .allow w) (hid : c.event.Identified w) :
    ReceiptProfile (.accepted .miss p c ⟨.admitted,"Event admitted by " ++ gateName,c.event.eventId,
        some c.event.eventId,none⟩)
      ⟨some c.event.orderId,some c.event.requestId,some w,some w⟩ .admittedToAcceptedHistory := by
  have hn : Nominates (.accepted .miss p c ⟨.admitted,"Event admitted by " ++ gateName,
      c.event.eventId,some c.event.eventId,none⟩) (some w) := by
    refine ⟨fun d hd => ?_,fun b hb => ?_,fun h => (nomatch h)⟩
    · obtain rfl := Option.some.inj hd
      exact ⟨w,rfl,hc.named⟩
    · obtain rfl := Option.some.inj hb
      exact ⟨w,rfl,hid.eventId⟩
  have he := evidenced_accepted hn rfl rfl hid (fun s hs => by
    obtain rfl := Option.some.inj hs
    exact ho)
  have hshape : validateResultShape (.accepted .miss p c ⟨.admitted,"Event admitted by " ++ gateName,
      c.event.eventId,some c.event.eventId,none⟩) = .ok () := by
    simp [validateResultShape, validateAcceptedResult, PostgresWriteSideResult.accepted,
      IdempotencyDecision.miss, requireIdempotencyState, actsOtherThan,
      StreamAdmissionResult.admitted, AdmissionResult.admitted, hp, hc.action]
  have haccepted : validateAcceptedIdentity (.accepted .miss p c ⟨.admitted,
      "Event admitted by " ++ gateName,c.event.eventId,some c.event.eventId,none⟩)
      ⟨some c.event.orderId,some c.event.requestId,some w,some w⟩ = .ok () := by
    simp only [validateAcceptedIdentity, PostgresWriteSideResult.accepted, hid.eventId, parseUuid_str,
      ok_bind]
    simp
  exact ⟨hshape,rfl,⟨_,_,_,rfl,rfl,rfl⟩,he.orderContext,he.requestContext,
    he.selected (fun _ => haccepted),⟨_,DecisionReceiptSubject.make_ok
      (nonEmpty_some (generateEventId_not_blank ⟨w,0⟩))⟩,rfl,⟨_,rfl⟩,he.orderNamed,he.requestNamed,
    ckAdmissionIdentityAlignment_same w⟩

end Results
end StreamingCompass
