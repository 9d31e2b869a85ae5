import StreamingCompass.Concurrency.WriteSideReceipts
import StreamingCompass.Transactional.InvocationOwner

/-! # Current responses under interleaving

The response an owner evaluates for a result its writer returned: decided by the outcome,
and available for a replay exactly when the retained amount equals the recorded one.
-/
namespace StreamingCompass
open Interleaving

/-! ## Responses by outcome -/

/-- What makes a result a semantic outcome. -/
structure OutcomeProfile (r : PostgresWriteSideResult) : Prop where
  outcomeShape : r.validateOutcomeShape = .ok ()
  status : ∃ status m reason, r.technicalStatus = .ok status ∧ mappingForStatus status = .ok m ∧
    r.outcomeReason status = .ok reason
  orderContext : ∃ orderId, r.contextOrderId = .ok orderId
  requestContext : ∃ requestId, r.contextRequestId = .ok requestId

theorem ReceiptProfile.outcomeProfile {r : PostgresWriteSideResult}
    {identity : WriteSideReceipt.SelectedIdentity} {disposition : EventAdmissionDisposition}
    (h : ReceiptProfile r identity disposition) : OutcomeProfile r :=
  ⟨h.outcomeShape,h.status,h.orderContext,h.requestContext⟩

def PostgresWriteSideResult.reviewedResponse (r : PostgresWriteSideResult) :
    Option RuntimeDecisionResponse :=
  match r.outcome with
  | .accepted => some .useCurrentResult
  | .replay => some .returnPriorAcceptedResult
  | .conflict | .validationBlocked => some .blockCurrentContinuation
  | .admissionRejected => match r.admissionRejectionSource with
    | .ok (.infrastructureError,_) => some .requireEscalation
    | _ => none

/-- The table of responses decides by the outcome alone. -/
theorem supportedResponse_of_status {r : PostgresWriteSideResult} {status : String}
    {m : RuntimeTechnicalStatusMapping} (hstatus : r.technicalStatus = .ok status)
    (hm : mappingForStatus status = .ok m) :
    supportedResponse .layer1WriteSide m.category m.semanticCode = r.reviewedResponse := by
  unfold PostgresWriteSideResult.technicalStatus at hstatus
  unfold PostgresWriteSideResult.reviewedResponse
  cases ho : r.outcome with
  | admissionRejected =>
    simp only [ho] at hstatus ⊢
    cases hsource : r.admissionRejectionSource with
    | error e => simp [hsource, bind, Except.bind] at hstatus
    | ok source =>
      rcases source with ⟨verdict,reason⟩
      rw [hsource, ok_bind] at hstatus
      cases verdict with
      | admitted => cases hstatus
      | _ =>
        obtain rfl := Except.ok.inj hstatus
        obtain rfl := Except.ok.inj hm
        rfl
  | _ =>
    simp only [ho] at hstatus
    obtain rfl := Except.ok.inj hstatus
    obtain rfl := Except.ok.inj hm
    rfl

section Evaluation
variable {s : RequestSignature} {result : PyObject PostgresWriteSideResult}

/-- A mapped result is refused when no response is reviewed for it, and decided otherwise. -/
theorem OutcomeProfile.currentResponse (h : OutcomeProfile result.value)
    (hrule : result.value.outcome = .validationBlocked →
      result.value.observedRuleViolation ≠ none) (s : RequestSignature) (outcomeId : Uuid) :
    (result.value.reviewedResponse = none ∧ ∃ feedback refusal,
      StreamingCompass.currentResponse s outcomeId result =
        .ok (.refusal ⟨result,feedback,refusal⟩)) ∨
    ∃ evaluation : PostgresWriteSideRuntimeDecisionEvaluation,
      result.value.reviewedResponse = some evaluation.decision.response ∧
      StreamingCompass.currentResponse s outcomeId result =
        (PostgresWriteSideCurrentResponseEvaluation.fromOwner s result evaluation).map .evaluation := by
  obtain ⟨status,m,reason,hstatus,hm,hreason⟩ := h.status
  obtain ⟨orderId,horder⟩ := h.orderContext
  obtain ⟨requestId,hrequest⟩ := h.requestContext
  obtain ⟨outcome,houtcome,hmeans⟩ := outcome_made h.outcomeShape hstatus hm hreason horder hrequest
    outcomeId
  have hreviewed := supportedResponse_of_status hstatus hm
  rw [← hmeans.boundary, ← hmeans.category, ← hmeans.semanticCode] at hreviewed
  have hfeedback : ∃ feedback,
      mapPostgresWriteSideResultToSemanticRuleFeedback outcomeId result.value = .ok feedback ∧
      feedback.semanticOutcome = outcome ∧ (feedback.ruleRefinement = none ∨
        result.value.outcome = .validationBlocked) := by
    simp only [mapPostgresWriteSideResultToSemanticRuleFeedback, houtcome, ok_bind,
      PostgresWriteSideSemanticRuleFeedback.fromSource]
    split
    · rename_i hb
      split
      · rename_i hnone
        exact absurd hnone (hrule hb)
      · exact ⟨_,rfl,rfl,.inr hb⟩
    · exact ⟨_,rfl,rfl,.inl rfl⟩
  obtain ⟨feedback,hmap,rfl,hrefined⟩ := hfeedback
  simp only [StreamingCompass.currentResponse, hmap, ok_bind]
  cases hsupported : result.value.reviewedResponse with
  | none =>
    obtain ⟨refusal,hrefusal⟩ := evaluate_unsupported (hreviewed.trans hsupported)
    rw [hrefusal]
    exact .inl ⟨rfl,feedback,refusal,rfl⟩
  | some response =>
    have hcoherent : feedback.ruleRefinement = none ∨ response = .blockCurrentContinuation := by
      refine hrefined.imp id (fun hb => ?_)
      simp only [PostgresWriteSideResult.reviewedResponse, hb, Option.some.injEq] at hsupported
      exact hsupported.symm
    obtain ⟨evaluation,hevaluation,hresponse,-⟩ := evaluate_supported (hreviewed.trans hsupported)
      hcoherent
    refine .inr ⟨evaluation,by rw [hresponse],?_⟩
    simp only [hevaluation]
    cases PostgresWriteSideCurrentResponseEvaluation.fromOwner s result evaluation <;> rfl

end Evaluation

/-- The delivery the profile owes to a result, over the accepted history it names. -/
inductive Responds (t : Tables) (s : RequestSignature) (result : PyObject PostgresWriteSideResult) :
    PostgresWriteSideCurrentResponseDelivery → Prop where
  | used {evaluation : PostgresWriteSideRuntimeDecisionEvaluation}
    (outcome : result.value.outcome = .accepted)
    (response : evaluation.decision.response = .useCurrentResult) :
    Responds t s result (.evaluation ⟨result,evaluation,some (.current result)⟩)
  | returned {evaluation : PostgresWriteSideRuntimeDecisionEvaluation} {event : OrderEvent}
    {record : IdempotencyRow} {row : OrderEventRow} (outcome : result.value.outcome = .replay)
    (response : evaluation.decision.response = .returnPriorAcceptedResult)
    (replayed : result.value.acceptedEvent = some event)
    (holds : t.Holds s.requestId record row) (stored : rowToOrderEvent row = event) :
    Responds t s result (.evaluation ⟨result,evaluation,some (.priorAccepted event)⟩)
  | blocked {evaluation : PostgresWriteSideRuntimeDecisionEvaluation}
    (outcome : result.value.outcome = .conflict ∨ result.value.outcome = .validationBlocked)
    (response : evaluation.decision.response = .blockCurrentContinuation) :
    Responds t s result (.evaluation ⟨result,evaluation,none⟩)
  | escalated {evaluation : PostgresWriteSideRuntimeDecisionEvaluation} {reason : String}
    (outcome : result.value.outcome = .admissionRejected)
    (source : result.value.admissionRejectionSource = .ok (.infrastructureError,reason))
    (response : evaluation.decision.response = .requireEscalation) :
    Responds t s result (.evaluation ⟨result,evaluation,none⟩)
  | refused {feedback : PostgresWriteSideSemanticRuleFeedback}
    {refusal : PostgresWriteSideRuntimeDecisionRefused} {verdict : AdmissionVerdict} {reason : String}
    (outcome : result.value.outcome = .admissionRejected)
    (source : result.value.admissionRejectionSource = .ok (verdict,reason))
    (uncertain : verdict = .staleWrite ∨ verdict = .lockTimeout) :
    Responds t s result (.refusal ⟨result,feedback,refusal⟩)

/-- Every result but a replay has its delivery. -/
theorem OutcomeProfile.responds {result : PyObject PostgresWriteSideResult}
    (h : OutcomeProfile result.value) (hrule : result.value.outcome = .validationBlocked →
      result.value.observedRuleViolation ≠ none) (hr : result.value.outcome ≠ .replay) (t : Tables)
    (s : RequestSignature) (outcomeId : Uuid) : ∃ delivery,
      StreamingCompass.currentResponse s outcomeId result = .ok delivery ∧
        Responds t s result delivery := by
  rcases h.currentResponse hrule s outcomeId with ⟨hnone,feedback,refusal,hok⟩ | ⟨e,hsome,hok⟩
  · refine ⟨_,hok,?_⟩
    obtain ⟨status,m,reason,hstatus,-,-⟩ := h.status
    cases ho : result.value.outcome with
    | admissionRejected =>
      cases hsource : result.value.admissionRejectionSource with
      | error err =>
        simp [PostgresWriteSideResult.technicalStatus, ho, hsource, bind, Except.bind] at hstatus
      | ok source =>
        rcases source with ⟨verdict,reason⟩
        refine .refused ho hsource ?_
        simp only [PostgresWriteSideResult.technicalStatus, ho, hsource, ok_bind] at hstatus
        simp only [PostgresWriteSideResult.reviewedResponse, ho, hsource] at hnone
        cases verdict with
        | staleWrite => exact .inl rfl
        | lockTimeout => exact .inr rfl
        | admitted => cases hstatus
        | infrastructureError => cases hnone
    | _ => simp [PostgresWriteSideResult.reviewedResponse, ho] at hnone
  · rw [hok]
    unfold PostgresWriteSideCurrentResponseEvaluation.fromOwner
    cases ho : result.value.outcome with
    | accepted =>
      have hresponse : e.decision.response = .useCurrentResult := by
        simp only [PostgresWriteSideResult.reviewedResponse, ho, Option.some.injEq] at hsome
        exact hsome.symm
      rw [hresponse]
      exact ⟨_,rfl,.used ho hresponse⟩
    | replay => exact absurd ho hr
    | conflict =>
      have hresponse : e.decision.response = .blockCurrentContinuation := by
        simp only [PostgresWriteSideResult.reviewedResponse, ho, Option.some.injEq] at hsome
        exact hsome.symm
      rw [hresponse]
      exact ⟨_,rfl,.blocked (.inl ho) hresponse⟩
    | validationBlocked =>
      have hresponse : e.decision.response = .blockCurrentContinuation := by
        simp only [PostgresWriteSideResult.reviewedResponse, ho, Option.some.injEq] at hsome
        exact hsome.symm
      rw [hresponse]
      exact ⟨_,rfl,.blocked (.inr ho) hresponse⟩
    | admissionRejected =>
      simp only [PostgresWriteSideResult.reviewedResponse, ho] at hsome
      split at hsome
      · rename_i reason hsource
        have hresponse := (Option.some.inj hsome).symm
        rw [hresponse]
        exact ⟨_,rfl,.escalated ho hsource hresponse⟩
      · cases hsome

/-! ## Replays and retained amounts -/

/-- A replayed record has the signature of the request up to the form of the amount. -/
theorem Tables.Holds.signature_eq {t : Tables} {s : RequestSignature}
    {pair : IdempotencyRow × OrderEventRow} (hholds : t.Holds s.requestId pair.1 pair.2)
    (hsound : t.Sound) (h : PostgresIdempotencyStore.classify s (some pair) =
      .ok (.replay (PostgresIdempotencyStore.rowToIdempotencyRecord pair))) :
    ∃ q, normalizeMoney s.amount = .ok q ∧
      (PostgresIdempotencyStore.rowToIdempotencyRecord pair).signature.eq s =
        (MoneyInput.decimal q).eq s.amount := by
  cases hs : normalizeMoney s.amount with
  | error e =>
    simp [PostgresIdempotencyStore.classify, buildSemanticFingerprint_eq, hs, Except.map, bind,
      Except.bind] at h
  | ok q =>
    obtain ⟨cents,-,-,hamount⟩ := hholds.positiveAmount hsound
    rw [PostgresIdempotencyStore.classify_some pair hholds.recorded.fingerprintVersion
      (hholds.recorded.semanticFingerprint.trans (by rw [hamount])) hs] at h
    split at h
    · rename_i hsame
      obtain ⟨hcommand,horder,rfl⟩ := hsame
      refine ⟨_,rfl,?_⟩
      simp [RequestSignature.eq, PostgresIdempotencyStore.rowToIdempotencyRecord, hcommand, horder,
        hholds.requestId, hamount]
    · cases h

/-- The repository's runtime blocks only with the rule it saw violated. -/
theorem invokeValidation_violation {mode : ValidationMode} {e : OrderEvent} {context : ValidationContext}
    {validation : InvokedValidation} (h : invokeValidation mode e context = .ok validation)
    (hb : validation.decision.action ≠ .allow) :
    validation.evidence.bind (fun carrier => carrier.observedViolation) ≠ none := by
  cases mode with
  | off =>
    obtain rfl := Except.ok.inj h
    exact absurd rfl hb
  | strict =>
    simp only [invokeValidation, decideWithRuleEvidence] at h
    cases hid : isBlank e.eventId with
    | true =>
      obtain ⟨message,hrefused⟩ := FullProofValidator.validateWithRuleEvidence_blank hid context
      rw [hrefused] at h
      cases h
    | false =>
      rw [FullProofValidator.validateWithRuleEvidence_eq hid] at h
      obtain rfl := Except.ok.inj h
      rcases FullProofValidator.check_cases e context with ⟨hfollows,-⟩ | ⟨-,reason,rule,-,hc⟩
      · exact absurd (by simp [policyDecide, validate_passed_iff.mpr hfollows]) hb
      · rw [hc]
        exact Option.some_ne_none _

variable {ι : Type} [DecidableEq ι] [Fintype ι] {D : Database ι} {faulty : ι → Prop}
  {invocations : ι → Invocation} {t : Tables} {c : System ι} {i : ι} {v : WriteInvocation}
  {mode : ValidationMode} {d : PostgresWriteSideDelivery}

theorem Delivered.violation {log : SqlLog} {result : PostgresWriteSideResult}
    (h : Delivered v.writeSide v.signature log result) (hm : v.invokeValidation = invokeValidation mode)
    (ho : result.outcome = .validationBlocked) : result.observedRuleViolation ≠ none := by
  cases h with
  | @decided decision validation checked found unread validated =>
    unfold PostgresWriteSideResult.decided at ho
    split at ho <;> cases ho
  | notPrepared => cases ho
  | notAppended => cases ho
  | accepted => cases ho
  | blocked checked admitted unread validated blocks =>
    obtain ⟨rows,-,-,hc⟩ := validated
    obtain ⟨a,-,-,-,hinvoked⟩ := WriteSide.candidateOf_eq_ok hc
    have hruntime : v.writeSide.invokeValidation = invokeValidation mode := hm
    rw [hruntime] at hinvoked
    exact invokeValidation_violation hinvoked blocks

namespace Reachable

theorem outcomeProfile (h : Reachable D faulty .empty invocations c) (hv : invocations i = .write v)
    (hnames : NamesCandidate v.invokeValidation) (hd : c.delivered i = some (.ok d)) :
    OutcomeProfile d.producerValue.result := by
  by_cases hn : LockRefused v d.producerValue.result ∧ isBlank v.signature.orderId = true
  · rw [hn.1.result_eq (h.delivers hv hd)]
    exact ⟨rfl,⟨_,_,_,rfl,rfl,rfl⟩,⟨_,rfl⟩,⟨_,rfl⟩⟩
  · obtain ⟨identity,disposition,hprofile,-⟩ := h.accounted hv hnames hd hn
    exact hprofile.outcomeProfile

/-- A delivered replay is the committed record of its request. -/
theorem replayed (h : Reachable D faulty .empty invocations c) (hv : invocations i = .write v)
    (hd : c.delivered i = some (.ok d)) (ho : d.producerValue.result.outcome = .replay) :
    ∃ pair : IdempotencyRow × OrderEventRow,
      c.world.tables.Holds v.signature.requestId pair.1 pair.2 ∧
      PostgresIdempotencyStore.classify v.signature (some pair) =
        .ok (.replay (PostgresIdempotencyStore.rowToIdempotencyRecord pair)) ∧
      ∃ validation, d.producerValue.result =
        .decided (.replay (PostgresIdempotencyStore.rowToIdempotencyRecord pair)) validation := by
  have hdelivered := h.delivers hv hd
  generalize d.producerValue.result = result at hdelivered ho
  cases hdelivered with
  | notPrepared => cases ho
  | blocked => cases ho
  | notAppended => cases ho
  | accepted => cases ho
  | @decided decision validation checked found unread validated =>
    obtain ⟨row,hmem,hclass⟩ := checked
    rcases PostgresIdempotencyStore.classify_cases hclass with ⟨rfl,-⟩ | ⟨pair,rfl,rfl | rfl⟩
    · exact absurd rfl found
    · exact ⟨pair,h.checked hv hmem,hclass,validation,rfl⟩
    · cases ho

/-- The current response to a delivered result is available, and is the one its outcome
calls for, unless it is a replay and the retained amount is not in its canonical value. -/
theorem current_response_iff (h : Reachable D faulty .empty invocations c)
    (hv : invocations i = .write v) (hmode : v.invokeValidation = invokeValidation mode)
    (hd : c.delivered i = some (.ok d)) {owner : PostgresWriteSideInvocationOwner} {a : ℕ}
    (hs : owner.requestSignature = v.signature)
    (hcurrent : owner.currentResponseResult = some ⟨a,d.producerValue.result⟩)
    (huncached : owner.cachedCurrentResponseDelivery = none) (drawn : Uuid) (address : ℕ) :
    (∃ delivery, (owner.evaluateCurrentResponse drawn address).1 = .ok ⟨address,delivery⟩ ∧
      Responds c.world.tables v.signature ⟨a,d.producerValue.result⟩ delivery) ↔
    (d.producerValue.result.outcome = .replay → ∀ q, normalizeMoney v.signature.amount = .ok q →
      (MoneyInput.decimal q).eq v.signature.amount = true) := by
  have hnames : NamesCandidate v.invokeValidation := hmode ▸ invokeValidation_namesCandidate mode
  have hprofile : OutcomeProfile (PyObject.mk a d.producerValue.result).value :=
    h.outcomeProfile hv hnames hd
  have hrule := (h.delivers hv hd).violation hmode
  have hmethod (x : Except PyException PostgresWriteSideCurrentResponseDelivery)
      (hx : currentResponse v.signature (owner.currentResponseOutcomeId.getD drawn)
        ⟨a,d.producerValue.result⟩ = x) (delivery : PostgresWriteSideCurrentResponseDelivery) :
      (owner.evaluateCurrentResponse drawn address).1 = .ok ⟨address,delivery⟩ ↔
        x = .ok delivery := by
    simp only [PostgresWriteSideInvocationOwner.evaluateCurrentResponse, hcurrent, huncached, hs, hx]
    cases x <;> simp
  by_cases ho : d.producerValue.result.outcome = .replay
  · obtain ⟨pair,hholds,hclass,validation,hresult⟩ := h.replayed hv hd ho
    obtain ⟨q,hq,hsignature⟩ := hholds.signature_eq (h.sound .initial .empty) hclass
    rcases hprofile.currentResponse hrule v.signature (owner.currentResponseOutcomeId.getD drawn)
      with ⟨hnone,-⟩ | ⟨e,hsome,hok⟩
    · simp [PostgresWriteSideResult.reviewedResponse, ho] at hnone
    have hresponse : e.decision.response = .returnPriorAcceptedResult := by
      simp only [PostgresWriteSideResult.reviewedResponse, ho, Option.some.injEq] at hsome
      exact hsome.symm
    have hexact : exactPriorAcceptedEvent v.signature d.producerValue.result =
        if (MoneyInput.decimal q).eq v.signature.amount = false then .error (.valueError
          "REPLAY idempotency record signature must equal the retained RequestSignature")
        else .ok (rowToOrderEvent pair.2) := by
      rw [hresult, ← hsignature]
      simp [exactPriorAcceptedEvent, PostgresWriteSideResult.decided, IdempotencyDecision.replay,
        PostgresIdempotencyStore.rowToIdempotencyRecord_acceptedEvent]
    simp only [hmethod _ hok, PostgresWriteSideCurrentResponseEvaluation.fromOwner, hresponse, hexact]
    cases heq : (MoneyInput.decimal q).eq v.signature.amount with
    | true =>
      have hevent : d.producerValue.result.acceptedEvent = some (rowToOrderEvent pair.2) := by
        rw [hresult]
        rfl
      refine iff_of_true ⟨_,rfl,.returned ho hresponse hevent hholds rfl⟩ (fun _ q' hq' => ?_)
      obtain rfl := Except.ok.inj (hq.symm.trans hq')
      exact heq
    | false =>
      refine iff_of_false ?_ (fun hall => ?_)
      · rintro ⟨_,herror,_⟩
        cases herror
      · rw [hall ho q hq] at heq
        cases heq
  · refine iff_of_true ?_ (fun hr => absurd hr ho)
    obtain ⟨delivery,hok,hresponds⟩ := hprofile.responds hrule ho c.world.tables v.signature
      (owner.currentResponseOutcomeId.getD drawn)
    exact ⟨delivery,(hmethod _ hok delivery).mpr rfl,hresponds⟩

end Reachable

/-! A creation and its retry, with the amount the two retain. -/
namespace RetriedCreation

def signature (amount : Decimal) : RequestSignature := ⟨"r",.create,"A",.decimal amount⟩

def create (amount : Decimal) (draw : Draw) : WriteInvocation :=
  ⟨.preTransaction,.optimistic,invokeValidation .strict,signature amount,draw,false,none⟩

def calls (amount : Decimal) : Fin 2 → Invocation
  | 0 => .write (create amount ⟨0,0⟩)
  | 1 => .write (create amount ⟨1,0⟩)

/-- The owner of the retry, its result published. -/
def owner (amount : Decimal) (result : PostgresWriteSideResult) : PostgresWriteSideInvocationOwner :=
  (PostgresWriteSideInvocationOwner.new (signature amount) ⟨amount,rfl⟩).publishInitial ⟨0,result⟩

def run (amount : Decimal) : Option (System (Fin 2)) :=
  (System.start .empty (calls amount)).drive RacingCreations.server.serve [0,0,0,0,0,0,0,0,0,1,1]

/-- Ten, and the next amount that is stored as ten. -/
def ten : Decimal := .ofCents false 1000
def aboveTen : Decimal := .finite false 10004 (-3)

def canonical : System (Fin 2) := (run ten).get (by decide +kernel)
def subCent : System (Fin 2) := (run aboveTen).get (by decide +kernel)

theorem canonical_reachable :
    Reachable RacingCreations.server (fun _ => False) .empty (calls ten) canonical :=
  .of_drive (Option.some_get _).symm

theorem subCent_reachable :
    Reachable RacingCreations.server (fun _ => False) .empty (calls aboveTen) subCent :=
  .of_drive (Option.some_get _).symm

/-- The retry of a sub-cent creation is a replay without a current response. -/
theorem response_unavailable :
    Reachable RacingCreations.server (fun _ => False) .empty (calls aboveTen) subCent ∧
    ∃ d, subCent.delivered 1 = some (.ok d) ∧ d.producerValue.result.outcome = .replay ∧
      ((owner aboveTen d.producerValue.result).evaluateCurrentResponse 0 1).1 =
        .error (.valueError
          "REPLAY idempotency record signature must equal the retained RequestSignature") := by
  refine ⟨subCent_reachable,?_⟩
  have hreplay : (subCent.delivered 1).map (fun r => r.map (fun d =>
      (d.producerValue.result.outcome,
        ((owner aboveTen d.producerValue.result).evaluateCurrentResponse 0 1).1))) =
      some (.ok (.replay,.error (.valueError
        "REPLAY idempotency record signature must equal the retained RequestSignature"))) := by
    decide +kernel
  obtain ⟨r,hr,hr'⟩ := Option.map_eq_some_iff.mp hreplay
  cases r with
  | error e => cases hr'
  | ok d =>
    obtain ⟨houtcome,herror⟩ := Prod.mk.inj (Except.ok.inj hr')
    exact ⟨d,hr,houtcome,herror⟩

end RetriedCreation

/-- The retry of a creation with a canonical amount selects the accepted event. -/
theorem Reachable.current_response_iff_canonical : ∃ d delivery,
    RetriedCreation.canonical.delivered 1 = some (.ok d) ∧
      d.producerValue.result.outcome = .replay ∧
      ((RetriedCreation.owner RetriedCreation.ten d.producerValue.result).evaluateCurrentResponse
        0 1).1 = .ok ⟨1,delivery⟩ ∧
      Responds RetriedCreation.canonical.world.tables
        (RetriedCreation.signature RetriedCreation.ten) ⟨0,d.producerValue.result⟩ delivery := by
  have hreplay : (RetriedCreation.canonical.delivered 1).map (fun r => r.map (fun d =>
      d.producerValue.result.outcome)) = some (.ok .replay) := by decide +kernel
  obtain ⟨r,hr,hr'⟩ := Option.map_eq_some_iff.mp hreplay
  cases r with
  | error e => cases hr'
  | ok d =>
    let owner := RetriedCreation.owner RetriedCreation.ten d.producerValue.result
    obtain ⟨delivery,hok,hresponds⟩ := (current_response_iff RetriedCreation.canonical_reachable
      (v := RetriedCreation.create RetriedCreation.ten ⟨1,0⟩) rfl rfl hr
      (show owner.requestSignature = _ from rfl) rfl rfl 0 1).mpr (fun _ q hq => by
        have hten : normalizeMoney (.decimal RetriedCreation.ten) = .ok RetriedCreation.ten := by
          decide +kernel
        obtain rfl := Except.ok.inj (hten.symm.trans hq)
        decide)
    exact ⟨d,delivery,hr,Except.ok.inj hr',hok,hresponds⟩

end StreamingCompass
