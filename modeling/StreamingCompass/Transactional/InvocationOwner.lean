import StreamingCompass.Compass.ReinvocationAuthority
import StreamingCompass.Compass.RuntimeDecision
import StreamingCompass.Transactional.Registry

/-! # The invocation owner

`PostgresWriteSideInvocationOwner`: the fields of one request's lifecycle, and each section
its methods run under the lifecycle lock as a function of them. What a section draws, a
UUID or the address of a new object, is an argument.
-/
namespace StreamingCompass

/-- An object by its value and the address it was created at; `is` compares both. -/
structure PyObject (α : Type) where
  address : ℕ
  value : α
deriving DecidableEq, Repr

def PyException.lifecycleError (message : String) : PyException :=
  .other "PostgresWriteSideInvocationLifecycleError" message

/-! ## Current-response deliveries -/

/-- `PostgresWriteSideResult | OrderEvent` -/
inductive SelectedResult where
  | current (result : PyObject PostgresWriteSideResult)
  | priorAccepted (event : OrderEvent)
deriving DecidableEq, Repr

structure PostgresWriteSideCurrentResponseEvaluation where
  producerResult : PyObject PostgresWriteSideResult
  evaluation : PostgresWriteSideRuntimeDecisionEvaluation
  selectedResult : Option SelectedResult
deriving DecidableEq, Repr

structure PostgresWriteSideCurrentResponseRefusal where
  producerResult : PyObject PostgresWriteSideResult
  sourceFeedback : PostgresWriteSideSemanticRuleFeedback
  refusal : PostgresWriteSideRuntimeDecisionRefused
deriving DecidableEq, Repr

inductive PostgresWriteSideCurrentResponseDelivery where
  | evaluation (e : PostgresWriteSideCurrentResponseEvaluation)
  | refusal (r : PostgresWriteSideCurrentResponseRefusal)
deriving DecidableEq, Repr

namespace PostgresWriteSideCurrentResponseDelivery

def producerResult : PostgresWriteSideCurrentResponseDelivery → PyObject PostgresWriteSideResult
  | .evaluation e => e.producerResult
  | .refusal r => r.producerResult

def sourceFeedback : PostgresWriteSideCurrentResponseDelivery → PostgresWriteSideSemanticRuleFeedback
  | .evaluation e => e.evaluation.sourceFeedback
  | .refusal r => r.sourceFeedback

def outcomeId (d : PostgresWriteSideCurrentResponseDelivery) : Uuid :=
  d.sourceFeedback.semanticOutcome.outcomeId

end PostgresWriteSideCurrentResponseDelivery

/-- `_exact_prior_accepted_event`. A replay carries the event object of its record, so the
last check compares the two events. -/
def exactPriorAcceptedEvent (requestSignature : RequestSignature) (r : PostgresWriteSideResult) :
    Except PyException OrderEvent :=
  if r.outcome ≠ .replay then
    .error (.valueError "RETURN_PRIOR_ACCEPTED_RESULT requires a REPLAY producer result")
  else if r.idempotencyDecision.verdict ≠ .replay then
    .error (.valueError "REPLAY producer result requires a REPLAY idempotency decision")
  else match r.idempotencyDecision.record with
    | none => .error (.valueError "REPLAY producer result requires an idempotency record")
    | some record =>
      if record.signature.eq requestSignature = false then .error (.valueError
        "REPLAY idempotency record signature must equal the retained RequestSignature")
      else match r.acceptedEvent with
        | none => .error (.valueError
            "REPLAY producer result requires a producer-carried accepted event")
        | some event =>
          if event ≠ record.acceptedEvent then .error (.valueError
            "REPLAY producer result and idempotency record must carry the exact same accepted event")
          else .ok event

/-- `PostgresWriteSideCurrentResponseEvaluation._from_owner` -/
def PostgresWriteSideCurrentResponseEvaluation.fromOwner (requestSignature : RequestSignature)
    (producerResult : PyObject PostgresWriteSideResult)
    (evaluation : PostgresWriteSideRuntimeDecisionEvaluation) :
    Except PyException PostgresWriteSideCurrentResponseEvaluation :=
  match evaluation.decision.response with
  | .useCurrentResult => .ok ⟨producerResult,evaluation,some (.current producerResult)⟩
  | .returnPriorAcceptedResult => do
    let event ← exactPriorAcceptedEvent requestSignature producerResult.value
    .ok ⟨producerResult,evaluation,some (.priorAccepted event)⟩
  | .blockCurrentContinuation | .requireEscalation => .ok ⟨producerResult,evaluation,none⟩

/-- The mapping and evaluation of `evaluate_current_response`, a refusal being a delivery. -/
def currentResponse (requestSignature : RequestSignature) (outcomeId : Uuid)
    (result : PyObject PostgresWriteSideResult) :
    Except PyException PostgresWriteSideCurrentResponseDelivery := do
  let feedback ← mapPostgresWriteSideResultToSemanticRuleFeedback outcomeId result.value
  match evaluatePostgresWriteSideRuntimeDecision feedback with
  | .error refusal => .ok (.refusal ⟨result,feedback,refusal⟩)
  | .ok evaluation => do
    let e ← PostgresWriteSideCurrentResponseEvaluation.fromOwner requestSignature result evaluation
    .ok (.evaluation e)

theorem fromOwner_source {s : RequestSignature} {result : PyObject PostgresWriteSideResult}
    {evaluation : PostgresWriteSideRuntimeDecisionEvaluation}
    {d : PostgresWriteSideCurrentResponseEvaluation}
    (h : PostgresWriteSideCurrentResponseEvaluation.fromOwner s result evaluation = .ok d) :
    d.producerResult = result ∧ d.evaluation = evaluation := by
  simp only [PostgresWriteSideCurrentResponseEvaluation.fromOwner, bind, Except.bind] at h
  repeat' split at h
  all_goals first
    | cases h
      exact ⟨rfl,rfl⟩
    | cases h

/-- A delivery is about the result it was evaluated for, under the identity it was given. -/
theorem currentResponse_source {s : RequestSignature} {outcomeId : Uuid}
    {result : PyObject PostgresWriteSideResult} {delivery : PostgresWriteSideCurrentResponseDelivery}
    (h : currentResponse s outcomeId result = .ok delivery) :
    delivery.producerResult = result ∧ delivery.outcomeId = outcomeId := by
  simp only [currentResponse] at h
  cases hf : mapPostgresWriteSideResultToSemanticRuleFeedback outcomeId result.value with
  | error e => simp [hf, bind, Except.bind] at h
  | ok feedback =>
    have hid := feedback_outcomeId hf
    rw [hf, ok_bind] at h
    split at h
    · obtain rfl := Except.ok.inj h
      exact ⟨rfl,hid⟩
    · rename_i evaluation he
      cases hd : PostgresWriteSideCurrentResponseEvaluation.fromOwner s result evaluation with
      | error e => simp [hd, bind, Except.bind] at h
      | ok d =>
        rw [hd, ok_bind] at h
        obtain rfl := Except.ok.inj h
        obtain ⟨hproducer,hevaluation⟩ := fromOwner_source hd
        refine ⟨hproducer,?_⟩
        simp only [PostgresWriteSideCurrentResponseDelivery.outcomeId,
          PostgresWriteSideCurrentResponseDelivery.sourceFeedback, hevaluation, evaluate_source he, hid]

/-! ## The owner -/

/-- The amount is a `Decimal`, as the constructor checks. -/
structure PostgresWriteSideInvocationOwner where
  requestSignature : RequestSignature
  amountDecimal : ∃ amount, requestSignature.amount = .decimal amount
  initialInvocationStarted : Bool
  initialResult : Option (PyObject PostgresWriteSideResult)
  cachedReinvocationEvaluation : Option (PyObject ReinvocationAuthorityEvaluation)
  authoritySpent : Bool
  currentResponseResult : Option (PyObject PostgresWriteSideResult)
  currentResponseOutcomeId : Option Uuid
  cachedCurrentResponseDelivery : Option (PyObject PostgresWriteSideCurrentResponseDelivery)

namespace PostgresWriteSideInvocationOwner

def new (requestSignature : RequestSignature)
    (amountDecimal : ∃ amount, requestSignature.amount = .decimal amount) :
    PostgresWriteSideInvocationOwner :=
  ⟨requestSignature,amountDecimal,false,none,none,false,none,none,none⟩

/-- `_clear_current_response_state` -/
def clearCurrentResponseState (o : PostgresWriteSideInvocationOwner) :
    PostgresWriteSideInvocationOwner :=
  {o with currentResponseResult := none, currentResponseOutcomeId := none,
          cachedCurrentResponseDelivery := none}

/-- `_publish_current_response_result` -/
def publishCurrentResponseResult (o : PostgresWriteSideInvocationOwner)
    (result : PyObject PostgresWriteSideResult) : PostgresWriteSideInvocationOwner :=
  {o with currentResponseResult := some result, currentResponseOutcomeId := none,
          cachedCurrentResponseDelivery := none}

/-- The section of `invoke_initial` before the writer runs. -/
def admitInitial (o : PostgresWriteSideInvocationOwner) :
    Except PyException Unit × PostgresWriteSideInvocationOwner :=
  if o.initialInvocationStarted then
    (.error (.lifecycleError "initial invocation has already started"),o)
  else (.ok (),{o with initialInvocationStarted := true})

/-- The section of `invoke_initial` after the writer returned. -/
def publishInitial (o : PostgresWriteSideInvocationOwner) (result : PyObject PostgresWriteSideResult) :
    PostgresWriteSideInvocationOwner :=
  {o with initialResult := some result}.publishCurrentResponseResult result

/-- `evaluate_current_response`. The identity of the current result is retained before
anything that can fail. -/
def evaluateCurrentResponse (o : PostgresWriteSideInvocationOwner) (drawn : Uuid) (address : ℕ) :
    Except PyException (PyObject PostgresWriteSideCurrentResponseDelivery) ×
      PostgresWriteSideInvocationOwner :=
  match o.currentResponseResult with
  | none => (.error (.lifecycleError "no normally completed current-response result is available"),o)
  | some result => match o.cachedCurrentResponseDelivery with
    | some delivery => (.ok delivery,o)
    | none =>
      let outcomeId := o.currentResponseOutcomeId.getD drawn
      let o' := {o with currentResponseOutcomeId := some outcomeId}
      match currentResponse o.requestSignature outcomeId result with
      | .error e => (.error e,o')
      | .ok delivery => (.ok ⟨address,delivery⟩,
          {o' with cachedCurrentResponseDelivery := some ⟨address,delivery⟩})

/-- `evaluate_reinvocation_authority` -/
def evaluateReinvocationAuthority (o : PostgresWriteSideInvocationOwner) (address : ℕ) :
    Except PyException (PyObject ReinvocationAuthorityEvaluation) ×
      PostgresWriteSideInvocationOwner :=
  match o.initialResult with
  | none => (.error (.lifecycleError "initial invocation has not completed normally"),o)
  | some result => match o.cachedReinvocationEvaluation with
    | some evaluation => (.ok evaluation,o)
    | none => match ReinvocationAuthority.evaluate o.requestSignature result.value with
      | .error e => (.error e,o)
      | .ok evaluation => (.ok ⟨address,evaluation⟩,
          {o with cachedReinvocationEvaluation := some ⟨address,evaluation⟩})

/-- The section of `invoke_authorized_reinvocation` before the writer runs. -/
def spendAuthority (o : PostgresWriteSideInvocationOwner) :
    Except PyException Unit × PostgresWriteSideInvocationOwner :=
  match o.initialResult with
  | none => (.error (.lifecycleError "initial invocation has not completed normally"),o)
  | some _ => match o.cachedReinvocationEvaluation with
    | none => (.error (.lifecycleError "re-invocation authority has not been explicitly evaluated"),o)
    | some evaluation => match evaluation.value with
      | .noAuthority _ _ => (.error (.lifecycleError
          "the cached Stage 4E evaluation issued no re-invocation authority"),o)
      | .authorization _ =>
        if o.authoritySpent then
          (.error (.lifecycleError "re-invocation authority has already been spent"),o)
        else (.ok (),{o with authoritySpent := true}.clearCurrentResponseState)

/-! ## What a section can do -/

section Sections
variable (o : PostgresWriteSideInvocationOwner)

theorem admitInitial_cases :
    (∃ e, o.admitInitial = (.error e,o)) ∨
      o.initialInvocationStarted = false ∧
        o.admitInitial = (.ok (),{o with initialInvocationStarted := true}) := by
  unfold admitInitial
  cases o.initialInvocationStarted with
  | true => exact .inl ⟨_,rfl⟩
  | false => exact .inr ⟨rfl,rfl⟩

/-- Authority is spent only when it was issued, and once. -/
theorem spendAuthority_cases :
    (∃ e, o.spendAuthority = (.error e,o)) ∨
      (∃ address s, o.cachedReinvocationEvaluation = some ⟨address,.authorization s⟩) ∧
        o.authoritySpent = false ∧
        o.spendAuthority = (.ok (),{o with authoritySpent := true}.clearCurrentResponseState) := by
  unfold spendAuthority
  split
  · exact .inl ⟨_,rfl⟩
  split
  · exact .inl ⟨_,rfl⟩
  rename_i evaluation hcached
  rcases evaluation with ⟨address,value⟩
  cases value with
  | noAuthority s explanation => exact .inl ⟨_,rfl⟩
  | authorization s =>
    cases hs : o.authoritySpent with
    | true => exact .inl ⟨_,rfl⟩
    | false => exact .inr ⟨⟨address,s,hcached⟩,rfl,rfl⟩

/-- Without a current result the lifecycle error; else the cached delivery, or a new one,
or an error that leaves the identity of the result behind. -/
theorem evaluateCurrentResponse_cases (drawn : Uuid) (address : ℕ) :
    o.currentResponseResult = none ∧ o.evaluateCurrentResponse drawn address =
      (.error (.lifecycleError "no normally completed current-response result is available"),o) ∨
    ∃ result, o.currentResponseResult = some result ∧
      ((∃ delivery, o.cachedCurrentResponseDelivery = some delivery ∧
          o.evaluateCurrentResponse drawn address = (.ok delivery,o)) ∨
        o.cachedCurrentResponseDelivery = none ∧ ((∃ e, o.evaluateCurrentResponse drawn address =
          (.error e,{o with currentResponseOutcomeId := some (o.currentResponseOutcomeId.getD drawn)})) ∨
        ∃ delivery, delivery.producerResult = result ∧
          delivery.outcomeId = o.currentResponseOutcomeId.getD drawn ∧
          o.evaluateCurrentResponse drawn address = (.ok ⟨address,delivery⟩,
            {o with currentResponseOutcomeId := some (o.currentResponseOutcomeId.getD drawn),
                    cachedCurrentResponseDelivery := some ⟨address,delivery⟩}))) := by
  unfold evaluateCurrentResponse
  cases o.currentResponseResult with
  | none => exact .inl ⟨rfl,rfl⟩
  | some result =>
    refine .inr ⟨result,rfl,?_⟩
    cases o.cachedCurrentResponseDelivery with
    | some delivery => exact .inl ⟨delivery,rfl,rfl⟩
    | none =>
      refine .inr ⟨rfl,?_⟩
      simp only
      cases hr : currentResponse o.requestSignature (o.currentResponseOutcomeId.getD drawn) result with
      | error e => exact .inl ⟨e,rfl⟩
      | ok delivery =>
        obtain ⟨hproducer,hid⟩ := currentResponse_source hr
        exact .inr ⟨delivery,hproducer,hid,rfl⟩

theorem evaluateReinvocationAuthority_cases (address : ℕ) :
    (∃ e, o.evaluateReinvocationAuthority address = (.error e,o)) ∨
    (∃ evaluation, o.cachedReinvocationEvaluation = some evaluation ∧
      o.evaluateReinvocationAuthority address = (.ok evaluation,o)) ∨
    o.cachedReinvocationEvaluation = none ∧ ∃ result evaluation, o.initialResult = some result ∧
      ReinvocationAuthority.evaluate o.requestSignature result.value = .ok evaluation ∧
      o.evaluateReinvocationAuthority address = (.ok ⟨address,evaluation⟩,
        {o with cachedReinvocationEvaluation := some ⟨address,evaluation⟩}) := by
  unfold evaluateReinvocationAuthority
  cases o.initialResult with
  | none => exact .inl ⟨_,rfl⟩
  | some result =>
    cases o.cachedReinvocationEvaluation with
    | some evaluation => exact .inr (.inl ⟨evaluation,rfl,rfl⟩)
    | none =>
      simp only
      cases he : ReinvocationAuthority.evaluate o.requestSignature result.value with
      | error e => exact .inl ⟨e,rfl⟩
      | ok evaluation => exact .inr (.inr ⟨trivial,result,evaluation,rfl,he,rfl⟩)

end Sections
end PostgresWriteSideInvocationOwner
end StreamingCompass
