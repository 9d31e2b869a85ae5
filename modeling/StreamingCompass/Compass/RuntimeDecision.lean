import StreamingCompass.Compass.WriteSideOutcome

/-! # Runtime decisions on the write side

`write_side_rule_feedback.py`, `runtime_decision.py` and `write_side_runtime_decision.py`: a
result as semantic feedback with the rule that blocked it, and the response decided for it.
-/
namespace StreamingCompass

/-- `observed_rule_violation` -/
def PostgresWriteSideResult.observedRuleViolation (r : PostgresWriteSideResult) :
    Option OrderRuleViolationEvidence :=
  r.validationDecisionEvidence.bind (fun carrier => carrier.observedViolation)

/-! ## Feedback -/

structure PostgresWriteSideSemanticRuleFeedback where
  semanticOutcome : SemanticOutcome
  ruleRefinement : Option OrderRuleViolationEvidence
deriving DecidableEq, Repr

/-- Only a validation block is refined, and then it must be. -/
def PostgresWriteSideSemanticRuleFeedback.fromSource (outcome : SemanticOutcome)
    (r : PostgresWriteSideResult) : Except PyException PostgresWriteSideSemanticRuleFeedback :=
  if r.outcome = .validationBlocked then
    match r.observedRuleViolation with
    | none => .error (.valueError ("VALIDATION_BLOCKED requires Order rule evidence " ++
        "for semantic rule refinement"))
    | some violation => .ok ⟨outcome,some violation⟩
  else .ok ⟨outcome,none⟩

def mapPostgresWriteSideResultToSemanticRuleFeedback (outcomeId : Uuid) (r : PostgresWriteSideResult) :
    Except PyException PostgresWriteSideSemanticRuleFeedback := do
  let outcome ← mapPostgresWriteSideResultToSemanticOutcome outcomeId r
  PostgresWriteSideSemanticRuleFeedback.fromSource outcome r

theorem feedback_outcomeId {outcomeId : Uuid} {r : PostgresWriteSideResult}
    {feedback : PostgresWriteSideSemanticRuleFeedback}
    (h : mapPostgresWriteSideResultToSemanticRuleFeedback outcomeId r = .ok feedback) :
    feedback.semanticOutcome.outcomeId = outcomeId := by
  simp only [mapPostgresWriteSideResultToSemanticRuleFeedback] at h
  cases ho : mapPostgresWriteSideResultToSemanticOutcome outcomeId r with
  | error e => simp [ho, bind, Except.bind] at h
  | ok outcome =>
    rw [ho, ok_bind] at h
    simp only [PostgresWriteSideSemanticRuleFeedback.fromSource] at h
    repeat' split at h
    · cases h
    · obtain rfl := Except.ok.inj h
      exact mapped_outcomeId ho
    · obtain rfl := Except.ok.inj h
      exact mapped_outcomeId ho

/-! ## Decisions -/

inductive RuntimeDecisionResponse where
  | useCurrentResult | returnPriorAcceptedResult | blockCurrentContinuation | requireEscalation
deriving DecidableEq, Repr

/-- A response, with the explanation its constructor demands. -/
structure RuntimeDecision where
  response : RuntimeDecisionResponse
  semanticOutcome : SemanticOutcome
  explanation : String
  explained : isBlank explanation = false
deriving Repr

instance : DecidableEq RuntimeDecision := fun a b =>
  decidable_of_iff (a.response = b.response ∧ a.semanticOutcome = b.semanticOutcome ∧
    a.explanation = b.explanation) (by cases a; cases b; simp)

/-- A decision on the very outcome of its feedback. -/
structure PostgresWriteSideRuntimeDecisionEvaluation where
  decision : RuntimeDecision
  sourceFeedback : PostgresWriteSideSemanticRuleFeedback
  exact : decision.semanticOutcome = sourceFeedback.semanticOutcome
deriving DecidableEq, Repr

/-- The error of a feedback outside the reviewed cases. -/
structure PostgresWriteSideRuntimeDecisionRefused where
  message : String
deriving DecidableEq, Repr

/-- `_SUPPORTED_RESPONSES` -/
def supportedResponses : List ((SemanticBoundary × SemanticOutcomeCategory × SemanticOutcomeCode) ×
    RuntimeDecisionResponse) :=
  [((.layer1WriteSide,.valid,.semanticallyValid),.useCurrentResult),
   ((.layer1WriteSide,.retryClassified,.idempotentReplayAllowed),.returnPriorAcceptedResult),
   ((.layer1WriteSide,.blockRequired,.semanticConflictDetected),.blockCurrentContinuation),
   ((.layer1WriteSide,.escalationRequired,.requiresOperatorReview),.requireEscalation)]

/-- `_SUPPORTED_RESPONSES.get(semantic_key)` -/
def supportedResponse (boundary : SemanticBoundary) (category : SemanticOutcomeCategory)
    (semanticCode : SemanticOutcomeCode) : Option RuntimeDecisionResponse :=
  (supportedResponses.find? (fun item => item.1 == (boundary,category,semanticCode))).map
    (fun item => item.2)

/-- `_explain_response` -/
def explainResponse (response : RuntimeDecisionResponse)
    (feedback : PostgresWriteSideSemanticRuleFeedback) : String :=
  match response with
  | .useCurrentResult => "The caller may use or return the already-completed current result; " ++
      "this decision does not authorize candidate append admission."
  | .returnPriorAcceptedResult => "The caller may return the prior accepted result; this decision " ++
      "does not authorize another attempt or retry."
  | .requireEscalation => "The current condition requires escalation; this decision does not " ++
      "execute an operator workflow."
  | .blockCurrentContinuation => match feedback.ruleRefinement with
    | none => "Current downstream continuation is blocked by a semantic " ++
        "conflict; this decision authorizes no repair, regeneration, reload, retry, or another attempt."
    | some refinement => "Current downstream continuation is blocked by a semantic conflict " ++
        ("refined by terminal Order rule " ++ refinement.ruleId.value ++
          "; this decision authorizes no repair, regeneration, reload, retry, or another attempt.")

theorem explainResponse_not_blank (response : RuntimeDecisionResponse)
    (feedback : PostgresWriteSideSemanticRuleFeedback) :
    isBlank (explainResponse response feedback) = false := by
  cases response with
  | blockCurrentContinuation =>
    unfold explainResponse
    cases feedback.ruleRefinement with
    | none => exact isBlank_append (by decide)
    | some refinement => exact isBlank_append (by decide)
  | _ => exact isBlank_append (by decide)

def evaluatePostgresWriteSideRuntimeDecision (feedback : PostgresWriteSideSemanticRuleFeedback) :
    Except PostgresWriteSideRuntimeDecisionRefused PostgresWriteSideRuntimeDecisionEvaluation :=
  let outcome := feedback.semanticOutcome
  match supportedResponse outcome.boundary outcome.category outcome.semanticCode with
  | none => .error ⟨"no authoritative RuntimeDecision exists for semantic tuple " ++
      outcome.boundary.value ++ "/" ++ outcome.category.value ++ "/" ++ outcome.semanticCode.value⟩
  | some response =>
    if feedback.ruleRefinement.isSome ∧ response ≠ .blockCurrentContinuation then
      .error ⟨"terminal Order-rule refinement is only coherent with the " ++
        "reviewed block-current-continuation response family"⟩
    else .ok ⟨⟨response,outcome,explainResponse response feedback,
      explainResponse_not_blank response feedback⟩,feedback,rfl⟩

theorem evaluate_source {feedback : PostgresWriteSideSemanticRuleFeedback}
    {e : PostgresWriteSideRuntimeDecisionEvaluation}
    (h : evaluatePostgresWriteSideRuntimeDecision feedback = .ok e) : e.sourceFeedback = feedback := by
  simp only [evaluatePostgresWriteSideRuntimeDecision] at h
  split at h
  · cases h
  · split at h
    · cases h
    · obtain rfl := Except.ok.inj h
      rfl

/-- The response to feedback whose rule, if any, goes with a block. -/
theorem evaluate_supported {feedback : PostgresWriteSideSemanticRuleFeedback}
    {response : RuntimeDecisionResponse}
    (hs : supportedResponse feedback.semanticOutcome.boundary feedback.semanticOutcome.category
      feedback.semanticOutcome.semanticCode = some response)
    (hr : feedback.ruleRefinement = none ∨ response = .blockCurrentContinuation) :
    ∃ evaluation, evaluatePostgresWriteSideRuntimeDecision feedback = .ok evaluation ∧
      evaluation.decision.response = response ∧ evaluation.sourceFeedback = feedback := by
  have hcoherent : ¬(feedback.ruleRefinement.isSome ∧ response ≠ .blockCurrentContinuation) := by
    rintro ⟨hsome,hne⟩
    rcases hr with hr | hr
    · simp [hr] at hsome
    · exact hne hr
  simp only [evaluatePostgresWriteSideRuntimeDecision, hs, if_neg hcoherent]
  exact ⟨_,rfl,rfl,rfl⟩

theorem evaluate_unsupported {feedback : PostgresWriteSideSemanticRuleFeedback}
    (hs : supportedResponse feedback.semanticOutcome.boundary feedback.semanticOutcome.category
      feedback.semanticOutcome.semanticCode = none) :
    ∃ refusal, evaluatePostgresWriteSideRuntimeDecision feedback = .error refusal := by
  simp only [evaluatePostgresWriteSideRuntimeDecision, hs]
  exact ⟨_,rfl⟩

end StreamingCompass
