import StreamingCompass.Core.CorrectnessContract

/-! # Transition validation

The Layer 1 validators, policy and runtime of `compass/transition`. Timings and the
free-form metadata of a result are left out: no caller reads them.
-/
namespace StreamingCompass

inductive ValidationMode where | strict | off
deriving DecidableEq, Repr
inductive ValidationVerdict where | passed | failed | skipped
deriving DecidableEq, Repr
inductive EnforcementAction where | allow | block
deriving DecidableEq, Repr

structure ValidationResult where
  verdict : ValidationVerdict
  reason : String
  candidateEventId : String
  validatorName : String
  validationMode : ValidationMode
deriving DecidableEq, Repr

structure ValidationDecision where
  action : EnforcementAction
  validationResult : ValidationResult
deriving DecidableEq, Repr

structure ValidationContext where
  actualPrevEvent : Option OrderEvent
  actualPrevVersion : ℤ
  actualPrevStatus : OrderStatus
deriving DecidableEq, Repr

/-- `FULL_PROOF_SUPPORTED_RULE_IDS` -/
def fullProofSupportedRuleIds : List OrderCorrectnessRuleId :=
  [.transitionSequenceMatchesAcceptedNextVersion,.transitionProofPrevEventIdMatchesAccepted,
    .transitionProofPrevVersionMatchesAccepted,.transitionProofPrevStatusMatchesAccepted,
    .transitionCandidateEventTypeSupported,.transitionEventTypeLegalFromAcceptedStatus]

structure FullProofValidationEvidence where
  validationResult : ValidationResult
  observedViolation : Option OrderRuleViolationEvidence
deriving DecidableEq, Repr

/-- `FullProofValidationEvidence(...)` with its coherence checks. -/
def FullProofValidationEvidence.new (result : ValidationResult)
    (violation : Option OrderRuleViolationEvidence) :
    Except PyException FullProofValidationEvidence :=
  if isBlank result.candidateEventId then
    .error (.valueError "validation_result.candidate_event_id must be a non-empty string")
  else match result.verdict, violation with
    | .passed, some _ => .error (.valueError "PASSED validation must not include observed_violation")
    | .passed, none => .ok ⟨result,none⟩
    | .skipped, _ =>
      .error (.valueError "FullProofValidationEvidence supports only PASSED or FAILED")
    | .failed, none => .error (.valueError "FAILED validation must include observed_violation")
    | .failed, some v =>
      if v.ruleId ∉ fullProofSupportedRuleIds then
        .error (.valueError ("observed_violation rule_id is not supported by " ++
          "FullProofValidator evidence"))
      else if v.candidateEventId ≠ result.candidateEventId then
        .error (.valueError ("observed_violation and validation_result must identify the " ++
          "same candidate event"))
      else .ok ⟨result,some v⟩

/-- A decision with the rule violation its producer observed. -/
structure ValidationDecisionWithRuleEvidence where
  decision : ValidationDecision
  observedViolation : Option OrderRuleViolationEvidence
deriving DecidableEq, Repr

namespace NoOpValidator

def validate (candidate : OrderEvent) (_context : ValidationContext) : ValidationResult :=
  ⟨.skipped,"Validation skipped because validation mode is OFF",candidate.eventId,
    "NoOpValidator",.off⟩

end NoOpValidator

namespace FullProofValidator

/-- `REQUIRED_PREV_STATUS_BY_EVENT_TYPE` -/
def requiredPrevStatusByEventType : List (EventType × OrderStatus) :=
  [(.created,.init),(.paid,.created)]

def failed (candidate : OrderEvent) (reason : String) (rule : OrderCorrectnessRuleId) :
    ValidationResult × Option OrderCorrectnessRuleId :=
  (⟨.failed,reason,candidate.eventId,"FullProofValidator",.strict⟩,some rule)

def passed (candidate : OrderEvent) : ValidationResult × Option OrderCorrectnessRuleId :=
  (⟨.passed,"Event passed full proof transition validation",candidate.eventId,
    "FullProofValidator",.strict⟩,none)

/-- `_validate`: the branch tree shared by both result views. -/
def check (candidate : OrderEvent) (context : ValidationContext) :
    ValidationResult × Option OrderCorrectnessRuleId :=
  if candidate.sequence ≠ context.actualPrevVersion+1 then
    failed candidate ("Sequence violation: got " ++ toString candidate.sequence ++ ", expected " ++
      toString (context.actualPrevVersion+1)) .transitionSequenceMatchesAcceptedNextVersion
  else if candidate.proof.prevEventId ≠ context.actualPrevEvent.map OrderEvent.eventId then
    failed candidate "Predecessor mismatch: prev_event_id does not match actual previous event"
      .transitionProofPrevEventIdMatchesAccepted
  else if candidate.proof.prevVersion ≠ context.actualPrevVersion then
    failed candidate "Proof mismatch: prev_version does not match actual history"
      .transitionProofPrevVersionMatchesAccepted
  else if candidate.proof.prevStatus ≠ context.actualPrevStatus then
    failed candidate "Proof mismatch: prev_status does not match actual history"
      .transitionProofPrevStatusMatchesAccepted
  else match requiredPrevStatusByEventType.lookup candidate.eventType with
    | none => failed candidate ("Unsupported event type: " ++ candidate.eventType.value)
        .transitionCandidateEventTypeSupported
    | some required =>
      if context.actualPrevStatus ≠ required then
        failed candidate ("Invalid transition: " ++ candidate.eventType.value ++
          " requires prev_status=" ++ required.value ++
          ", but actual_prev_status=" ++ context.actualPrevStatus.value)
          .transitionEventTypeLegalFromAcceptedStatus
      else passed candidate

def validate (candidate : OrderEvent) (context : ValidationContext) : ValidationResult :=
  (check candidate context).1

def validateWithRuleEvidence (candidate : OrderEvent) (context : ValidationContext) :
    Except PyException FullProofValidationEvidence :=
  match check candidate context with
  | (result,none) => FullProofValidationEvidence.new result none
  | (result,some rule) => do
    let violation ← OrderRuleViolationEvidence.new orderCorrectnessContractV0.contractId
      orderCorrectnessContractV0.contractVersion rule candidate.eventId
    FullProofValidationEvidence.new result (some violation)

/-- The predecessor status of an event type; the lifecycle has one for each. -/
def requiredPrevStatus : EventType → OrderStatus
  | .created => .init
  | .paid => .created

@[simp] theorem lookup_requiredPrevStatus (eventType : EventType) :
    requiredPrevStatusByEventType.lookup eventType = some (requiredPrevStatus eventType) := by
  cases eventType <;> rfl

end FullProofValidator

/-- `ValidationPolicy.decide` -/
def policyDecide (result : ValidationResult) : EnforcementAction :=
  if result.verdict = .failed then .block else .allow

/-- `ValidationRuntime.decide` -/
def decideValidation (mode : ValidationMode) (candidate : OrderEvent)
    (context : ValidationContext) : ValidationDecision :=
  let result := match mode with
    | .off => NoOpValidator.validate candidate context
    | .strict => FullProofValidator.validate candidate context
  ⟨policyDecide result,result⟩

/-- `ValidationRuntime.decide_with_rule_evidence` -/
def decideWithRuleEvidence (mode : ValidationMode) (candidate : OrderEvent)
    (context : ValidationContext) : Except PyException ValidationDecisionWithRuleEvidence :=
  match mode with
  | .strict => do
    let evidence ← FullProofValidator.validateWithRuleEvidence candidate context
    .ok ⟨⟨policyDecide evidence.validationResult,evidence.validationResult⟩,
      evidence.observedViolation⟩
  | .off =>
    let result := NoOpValidator.validate candidate context
    .ok ⟨⟨policyDecide result,result⟩,none⟩

/-- What a candidate must satisfy to pass the full proof validator. -/
structure FollowsContext (candidate : OrderEvent) (context : ValidationContext) : Prop where
  sequence : candidate.sequence = context.actualPrevVersion+1
  prevEventId : candidate.proof.prevEventId = context.actualPrevEvent.map OrderEvent.eventId
  prevVersion : candidate.proof.prevVersion = context.actualPrevVersion
  prevStatus : candidate.proof.prevStatus = context.actualPrevStatus
  legal : context.actualPrevStatus = FullProofValidator.requiredPrevStatus candidate.eventType

namespace FullProofValidator

/-- The validator passes a candidate that follows the context, and fails any other with a
rule it may report. -/
theorem check_cases (candidate : OrderEvent) (context : ValidationContext) :
    FollowsContext candidate context ∧ check candidate context = passed candidate ∨
      ¬FollowsContext candidate context ∧ ∃ reason rule, rule ∈ fullProofSupportedRuleIds ∧
        check candidate context = failed candidate reason rule := by
  unfold check
  rw [lookup_requiredPrevStatus]
  split
  · rename_i hviolated
    exact .inr ⟨fun h => hviolated h.sequence,_,_,by decide,rfl⟩
  · rename_i hsequence
    split
    · rename_i hviolated
      exact .inr ⟨fun h => hviolated h.prevEventId,_,_,by decide,rfl⟩
    · rename_i hprevEventId
      split
      · rename_i hviolated
        exact .inr ⟨fun h => hviolated h.prevVersion,_,_,by decide,rfl⟩
      · rename_i hprevVersion
        split
        · rename_i hviolated
          exact .inr ⟨fun h => hviolated h.prevStatus,_,_,by decide,rfl⟩
        · rename_i hprevStatus
          dsimp only
          split
          · rename_i hviolated
            exact .inr ⟨fun h => hviolated h.legal,_,_,by decide,rfl⟩
          · rename_i hlegal
            exact .inl ⟨⟨not_not.mp hsequence,not_not.mp hprevEventId,not_not.mp hprevVersion,
              not_not.mp hprevStatus,not_not.mp hlegal⟩,rfl⟩

/-- The record of a violation the validator reports. -/
def violationOf (candidate : OrderEvent) (rule : OrderCorrectnessRuleId) : OrderRuleViolationEvidence :=
  ⟨orderCorrectnessContractV0.contractId,orderCorrectnessContractV0.contractVersion,rule,
    candidate.eventId⟩

/-- The evidence records of an identified candidate are coherent, so both are built. -/
theorem validateWithRuleEvidence_eq {candidate : OrderEvent} (hid : isBlank candidate.eventId = false)
    (context : ValidationContext) :
    validateWithRuleEvidence candidate context =
      .ok ⟨validate candidate context,(check candidate context).2.map (violationOf candidate)⟩ := by
  unfold validateWithRuleEvidence validate
  rcases check_cases candidate context with ⟨-,h⟩ | ⟨-,reason,rule,hrule,h⟩
  · rw [h]
    simp [passed, FullProofValidationEvidence.new, hid]
  · rw [h]
    simp [failed, FullProofValidationEvidence.new, OrderRuleViolationEvidence.new, violationOf, hid,
      hrule, bind, Except.bind]

/-- They refuse a candidate without identity. -/
theorem validateWithRuleEvidence_blank {candidate : OrderEvent} (hid : isBlank candidate.eventId = true)
    (context : ValidationContext) :
    ∃ message, validateWithRuleEvidence candidate context = .error (.valueError message) := by
  unfold validateWithRuleEvidence
  rcases check_cases candidate context with ⟨-,h⟩ | ⟨-,reason,rule,-,h⟩
  · rw [h]
    simp [passed, FullProofValidationEvidence.new, hid]
  · rw [h]
    simp [failed, OrderRuleViolationEvidence.new, hid, bind, Except.bind]

end FullProofValidator

/-- The full proof validator passes exactly the candidates that follow the context. -/
theorem validate_passed_iff {candidate : OrderEvent} {context : ValidationContext} :
    (FullProofValidator.validate candidate context).verdict = .passed ↔
      FollowsContext candidate context := by
  rcases FullProofValidator.check_cases candidate context with ⟨h,hcheck⟩ | ⟨h,reason,rule,-,hcheck⟩
  · rw [FullProofValidator.validate, hcheck]
    exact iff_of_true rfl h
  · rw [FullProofValidator.validate, hcheck]
    exact iff_of_false (by simp [FullProofValidator.failed]) h

/-- A candidate that follows the context is allowed, whatever the mode. -/
theorem decideValidation_allow {mode : ValidationMode} {candidate : OrderEvent}
    {context : ValidationContext} (h : FollowsContext candidate context) :
    (decideValidation mode candidate context).action = .allow := by
  cases mode with
  | off => rfl
  | strict => simp [decideValidation, policyDecide, validate_passed_iff.mpr h]

/-- Both views of the runtime agree on the decision for an identified candidate. -/
theorem decideWithRuleEvidence_decision {mode : ValidationMode} {candidate : OrderEvent}
    {context : ValidationContext} (hid : isBlank candidate.eventId = false) :
    (decideWithRuleEvidence mode candidate context).map (fun c => c.decision) =
      .ok (decideValidation mode candidate context) := by
  cases mode with
  | off => rfl
  | strict =>
    simp only [decideWithRuleEvidence, FullProofValidator.validateWithRuleEvidence_eq hid]
    rfl

end StreamingCompass
