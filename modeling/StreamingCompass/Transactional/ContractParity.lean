import StreamingCompass.Transactional.WriteSide

/-! # The validator against the contract

What the transition rules of `ORDER_CORRECTNESS_CONTRACT_V0` say of a candidate and its
accepted context, and that the full proof validator decides exactly them.
-/
namespace StreamingCompass

/-- The transition rules a candidate and an accepted context satisfy under a contract. -/
inductive TransitionTruth (contract : OrderCorrectnessContract) (candidate : OrderEvent)
    (context : ValidationContext) : OrderCorrectnessRuleId → Prop where
  | sequence (h : candidate.sequence = context.actualPrevVersion+contract.nextSequenceIncrement) :
    TransitionTruth contract candidate context .transitionSequenceMatchesAcceptedNextVersion
  | prevEventId (h : candidate.proof.prevEventId = context.actualPrevEvent.map OrderEvent.eventId) :
    TransitionTruth contract candidate context .transitionProofPrevEventIdMatchesAccepted
  | prevVersion (h : candidate.proof.prevVersion = context.actualPrevVersion) :
    TransitionTruth contract candidate context .transitionProofPrevVersionMatchesAccepted
  | prevStatus (h : candidate.proof.prevStatus = context.actualPrevStatus) :
    TransitionTruth contract candidate context .transitionProofPrevStatusMatchesAccepted
  | supported (h : candidate.eventType ∈ contract.eventTypes) :
    TransitionTruth contract candidate context .transitionCandidateEventTypeSupported
  | legal {transitions : List AllowedTransition} {t : AllowedTransition}
    (hallowed : contract.allowedTransitions = .ok transitions) (ht : t ∈ transitions)
    (hstatus : t.predecessorStatus = context.actualPrevStatus)
    (htype : t.candidateEventType = candidate.eventType) :
    TransitionTruth contract candidate context .transitionEventTypeLegalFromAcceptedStatus

/-- The first rule of a list that does not hold. -/
def FirstViolated (holds : OrderCorrectnessRuleId → Prop) (rules : List OrderCorrectnessRuleId)
    (rule : OrderCorrectnessRuleId) : Prop :=
  ∃ before after, rules = before ++ rule :: after ∧ (∀ r ∈ before, holds r) ∧ ¬holds rule

/-- Evidence that passes when every rule holds, and else names the first that does not. -/
structure DecidedBy (holds : OrderCorrectnessRuleId → Prop) (rules : List OrderCorrectnessRuleId)
    (evidence : FullProofValidationEvidence) : Prop where
  passes : evidence.validationResult.verdict = .passed ↔ ∀ rule ∈ rules, holds rule
  clean : evidence.validationResult.verdict = .passed → evidence.observedViolation = none
  explained : evidence.validationResult.verdict ≠ .passed → ∃ violation,
    evidence.observedViolation = some violation ∧
      violation.candidateEventId = evidence.validationResult.candidateEventId ∧
      FirstViolated holds rules violation.ruleId

namespace TransitionTruth

theorem rulesOf_transitionTruth :
    orderCorrectnessContractV0.rulesOf .transitionTruth = fullProofSupportedRuleIds := by
  decide

theorem allowedTransitions_eq :
    orderCorrectnessContractV0.allowedTransitions = .ok allowedTransitionDefinitions := by
  rfl

variable {candidate : OrderEvent} {context : ValidationContext}

/-- The allowed transitions of the contract are the predecessor table of the validator. -/
theorem legal_iff : TransitionTruth orderCorrectnessContractV0 candidate context
      .transitionEventTypeLegalFromAcceptedStatus ↔
    context.actualPrevStatus = FullProofValidator.requiredPrevStatus candidate.eventType := by
  constructor
  · intro h
    cases h with
    | legal hallowed ht hstatus htype =>
      rw [allowedTransitions_eq] at hallowed
      obtain rfl := Except.ok.inj hallowed
      rw [← hstatus, ← htype]
      simp only [allowedTransitionDefinitions, List.mem_cons, List.not_mem_nil, or_false] at ht
      rcases ht with rfl | rfl
      · rfl
      · rfl
  · intro h
    cases htype : candidate.eventType with
    | created =>
      rw [htype] at h
      exact .legal allowedTransitions_eq (List.mem_cons_self ..) h.symm htype.symm
    | paid =>
      rw [htype] at h
      exact .legal allowedTransitions_eq (List.mem_cons_of_mem _ (List.mem_cons_self ..)) h.symm
        htype.symm

theorem supported_all : TransitionTruth orderCorrectnessContractV0 candidate context
    .transitionCandidateEventTypeSupported := by
  apply supported
  cases candidate.eventType with
  | created => exact List.mem_cons_self ..
  | paid => exact List.mem_cons_of_mem _ (List.mem_cons_self ..)

/-- All six rules hold of exactly the candidates that follow the context. -/
theorem all_iff : (∀ rule ∈ orderCorrectnessContractV0.rulesOf .transitionTruth,
      TransitionTruth orderCorrectnessContractV0 candidate context rule) ↔
    FollowsContext candidate context := by
  rw [rulesOf_transitionTruth]
  constructor
  · intro h
    have hlegal := h .transitionEventTypeLegalFromAcceptedStatus (by decide)
    cases h .transitionSequenceMatchesAcceptedNextVersion (by decide) with
    | sequence hsequence =>
    cases h .transitionProofPrevEventIdMatchesAccepted (by decide) with
    | prevEventId hprevEventId =>
    cases h .transitionProofPrevVersionMatchesAccepted (by decide) with
    | prevVersion hprevVersion =>
    cases h .transitionProofPrevStatusMatchesAccepted (by decide) with
    | prevStatus hprevStatus =>
    exact ⟨hsequence,hprevEventId,hprevVersion,hprevStatus,legal_iff.mp hlegal⟩
  · intro h rule hrule
    simp only [fullProofSupportedRuleIds, List.mem_cons, List.not_mem_nil, or_false] at hrule
    rcases hrule with rfl | rfl | rfl | rfl | rfl | rfl
    · exact .sequence h.sequence
    · exact .prevEventId h.prevEventId
    · exact .prevVersion h.prevVersion
    · exact .prevStatus h.prevStatus
    · exact supported_all
    · exact legal_iff.mpr h.legal

/-- The validator stops at the first violated rule, in the order of the contract. -/
theorem firstViolated {result : ValidationResult} {rule : OrderCorrectnessRuleId}
    (h : FullProofValidator.check candidate context = (result,some rule)) :
    FirstViolated (TransitionTruth orderCorrectnessContractV0 candidate context)
      (orderCorrectnessContractV0.rulesOf .transitionTruth) rule := by
  rw [rulesOf_transitionTruth]
  unfold FullProofValidator.check FullProofValidator.failed FullProofValidator.passed at h
  rw [FullProofValidator.lookup_requiredPrevStatus] at h
  split at h
  · rename_i hviolated
    cases h
    refine ⟨[],_,rfl,by simp,fun htrue => ?_⟩
    cases htrue with
    | sequence htrue => exact hviolated htrue
  · rename_i hsequence
    have hsequence : TransitionTruth orderCorrectnessContractV0 candidate context
        .transitionSequenceMatchesAcceptedNextVersion := sequence (not_not.mp hsequence)
    split at h
    · rename_i hviolated
      cases h
      refine ⟨[_],_,rfl,by simpa using hsequence,fun htrue => ?_⟩
      cases htrue with
      | prevEventId htrue => exact hviolated htrue
    · rename_i hprevEventId
      have hprevEventId : TransitionTruth orderCorrectnessContractV0 candidate context
          .transitionProofPrevEventIdMatchesAccepted := prevEventId (not_not.mp hprevEventId)
      split at h
      · rename_i hviolated
        cases h
        refine ⟨[_,_],_,rfl,by simpa using ⟨hsequence,hprevEventId⟩,fun htrue => ?_⟩
        cases htrue with
        | prevVersion htrue => exact hviolated htrue
      · rename_i hprevVersion
        have hprevVersion : TransitionTruth orderCorrectnessContractV0 candidate context
            .transitionProofPrevVersionMatchesAccepted := prevVersion (not_not.mp hprevVersion)
        split at h
        · rename_i hviolated
          cases h
          refine ⟨[_,_,_],_,rfl,by simpa using ⟨hsequence,hprevEventId,hprevVersion⟩,
            fun htrue => ?_⟩
          cases htrue with
          | prevStatus htrue => exact hviolated htrue
        · rename_i hprevStatus
          have hprevStatus : TransitionTruth orderCorrectnessContractV0 candidate context
              .transitionProofPrevStatusMatchesAccepted := prevStatus (not_not.mp hprevStatus)
          dsimp only at h
          split at h
          · rename_i hviolated
            cases h
            exact ⟨[_,_,_,_,_],_,rfl,
              by simpa using ⟨hsequence,hprevEventId,hprevVersion,hprevStatus,supported_all⟩,
              fun htrue => hviolated (legal_iff.mp htrue)⟩
          · cases h

end TransitionTruth

/-- The evidence of an identified candidate is decided by the transition rules. -/
theorem decidedBy_contract {candidate : OrderEvent} {context : ValidationContext}
    {evidence : FullProofValidationEvidence} (hid : isBlank candidate.eventId = false)
    (h : FullProofValidator.validateWithRuleEvidence candidate context = .ok evidence) :
    DecidedBy (TransitionTruth orderCorrectnessContractV0 candidate context)
      (orderCorrectnessContractV0.rulesOf .transitionTruth) evidence := by
  rw [FullProofValidator.validateWithRuleEvidence_eq hid] at h
  obtain rfl := Except.ok.inj h
  refine ⟨validate_passed_iff.trans TransitionTruth.all_iff.symm,fun hpassed => ?_,fun hfailed => ?_⟩
  · rcases FullProofValidator.check_cases candidate context with ⟨-,hc⟩ | ⟨hnot,-⟩
    · rw [hc]
      rfl
    · exact absurd (validate_passed_iff.mp hpassed) hnot
  · rcases FullProofValidator.check_cases candidate context with ⟨hfollows,-⟩ | ⟨-,reason,rule,-,hc⟩
    · exact absurd (validate_passed_iff.mpr hfollows) hfailed
    · refine ⟨FullProofValidator.violationOf candidate rule,?_,?_,TransitionTruth.firstViolated hc⟩
      · rw [hc]
        rfl
      · rw [FullProofValidator.validate, hc]
        rfl

/-- A candidate that passes in the context of an aggregate is applied to it. -/
theorem OrderAggregate.apply_of_follows {a : OrderAggregate} {candidate : OrderEvent}
    {previous : Option OrderEvent} (horder : candidate.orderId = a.orderId)
    (h : FollowsContext candidate (buildValidationContext a previous)) :
    a.apply candidate = .ok (a.applied candidate) :=
  apply_eq_ok.mpr ⟨horder,h.sequence,rfl⟩

/-- A decision agrees with its variant, unless the variant has to name a candidate without an id. -/
theorem decideWithRuleEvidence_agrees {mode : ValidationMode} {candidate : OrderEvent}
    (context : ValidationContext) (h : isBlank candidate.eventId = false ∨ mode = .off) :
    ∃ carrier, decideWithRuleEvidence mode candidate context = .ok carrier ∧
      carrier.decision = decideValidation mode candidate context := by
  rcases h with hid | rfl
  · have hagree := @decideWithRuleEvidence_decision mode candidate context hid
    cases hc : decideWithRuleEvidence mode candidate context with
    | error err =>
      rw [hc] at hagree
      cases hagree
    | ok carrier =>
      rw [hc] at hagree
      exact ⟨carrier,rfl,Except.ok.inj hagree⟩
  · exact ⟨_,rfl,rfl⟩

/-- The full proof validator decides the transition rules of the contract. -/
theorem fullProof_decides_contract (candidate : OrderEvent) (context : ValidationContext) :
    (isBlank candidate.eventId = false →
      ∃ evidence, FullProofValidator.validateWithRuleEvidence candidate context = .ok evidence ∧
        DecidedBy (TransitionTruth orderCorrectnessContractV0 candidate context)
          (orderCorrectnessContractV0.rulesOf .transitionTruth) evidence ∧
        evidence.validationResult = FullProofValidator.validate candidate context) ∧
    (∀ mode, isBlank candidate.eventId = false ∨ mode = .off →
      ∃ carrier, decideWithRuleEvidence mode candidate context = .ok carrier ∧
        carrier.decision = decideValidation mode candidate context) ∧
    ∀ history a, rehydrate candidate.orderId history = .ok a →
      context = buildValidationContext a history.getLast? →
      (FullProofValidator.validate candidate context).verdict = .passed →
      ∃ a', rehydrate candidate.orderId (history ++ [candidate]) = .ok a' := by
  refine ⟨fun hid => ?_,fun mode h => decideWithRuleEvidence_agrees context h,?_⟩
  · have he := FullProofValidator.validateWithRuleEvidence_eq hid context
    exact ⟨_,he,decidedBy_contract hid he,rfl⟩
  · rintro history a ha rfl hpassed
    have happly := OrderAggregate.apply_of_follows (rehydrate_orderId ha).symm
      (validate_passed_iff.mp hpassed)
    rw [rehydrate_append, ha]
    exact ⟨_,happly⟩

/-- A creation, the payment that follows it, and the aggregate between them. -/
def firstCreation : OrderEvent :=
  ⟨"e-1","r-1","o-1",1,.created,.ofCents false 1000,0,⟨.init,0,none⟩⟩
def firstPayment : OrderEvent :=
  ⟨"e-2","r-2","o-1",2,.paid,.ofCents false 1000,0,⟨.created,1,some "e-1"⟩⟩
def createdAggregate : OrderAggregate :=
  ⟨"o-1",1,.created,.ofCents false 1000,.zero,some "e-1"⟩

theorem fullProof_decides_contract_payment :
    (∃ evidence, FullProofValidator.validateWithRuleEvidence firstPayment
        (buildValidationContext createdAggregate (some firstCreation)) = .ok evidence ∧
      evidence.observedViolation = none) ∧
    ∃ a, rehydrate "o-1" [firstCreation,firstPayment] = .ok a := by
  have hpassed : (FullProofValidator.validate firstPayment
      (buildValidationContext createdAggregate (some firstCreation))).verdict = .passed := by
    decide
  obtain ⟨hidentified,-,hextends⟩ := fullProof_decides_contract firstPayment
    (buildValidationContext createdAggregate (some firstCreation))
  obtain ⟨evidence,he,hdecided,hsame⟩ := hidentified (by decide +kernel)
  exact ⟨⟨evidence,he,hdecided.clean (hsame ▸ hpassed)⟩,
    hextends [firstCreation] createdAggregate (by decide +kernel) rfl hpassed⟩

/-- A payment without an id is judged, and its evidence refused. -/
def unnamedPayment : OrderEvent := {firstPayment with eventId := " "}

theorem fullProof_unnamed_disagrees :
    (FullProofValidator.validate unnamedPayment
        (buildValidationContext createdAggregate (some firstCreation))).verdict = .passed ∧
      (decideValidation .strict unnamedPayment
        (buildValidationContext createdAggregate (some firstCreation))).action = .allow ∧
    ∃ message, FullProofValidator.validateWithRuleEvidence unnamedPayment
        (buildValidationContext createdAggregate (some firstCreation)) =
          .error (.valueError message) ∧
      decideWithRuleEvidence .strict unnamedPayment
        (buildValidationContext createdAggregate (some firstCreation)) =
          .error (.valueError message) := by
  have hid : isBlank unnamedPayment.eventId = true := by decide +kernel
  obtain ⟨message,hrefused⟩ := FullProofValidator.validateWithRuleEvidence_blank hid
    (buildValidationContext createdAggregate (some firstCreation))
  refine ⟨by decide,by decide,message,hrefused,?_⟩
  simp only [decideWithRuleEvidence, hrefused]
  rfl

end StreamingCompass
