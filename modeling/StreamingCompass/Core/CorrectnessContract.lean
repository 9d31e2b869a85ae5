import StreamingCompass.Core.Order

/-! # The order correctness contract

`correctness_contract.py` and `rule_violation_evidence.py`: the rules of the order domain as
data, and the record of one observed violation. The propositions in prose and the money
parameters are not read here.
-/
namespace StreamingCompass

/-- Identities of the known rules. -/
inductive OrderCorrectnessRuleId where
  | createAllowedFromInit
  | payAllowedFromCreated
  | createNormalizedAmountPositive
  | payNormalizedAmountPositive
  | payNormalizedAmountEqualsTotal
  | candidateSequenceIsNextAggregateVersion
  | candidateProofDerivedFromAggregatePredecessor
  | trustedApplicationEventOrderIdMatchesAggregate
  | trustedApplicationEventSequenceIsNextVersion
  | trustedApplicationCreatedEstablishesState
  | trustedApplicationPaidEstablishesState
  | trustedApplicationUpdatesAggregateHistoryHead
  | transitionSequenceMatchesAcceptedNextVersion
  | transitionProofPrevEventIdMatchesAccepted
  | transitionProofPrevVersionMatchesAccepted
  | transitionProofPrevStatusMatchesAccepted
  | transitionCandidateEventTypeSupported
  | transitionEventTypeLegalFromAcceptedStatus
deriving DecidableEq, Repr

def OrderCorrectnessRuleId.value : OrderCorrectnessRuleId → String
  | .createAllowedFromInit => "order.command.create.allowed-from-init"
  | .payAllowedFromCreated => "order.command.pay.allowed-from-created"
  | .createNormalizedAmountPositive => "order.command.create.normalized-amount-positive"
  | .payNormalizedAmountPositive => "order.command.pay.normalized-amount-positive"
  | .payNormalizedAmountEqualsTotal => "order.command.pay.normalized-amount-equals-total"
  | .candidateSequenceIsNextAggregateVersion =>
    "order.candidate.sequence-is-next-aggregate-version"
  | .candidateProofDerivedFromAggregatePredecessor =>
    "order.candidate.proof-derived-from-aggregate-predecessor"
  | .trustedApplicationEventOrderIdMatchesAggregate =>
    "order.trusted-application.event-order-id-matches-aggregate"
  | .trustedApplicationEventSequenceIsNextVersion =>
    "order.trusted-application.event-sequence-is-next-version"
  | .trustedApplicationCreatedEstablishesState =>
    "order.trusted-application.created-establishes-state"
  | .trustedApplicationPaidEstablishesState => "order.trusted-application.paid-establishes-state"
  | .trustedApplicationUpdatesAggregateHistoryHead =>
    "order.trusted-application.updates-aggregate-history-head"
  | .transitionSequenceMatchesAcceptedNextVersion =>
    "order.transition.sequence-matches-accepted-next-version"
  | .transitionProofPrevEventIdMatchesAccepted =>
    "order.transition.proof-prev-event-id-matches-accepted"
  | .transitionProofPrevVersionMatchesAccepted =>
    "order.transition.proof-prev-version-matches-accepted"
  | .transitionProofPrevStatusMatchesAccepted =>
    "order.transition.proof-prev-status-matches-accepted"
  | .transitionCandidateEventTypeSupported => "order.transition.candidate-event-type-supported"
  | .transitionEventTypeLegalFromAcceptedStatus =>
    "order.transition.event-type-legal-from-accepted-status"

inductive CorrectnessCategory where
  | commandLegality | candidateConstruction | trustedApplication | transitionTruth
deriving DecidableEq, Repr

/-- The category of `_RULE_DEFINITIONS`. -/
def OrderCorrectnessRuleId.category : OrderCorrectnessRuleId → CorrectnessCategory
  | .createAllowedFromInit | .payAllowedFromCreated | .createNormalizedAmountPositive
  | .payNormalizedAmountPositive | .payNormalizedAmountEqualsTotal => .commandLegality
  | .candidateSequenceIsNextAggregateVersion
  | .candidateProofDerivedFromAggregatePredecessor => .candidateConstruction
  | .trustedApplicationEventOrderIdMatchesAggregate
  | .trustedApplicationEventSequenceIsNextVersion
  | .trustedApplicationCreatedEstablishesState
  | .trustedApplicationPaidEstablishesState
  | .trustedApplicationUpdatesAggregateHistoryHead => .trustedApplication
  | .transitionSequenceMatchesAcceptedNextVersion
  | .transitionProofPrevEventIdMatchesAccepted
  | .transitionProofPrevVersionMatchesAccepted
  | .transitionProofPrevStatusMatchesAccepted
  | .transitionCandidateEventTypeSupported
  | .transitionEventTypeLegalFromAcceptedStatus => .transitionTruth

structure AllowedTransition where
  legalityRuleId : OrderCorrectnessRuleId
  command : CommandType
  predecessorStatus : OrderStatus
  candidateEventType : EventType
  resultingStatus : OrderStatus
deriving DecidableEq, Repr

/-- `_ALLOWED_TRANSITION_DEFINITIONS` -/
def allowedTransitionDefinitions : List AllowedTransition :=
  [⟨.createAllowedFromInit,.create,.init,.created,.created⟩,
    ⟨.payAllowedFromCreated,.pay,.created,.paid,.paid⟩]

def AllowedTransition.fromRuleId (ruleId : OrderCorrectnessRuleId) :
    Except PyException AllowedTransition :=
  match allowedTransitionDefinitions.find? (fun t => t.legalityRuleId = ruleId) with
  | none => .error (.valueError "rule_id has no authoritative allowed-transition definition")
  | some t => .ok t

structure OrderCorrectnessContract where
  contractId : String
  contractVersion : ℕ
  eventTypes : List EventType
  nextSequenceIncrement : ℕ
  ruleIds : List OrderCorrectnessRuleId
  transitionRuleIds : List OrderCorrectnessRuleId

/-- `ORDER_CORRECTNESS_CONTRACT_V0` -/
def orderCorrectnessContractV0 : OrderCorrectnessContract where
  contractId := "order.correctness"
  contractVersion := 0
  eventTypes := [.created,.paid]
  nextSequenceIncrement := 1
  ruleIds := [.createAllowedFromInit,.payAllowedFromCreated,.createNormalizedAmountPositive,
    .payNormalizedAmountPositive,.payNormalizedAmountEqualsTotal,
    .candidateSequenceIsNextAggregateVersion,.candidateProofDerivedFromAggregatePredecessor,
    .trustedApplicationEventOrderIdMatchesAggregate,
    .trustedApplicationEventSequenceIsNextVersion,.trustedApplicationCreatedEstablishesState,
    .trustedApplicationPaidEstablishesState,.trustedApplicationUpdatesAggregateHistoryHead,
    .transitionSequenceMatchesAcceptedNextVersion,.transitionProofPrevEventIdMatchesAccepted,
    .transitionProofPrevVersionMatchesAccepted,.transitionProofPrevStatusMatchesAccepted,
    .transitionCandidateEventTypeSupported,.transitionEventTypeLegalFromAcceptedStatus]
  transitionRuleIds := [.createAllowedFromInit,.payAllowedFromCreated]

namespace OrderCorrectnessContract

def allowedTransitions (c : OrderCorrectnessContract) : Except PyException (List AllowedTransition) :=
  c.transitionRuleIds.mapM AllowedTransition.fromRuleId

/-- The rules of one category, in the order of the contract. -/
def rulesOf (c : OrderCorrectnessContract) (category : CorrectnessCategory) :
    List OrderCorrectnessRuleId :=
  c.ruleIds.filter (fun rule => rule.category = category)

end OrderCorrectnessContract

structure OrderRuleViolationEvidence where
  contractId : String
  contractVersion : ℕ
  ruleId : OrderCorrectnessRuleId
  candidateEventId : String
deriving DecidableEq, Repr

/-- `OrderRuleViolationEvidence(...)` with its checks. -/
def OrderRuleViolationEvidence.new (contractId : String) (contractVersion : ℕ)
    (ruleId : OrderCorrectnessRuleId) (candidateEventId : String) :
    Except PyException OrderRuleViolationEvidence :=
  if contractId ≠ orderCorrectnessContractV0.contractId then
    .error (.valueError "contract_id must identify the supported Order V0 contract")
  else if contractVersion ≠ orderCorrectnessContractV0.contractVersion then
    .error (.valueError "contract_version must identify the supported Order V0 contract")
  else if isBlank candidateEventId then
    .error (.valueError "candidate_event_id must be a non-empty string")
  else .ok ⟨contractId,contractVersion,ruleId,candidateEventId⟩

end StreamingCompass
