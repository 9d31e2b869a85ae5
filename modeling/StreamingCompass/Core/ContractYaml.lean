import Mathlib.Data.List.Sort
import Mathlib.Data.String.Basic
import StreamingCompass.Core.ContractEdition
import StreamingCompass.Core.MoneyText
import StreamingCompass.Core.Uuid
import StreamingCompass.Rendering.Sections

/-! # The YAML projection of a contract

`correctness_contract_yaml_projection.py`: the readable text of a contract. The text, which
nothing reads back, determines the contract up to the order in which its vocabularies, rules
and relationships are listed.
-/
namespace StreamingCompass
open Rendering

def CorrectnessCategory.value : CorrectnessCategory → String
  | .commandLegality => "COMMAND_LEGALITY"
  | .candidateConstruction => "CANDIDATE_CONSTRUCTION"
  | .trustedApplication => "TRUSTED_APPLICATION"
  | .transitionTruth => "TRANSITION_TRUTH"

def RuleSubject.value : RuleSubject → String
  | .aggregateCommand => "AGGREGATE_COMMAND"
  | .candidateEvent => "CANDIDATE_EVENT"
  | .predecessorClaim => "PREDECESSOR_CLAIM"
  | .trustedEventApplication => "TRUSTED_EVENT_APPLICATION"
  | .acceptedContextComparison => "ACCEPTED_CONTEXT_COMPARISON"

def MoneyRoundingMode.value : MoneyRoundingMode → String
  | .roundHalfEven => "ROUND_HALF_EVEN"

def AmountConstraintKind.value : AmountConstraintKind → String
  | .normalizedValueGreaterThanZero => "NORMALIZED_VALUE_GREATER_THAN_ZERO"
  | .normalizedValueEqualsCurrentTotalAmount => "NORMALIZED_VALUE_EQUALS_CURRENT_TOTAL_AMOUNT"

/-- The proposition of `_RULE_DEFINITIONS`. -/
def OrderCorrectnessRuleId.semanticProposition : OrderCorrectnessRuleId → String
  | .createAllowedFromInit => "A CREATE command is legal only when the aggregate status is INIT."
  | .payAllowedFromCreated => "A PAY command is legal only when the aggregate status is CREATED."
  | .createNormalizedAmountPositive => "The normalized CREATE amount is greater than zero."
  | .payNormalizedAmountPositive => "The normalized PAY amount is greater than zero."
  | .payNormalizedAmountEqualsTotal =>
    "The normalized PAY amount equals the aggregate's current total_amount."
  | .candidateSequenceIsNextAggregateVersion => "A candidate event's sequence equals the " ++
    "aggregate's current_version plus next_sequence_increment."
  | .candidateProofDerivedFromAggregatePredecessor => "A candidate proof's prev_status, " ++
    "prev_version, and prev_event_id are derived from the aggregate's current status, " ++
    "current_version, and last_event_id."
  | .trustedApplicationEventOrderIdMatchesAggregate =>
    "A trusted event's order_id equals the aggregate's order_id before application."
  | .trustedApplicationEventSequenceIsNextVersion => "A trusted event's sequence equals the " ++
    "aggregate's current_version plus next_sequence_increment before application."
  | .trustedApplicationCreatedEstablishesState => "Applying a trusted CREATED event sets status " ++
    "to CREATED and replaces total_amount with event.amount."
  | .trustedApplicationPaidEstablishesState => "Applying a trusted PAID event sets status to " ++
    "PAID and replaces paid_amount with event.amount."
  | .trustedApplicationUpdatesAggregateHistoryHead => "Applying a trusted event updates the " ++
    "aggregate's local history head by setting current_version to event.sequence and " ++
    "last_event_id to event.event_id."
  | .transitionSequenceMatchesAcceptedNextVersion => "A candidate event's sequence equals the " ++
    "accepted context's previous version plus next_sequence_increment."
  | .transitionProofPrevEventIdMatchesAccepted => "A candidate proof's prev_event_id equals the " ++
    "accepted context's predecessor event identity."
  | .transitionProofPrevVersionMatchesAccepted =>
    "A candidate proof's prev_version equals the accepted context's previous version."
  | .transitionProofPrevStatusMatchesAccepted =>
    "A candidate proof's prev_status equals the accepted context's previous status."
  | .transitionCandidateEventTypeSupported =>
    "A candidate event's event_type belongs to the contract's declared event_types."
  | .transitionEventTypeLegalFromAcceptedStatus => "A candidate event's event_type is legal from " ++
    "the accepted context's previous status according to the allowed transition graph."

/-! ## The projection -/

structure YamlRule where
  ruleId : String
  semanticProposition : String
  subject : String
deriving DecidableEq, Repr

structure YamlTransition where
  ruleId : String
  command : String
  predecessorStatus : String
  candidateEventType : String
  resultingStatus : String
deriving DecidableEq, Repr

structure YamlConstraint where
  ruleId : String
  command : String
  constraint : String
deriving DecidableEq, Repr

structure YamlProjection where
  projectionVersion : ℕ
  contractId : String
  contractVersion : ℕ
  statuses : List String
  commands : List String
  eventTypes : List String
  nextSequenceIncrement : ℕ
  normalizationQuantum : String
  roundingMode : String
  rules : CorrectnessCategory → List YamlRule
  allowedTransitions : List YamlTransition
  amountConstraints : List YamlConstraint

def yamlProjectionVersion : ℕ := 1

/-- `_CATEGORY_ORDER` -/
def categoryOrder : List CorrectnessCategory :=
  [.commandLegality,.candidateConstruction,.trustedApplication,.transitionTruth]

/-- `_STATUS_PRESENTATION_ORDER` -/
def statusPresentationOrder : List OrderStatus := [.init,.created,.paid]

/-- `sorted(xs, key=key)` -/
def sortedBy {α : Type} (key : α → String) (xs : List α) : List α :=
  xs.insertionSort (fun a b => key a ≤ key b)

def YamlRule.ofRule (rule : CorrectnessRule) : YamlRule :=
  ⟨rule.ruleId.value,rule.ruleId.semanticProposition,rule.subject.value⟩

def YamlTransition.ofTransition (t : AllowedTransition) : YamlTransition :=
  ⟨t.legalityRuleId.value,t.command.value,t.predecessorStatus.value,t.candidateEventType.value,
    t.resultingStatus.value⟩

def YamlConstraint.ofConstraint (a : CommandAmountConstraint) : YamlConstraint :=
  ⟨a.ruleId.value,a.command.value,a.constraint.value⟩

namespace ContractFields

/-- The rules of a category, sorted by identity. -/
def rulesIn (c : ContractFields) (category : CorrectnessCategory) : List CorrectnessRule :=
  sortedBy (fun rule => rule.ruleId.value) (c.rules.filter (fun rule => rule.category = category))

end ContractFields

/-! ## The text -/

/-- One character of a string `json.dumps` writes with `ensure_ascii=False`. -/
def escapeChar (c : Char) : List Char :=
  if c = '"' then ['\\','"']
  else if c = '\\' then ['\\','\\']
  else if c = '\n' then ['\\','n']
  else if c = '\r' then ['\\','r']
  else if c = '\t' then ['\\','t']
  else if c = '\x08' then ['\\','b']
  else if c = '\x0c' then ['\\','f']
  else if c.toNat < 32 then
    ['\\','u','0','0',Nat.digitChar (c.toNat/16),Nat.digitChar (c.toNat%16)]
  else [c]

/-- `_yaml_string` -/
def yamlString (value : String) : String :=
  String.ofList ('"' :: (value.toList.flatMap escapeChar ++ ['"']))

def sequenceLine (value : String) : List String := ["      - " ++ yamlString value]

/-- `_append_string_sequence` with `indent=4` -/
def stringSequence (key : String) (entries : List String) : List String :=
  headed ("    " ++ key ++ ":") ("    " ++ key ++ ": []") sequenceLine entries

def YamlRule.lines (r : YamlRule) : List String :=
  ["    - rule_id: " ++ yamlString r.ruleId,
    "      semantic_proposition: " ++ yamlString r.semanticProposition,
    "      subject: " ++ yamlString r.subject]

def YamlTransition.lines (t : YamlTransition) : List String :=
  ["    - rule_id: " ++ yamlString t.ruleId,
    "      command: " ++ yamlString t.command,
    "      predecessor_status: " ++ yamlString t.predecessorStatus,
    "      candidate_event_type: " ++ yamlString t.candidateEventType,
    "      resulting_status: " ++ yamlString t.resultingStatus]

def YamlConstraint.lines (a : YamlConstraint) : List String :=
  ["    - rule_id: " ++ yamlString a.ruleId,
    "      command: " ++ yamlString a.command,
    "      constraint: " ++ yamlString a.constraint]

def generatedFileHeader : List String :=
  ["# Generated readability projection.",
    "# Canonical Python Order Correctness Contract V0 is authoritative.",
    "# Do not edit manually or load as production runtime authority."]

namespace YamlProjection

def identityLines (p : YamlProjection) : List String :=
  ["projection_version: " ++ toString p.projectionVersion,
    "",
    "contract:",
    "  id: " ++ yamlString p.contractId,
    "  version: " ++ toString p.contractVersion,
    "  vocabulary:"]

def parameterLines (p : YamlProjection) : List String :=
  ["  parameters:",
    "    next_sequence_increment: " ++ toString p.nextSequenceIncrement,
    "    normalization_quantum: " ++ yamlString p.normalizationQuantum,
    "    rounding_mode: " ++ yamlString p.roundingMode,
    "",
    "rules:"]

def categoryLines (p : YamlProjection) (category : CorrectnessCategory) : List String :=
  ("  " ++ category.value ++ ":") :: (p.rules category).flatMap YamlRule.lines

/-- The lines of `_render_projection_v1` -/
def lines (p : YamlProjection) : List String :=
  generatedFileHeader ++ (p.identityLines ++ (stringSequence "statuses" p.statuses ++
    (stringSequence "commands" p.commands ++ (stringSequence "event_types" p.eventTypes ++
      (p.parameterLines ++ (categoryOrder.flatMap p.categoryLines ++ (["","relationships:"] ++
        (headed "  allowed_transitions:" "  allowed_transitions: []" YamlTransition.lines
            p.allowedTransitions ++
          headed "  amount_constraints:" "  amount_constraints: []" YamlConstraint.lines
            p.amountConstraints))))))))

end YamlProjection

/-- No control character. -/
def Printable (s : String) : Prop := ∀ c ∈ s.toList, 32 ≤ c.toNat

theorem Printable.append {s t : String} (hs : Printable s) (ht : Printable t) :
    Printable (s ++ t) := by
  intro c hc
  rw [String.toList_append] at hc
  exact (List.mem_append.mp hc).elim (hs c) (ht c)

end StreamingCompass
