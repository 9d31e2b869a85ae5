import Mathlib.Data.List.Nodup
import StreamingCompass.Core.CorrectnessContract
import StreamingCompass.Core.MoneyRounding

/-! # Editions of the order contract

`OrderCorrectnessContract.from_identity`: the registered editions with their vocabularies,
money parameters and amount rules, and what `_validate_structure` refuses. A materialized
contract carries the coherence that its construction checks.
-/
namespace StreamingCompass
open Rounding

inductive RuleSubject where
  | aggregateCommand | candidateEvent | predecessorClaim | trustedEventApplication
  | acceptedContextComparison
deriving DecidableEq, Repr

/-- The subject of `_RULE_DEFINITIONS`. -/
def OrderCorrectnessRuleId.subject : OrderCorrectnessRuleId → RuleSubject
  | .createAllowedFromInit | .payAllowedFromCreated | .createNormalizedAmountPositive
  | .payNormalizedAmountPositive | .payNormalizedAmountEqualsTotal => .aggregateCommand
  | .candidateSequenceIsNextAggregateVersion | .transitionCandidateEventTypeSupported =>
    .candidateEvent
  | .candidateProofDerivedFromAggregatePredecessor => .predecessorClaim
  | .trustedApplicationEventOrderIdMatchesAggregate
  | .trustedApplicationEventSequenceIsNextVersion
  | .trustedApplicationCreatedEstablishesState
  | .trustedApplicationPaidEstablishesState
  | .trustedApplicationUpdatesAggregateHistoryHead => .trustedEventApplication
  | .transitionSequenceMatchesAcceptedNextVersion
  | .transitionProofPrevEventIdMatchesAccepted
  | .transitionProofPrevVersionMatchesAccepted
  | .transitionProofPrevStatusMatchesAccepted
  | .transitionEventTypeLegalFromAcceptedStatus => .acceptedContextComparison

inductive MoneyRoundingMode where | roundHalfEven
deriving DecidableEq, Repr

inductive AmountConstraintKind where
  | normalizedValueGreaterThanZero | normalizedValueEqualsCurrentTotalAmount
deriving DecidableEq, Repr

structure CorrectnessRule where
  ruleId : OrderCorrectnessRuleId
  category : CorrectnessCategory
  subject : RuleSubject
deriving DecidableEq, Repr

def CorrectnessRule.fromRuleId (ruleId : OrderCorrectnessRuleId) : CorrectnessRule :=
  ⟨ruleId,ruleId.category,ruleId.subject⟩

structure CommandAmountConstraint where
  ruleId : OrderCorrectnessRuleId
  command : CommandType
  constraint : AmountConstraintKind
deriving DecidableEq, Repr

/-- `_COMMAND_AMOUNT_CONSTRAINT_DEFINITIONS` -/
def commandAmountConstraintDefinitions : List CommandAmountConstraint :=
  [⟨.createNormalizedAmountPositive,.create,.normalizedValueGreaterThanZero⟩,
    ⟨.payNormalizedAmountPositive,.pay,.normalizedValueGreaterThanZero⟩,
    ⟨.payNormalizedAmountEqualsTotal,.pay,.normalizedValueEqualsCurrentTotalAmount⟩]

def CommandAmountConstraint.fromRuleId (ruleId : OrderCorrectnessRuleId) :
    Except PyException CommandAmountConstraint :=
  match commandAmountConstraintDefinitions.find? (fun c => c.ruleId = ruleId) with
  | none => .error (.valueError "rule_id has no authoritative command-amount definition")
  | some c => .ok c

/-- One entry of `_ORDER_CORRECTNESS_CONTRACT_DEFINITIONS`. -/
structure OrderCorrectnessContractDefinition extends OrderCorrectnessContract where
  statuses : List OrderStatus
  commands : List CommandType
  normalizationQuantum : Decimal
  roundingMode : MoneyRoundingMode
  amountRuleIds : List OrderCorrectnessRuleId

def orderCorrectnessContractDefinitions : List OrderCorrectnessContractDefinition :=
  [{orderCorrectnessContractV0 with
    statuses := [.init,.created,.paid]
    commands := [.create,.pay]
    normalizationQuantum := .finite false 1 (-2)
    roundingMode := .roundHalfEven
    amountRuleIds := [.createNormalizedAmountPositive,.payNormalizedAmountPositive,
      .payNormalizedAmountEqualsTotal]}]

/-- The fields of a contract before `_validate_structure`. -/
structure ContractFields where
  contractId : String
  contractVersion : ℕ
  statuses : List OrderStatus
  commands : List CommandType
  eventTypes : List EventType
  nextSequenceIncrement : ℕ
  normalizationQuantum : Decimal
  roundingMode : MoneyRoundingMode
  rules : List CorrectnessRule
  allowedTransitions : List AllowedTransition
  amountConstraints : List CommandAmountConstraint

/-- `if not p: raise ValueError(message)` -/
def raiseUnless (p : Prop) [Decidable p] (message : String) : Except PyException Unit :=
  if p then .ok () else .error (.valueError message)

theorem raiseUnless_eq_ok {p : Prop} [Decidable p] {message : String} {u : Unit} :
    raiseUnless p message = .ok u ↔ p := by
  unfold raiseUnless
  split <;> simp_all

theorem raiseUnless_bind {α : Type} {p : Prop} [Decidable p] {message : String}
    {rest : Unit → Except PyException α} {r : α} :
    (raiseUnless p message >>= rest) = .ok r ↔ p ∧ rest () = .ok r := by
  unfold raiseUnless
  split <;> simp_all

def requireTrimmedNonEmptyString (value fieldName : String) : Except PyException Unit := do
  raiseUnless ((strip value).isEmpty = false) (fieldName ++ " must be a non-empty string")
  raiseUnless (value.toList = strip value) (fieldName ++ " must not contain surrounding whitespace")

/-- `value.is_finite() and value > 0` -/
def Decimal.positiveFinite : Decimal → Bool
  | .finite negative coefficient _ => !negative && coefficient != 0
  | _ => false

def resolveRule (rules : List CorrectnessRule) (ruleId : OrderCorrectnessRuleId)
    (referenceOwner : String) : Except PyException CorrectnessRule :=
  match rules.find? (fun rule => rule.ruleId = ruleId) with
  | none => .error (.valueError
    (referenceOwner ++ " references a rule ID absent from contract.rules"))
  | some rule => .ok rule

namespace ContractFields

def transitionKeys (c : ContractFields) : List (CommandType × OrderStatus) :=
  c.allowedTransitions.map (fun t => (t.command,t.predecessorStatus))

def amountConstraintKeys (c : ContractFields) : List (CommandType × AmountConstraintKind) :=
  c.amountConstraints.map (fun a => (a.command,a.constraint))

def checkTransition (c : ContractFields) (t : AllowedTransition) : Except PyException Unit := do
  raiseUnless (t.command ∈ c.commands)
    "allowed transition command must belong to declared commands"
  raiseUnless (t.predecessorStatus ∈ c.statuses)
    "allowed transition predecessor status must belong to declared statuses"
  raiseUnless (t.candidateEventType ∈ c.eventTypes)
    "allowed transition candidate event type must belong to declared event_types"
  raiseUnless (t.resultingStatus ∈ c.statuses)
    "allowed transition resulting status must belong to declared statuses"
  let legalityRule ← resolveRule c.rules t.legalityRuleId "allowed transition"
  raiseUnless (legalityRule.category = .commandLegality ∧ legalityRule.subject = .aggregateCommand)
    "allowed transition legality rule must be COMMAND_LEGALITY with AGGREGATE_COMMAND subject"

def checkConstraint (c : ContractFields) (a : CommandAmountConstraint) :
    Except PyException Unit := do
  raiseUnless (a.command ∈ c.commands)
    "amount constraint command must belong to declared commands"
  let amountRule ← resolveRule c.rules a.ruleId "amount constraint"
  raiseUnless (amountRule.category = .commandLegality ∧ amountRule.subject = .aggregateCommand)
    "amount constraint rule must be COMMAND_LEGALITY with AGGREGATE_COMMAND subject"

/-- `_validate_structure` -/
def validateStructure (c : ContractFields) : Except PyException Unit := do
  requireTrimmedNonEmptyString c.contractId "contract_id"
  raiseUnless (0 < c.nextSequenceIncrement) "next_sequence_increment must be positive"
  raiseUnless (c.normalizationQuantum.positiveFinite = true)
    "normalization_quantum must be a positive finite Decimal"
  raiseUnless (c.rules.map CorrectnessRule.ruleId).Nodup "rules must contain unique rule IDs"
  raiseUnless c.allowedTransitions.Nodup "allowed_transitions must not contain duplicates"
  raiseUnless c.transitionKeys.Nodup ("allowed_transitions must not contain contradictory " ++
    "definitions for the same command and predecessor status")
  c.allowedTransitions.forM c.checkTransition
  raiseUnless c.amountConstraints.Nodup "amount_constraints must not contain duplicates"
  raiseUnless c.amountConstraintKeys.Nodup ("amount_constraints must not contain conflicting " ++
    "definitions for the same command and constraint")
  raiseUnless (c.amountConstraints.map CommandAmountConstraint.ruleId).Nodup
    "amount_constraints must reference unique rule IDs"
  c.amountConstraints.forM c.checkConstraint

/-- A rule identity resolves to a rule about commands. -/
def Governs (c : ContractFields) (ruleId : OrderCorrectnessRuleId) : Prop :=
  ∃ rule, c.rules.find? (fun rule => rule.ruleId = ruleId) = some rule ∧
    rule.category = .commandLegality ∧ rule.subject = .aggregateCommand

/-- What a contract is to be for its rules to mean something. -/
structure Coherent (c : ContractFields) : Prop where
  identified : (strip c.contractId).isEmpty = false ∧ c.contractId.toList = strip c.contractId
  increment : 0 < c.nextSequenceIncrement
  quantum : c.normalizationQuantum.positiveFinite = true
  rules : (c.rules.map CorrectnessRule.ruleId).Nodup
  /-- at most one edge leaves a status under a command -/
  transitionKeys : c.transitionKeys.Nodup
  transitions : ∀ t ∈ c.allowedTransitions, t.command ∈ c.commands ∧
    t.predecessorStatus ∈ c.statuses ∧ t.candidateEventType ∈ c.eventTypes ∧
    t.resultingStatus ∈ c.statuses ∧ c.Governs t.legalityRuleId
  amountConstraintKeys : c.amountConstraintKeys.Nodup
  amountRules : (c.amountConstraints.map CommandAmountConstraint.ruleId).Nodup
  amounts : ∀ a ∈ c.amountConstraints, a.command ∈ c.commands ∧ c.Governs a.ruleId

variable {c : ContractFields}

theorem forM_eq_ok {α : Type} {xs : List α} {f : α → Except PyException Unit} {u : Unit} :
    xs.forM f = .ok u ↔ ∀ x ∈ xs, f x = .ok () := by
  induction xs with
  | nil => simp [pure, Except.pure]
  | cons x xs ih =>
    have hcons : (x :: xs).forM f = (f x >>= fun _ => xs.forM f) := rfl
    rw [hcons, bind_eq_ok, List.forall_mem_cons]
    constructor
    · rintro ⟨_,hx,hxs⟩
      exact ⟨hx,ih.mp hxs⟩
    · rintro ⟨hx,hxs⟩
      exact ⟨(),hx,ih.mpr hxs⟩

theorem forM_bind {α β : Type} {xs : List α} {f : α → Except PyException Unit}
    {rest : Unit → Except PyException β} {r : β} :
    (xs.forM f >>= rest) = .ok r ↔ (∀ x ∈ xs, f x = .ok ()) ∧ rest () = .ok r := by
  rw [bind_eq_ok]
  constructor
  · rintro ⟨_,hxs,hrest⟩
    exact ⟨forM_eq_ok.mp hxs,hrest⟩
  · rintro ⟨hxs,hrest⟩
    exact ⟨(),forM_eq_ok.mpr hxs,hrest⟩

theorem resolveRule_governs {ruleId : OrderCorrectnessRuleId} {owner message : String} :
    (resolveRule c.rules ruleId owner >>= fun rule : CorrectnessRule =>
      raiseUnless (rule.category = .commandLegality ∧ rule.subject = .aggregateCommand) message) =
      .ok () ↔ c.Governs ruleId := by
  unfold resolveRule Governs
  cases c.rules.find? (fun rule => rule.ruleId = ruleId) with
  | none => simp
  | some rule => simp [raiseUnless_eq_ok]

theorem checkTransition_eq_ok {t : AllowedTransition} : c.checkTransition t = .ok () ↔
    t.command ∈ c.commands ∧ t.predecessorStatus ∈ c.statuses ∧
      t.candidateEventType ∈ c.eventTypes ∧ t.resultingStatus ∈ c.statuses ∧
      c.Governs t.legalityRuleId := by
  simp only [checkTransition, raiseUnless_bind, resolveRule_governs]

theorem checkConstraint_eq_ok {a : CommandAmountConstraint} :
    c.checkConstraint a = .ok () ↔ a.command ∈ c.commands ∧ c.Governs a.ruleId := by
  simp only [checkConstraint, raiseUnless_bind, resolveRule_governs]

/-- The structure check accepts exactly the coherent contracts. -/
theorem validateStructure_eq_ok : c.validateStructure = .ok () ↔ c.Coherent := by
  unfold validateStructure requireTrimmedNonEmptyString
  simp only [bind_assoc, raiseUnless_bind, forM_bind, forM_eq_ok, checkTransition_eq_ok,
    checkConstraint_eq_ok]
  constructor
  · rintro ⟨hname,htrimmed,hincrement,hquantum,hrules,-,hkeys,htransitions,-,hamounts,hunique,
      hconstraints⟩
    exact ⟨⟨hname,htrimmed⟩,hincrement,hquantum,hrules,hkeys,htransitions,hamounts,hunique,
      hconstraints⟩
  · intro h
    exact ⟨h.identified.1,h.identified.2,h.increment,h.quantum,h.rules,
      h.transitionKeys.of_map _,h.transitionKeys,h.transitions,h.amountConstraintKeys.of_map,
      h.amountConstraintKeys,h.amountRules,h.amounts⟩

end ContractFields

/-- A contract as `from_identity` returns it. -/
abbrev MaterializedContract := {c : ContractFields // c.Coherent}

/-- The records the selected identities own. -/
def OrderCorrectnessContractDefinition.materialize (d : OrderCorrectnessContractDefinition) :
    Except PyException ContractFields := do
  let allowedTransitions ← d.transitionRuleIds.mapM AllowedTransition.fromRuleId
  let amountConstraints ← d.amountRuleIds.mapM CommandAmountConstraint.fromRuleId
  .ok {
    contractId := d.contractId, contractVersion := d.contractVersion, statuses := d.statuses,
    commands := d.commands, eventTypes := d.eventTypes,
    nextSequenceIncrement := d.nextSequenceIncrement,
    normalizationQuantum := d.normalizationQuantum, roundingMode := d.roundingMode,
    rules := d.ruleIds.map CorrectnessRule.fromRuleId, allowedTransitions, amountConstraints }

/-- `OrderCorrectnessContract.from_identity` -/
def MaterializedContract.fromIdentity (contractId : String) (contractVersion : ℤ) :
    Except PyException MaterializedContract := do
  requireTrimmedNonEmptyString contractId "contract_id"
  raiseUnless (0 ≤ contractVersion) "contract_version must be non-negative"
  match orderCorrectnessContractDefinitions.find?
      (fun d => d.contractId = contractId ∧ (d.contractVersion : ℤ) = contractVersion) with
  | none => .error (.valueError "contract identity has no authoritative edition definition")
  | some definition =>
    let contract ← definition.materialize
    match h : contract.validateStructure with
    | .error e => .error e
    | .ok () => .ok ⟨contract,ContractFields.validateStructure_eq_ok.mp h⟩

/-- At most one edge of a contract leaves a status under a command. -/
theorem MaterializedContract.edge_unique (c : MaterializedContract) {t t' : AllowedTransition}
    (ht : t ∈ c.val.allowedTransitions) (ht' : t' ∈ c.val.allowedTransitions)
    (hcommand : t.command = t'.command) (hstatus : t.predecessorStatus = t'.predecessorStatus) :
    t = t' :=
  List.inj_on_of_nodup_map c.property.transitionKeys ht ht' (Prod.ext hcommand hstatus)

end StreamingCompass
