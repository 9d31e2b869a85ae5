import StreamingCompass.Core.AggregateContract
import StreamingCompass.Core.ContractYaml

/-! # What the YAML text says of the contract

The lines are read back section by section, and the sorted sections are the contract's own
lists up to order.
-/
namespace StreamingCompass
open Rendering

/-! ## Enumerations -/

/-- A text by which every value of an enumeration is found names one value. -/
theorem value_inj {α : Type} (value : α → String) (all : List α)
    (hfind : ∀ a, all.find? (fun b => value b = value a) = some a) {a b : α}
    (h : value a = value b) : a = b := by
  have ha := hfind a
  rw [h, hfind b] at ha
  exact (Option.some.inj ha).symm

theorem OrderCorrectnessRuleId.value_inj {a b : OrderCorrectnessRuleId} (h : a.value = b.value) :
    a = b := by
  refine StreamingCompass.value_inj OrderCorrectnessRuleId.value
    orderCorrectnessContractV0.ruleIds (fun a => ?_) h
  cases a <;> simp [OrderCorrectnessRuleId.value, orderCorrectnessContractV0]

theorem RuleSubject.value_inj {a b : RuleSubject} (h : a.value = b.value) : a = b := by
  refine StreamingCompass.value_inj RuleSubject.value [.aggregateCommand,.candidateEvent,
    .predecessorClaim,.trustedEventApplication,.acceptedContextComparison] (fun a => ?_) h
  cases a <;> simp [RuleSubject.value]

theorem CommandType.value_inj {a b : CommandType} (h : a.value = b.value) : a = b := by
  refine StreamingCompass.value_inj CommandType.value [.create,.pay] (fun a => ?_) h
  cases a <;> simp [CommandType.value]

theorem EventType.value_inj {a b : EventType} (h : a.value = b.value) : a = b := by
  refine StreamingCompass.value_inj EventType.value [.created,.paid] (fun a => ?_) h
  cases a <;> simp [EventType.value]

theorem OrderStatus.value_inj {a b : OrderStatus} (h : a.value = b.value) : a = b := by
  refine StreamingCompass.value_inj OrderStatus.value statusPresentationOrder (fun a => ?_) h
  cases a <;> simp [OrderStatus.value, statusPresentationOrder]

theorem AmountConstraintKind.value_inj {a b : AmountConstraintKind} (h : a.value = b.value) :
    a = b := by
  refine StreamingCompass.value_inj AmountConstraintKind.value
    [.normalizedValueGreaterThanZero,.normalizedValueEqualsCurrentTotalAmount] (fun a => ?_) h
  cases a <;> simp [AmountConstraintKind.value]

/-! ## Sections -/

namespace YamlProjection

end YamlProjection

/-! ## The text of the lines -/

-- not by enumerating the characters
instance decidablePrintable (s : String) : Decidable (Printable s) :=
  List.decidableBAll (fun c : Char => 32 ≤ c.toNat) s.toList

namespace YamlProjection

/-- `"\n".join(lines) + "\n"` -/
def text (p : YamlProjection) : String := String.intercalate "\n" p.lines ++ "\n"

end YamlProjection

/-! ## The contract behind the text -/

/-- The same contract, its sets and tuples listed in any order. -/
structure ContractFields.Alike (c c' : ContractFields) : Prop where
  contractId : c.contractId = c'.contractId
  contractVersion : c.contractVersion = c'.contractVersion
  statuses : ∀ status, status ∈ c.statuses ↔ status ∈ c'.statuses
  commands : c.commands.Perm c'.commands
  eventTypes : c.eventTypes.Perm c'.eventTypes
  nextSequenceIncrement : c.nextSequenceIncrement = c'.nextSequenceIncrement
  normalizationQuantum : c.normalizationQuantum = c'.normalizationQuantum
  roundingMode : c.roundingMode = c'.roundingMode
  rules : c.rules.Perm c'.rules
  allowedTransitions : c.allowedTransitions.Perm c'.allowedTransitions
  amountConstraints : c.amountConstraints.Perm c'.amountConstraints

namespace ContractFields

/-- The projection of a contract that has one. -/
def yamlProjection (c : ContractFields) : YamlProjection where
  projectionVersion := yamlProjectionVersion
  contractId := c.contractId
  contractVersion := c.contractVersion
  statuses := statusPresentationOrder.map OrderStatus.value
  commands := sortedBy id (c.commands.map CommandType.value)
  eventTypes := sortedBy id (c.eventTypes.map EventType.value)
  nextSequenceIncrement := c.nextSequenceIncrement
  normalizationQuantum := c.normalizationQuantum.str
  roundingMode := c.roundingMode.value
  rules := fun category => (c.rulesIn category).map YamlRule.ofRule
  allowedTransitions := (sortedBy (fun t => t.legalityRuleId.value) c.allowedTransitions).map
    YamlTransition.ofTransition
  amountConstraints := (sortedBy (fun a => a.ruleId.value) c.amountConstraints).map
    YamlConstraint.ofConstraint

variable {c c' : ContractFields}

section Sorted
variable {α : Type} {key : α → String} {xs ys : List α}

theorem sortedBy_perm (key : α → String) (xs : List α) : (sortedBy key xs).Perm xs :=
  List.perm_insertionSort _ xs

/-- Lists with distinct keys sort alike when they are permutations. -/
theorem sortedBy_eq (hperm : xs.Perm ys)
    (hkey : ∀ a ∈ xs, ∀ b ∈ xs, key a = key b → a = b) : sortedBy key xs = sortedBy key ys := by
  have : Std.Total (fun a b : α => key a ≤ key b) := ⟨fun a b => le_total (key a) (key b)⟩
  have : IsTrans α (fun a b => key a ≤ key b) := ⟨fun _ _ _ => le_trans⟩
  refine List.Perm.eq_of_pairwise (fun a b ha hb hab hba => ?_)
    (List.pairwise_insertionSort (fun a b : α => key a ≤ key b) xs)
    (List.pairwise_insertionSort (fun a b : α => key a ≤ key b) ys)
    ((sortedBy_perm key xs).trans (hperm.trans (sortedBy_perm key ys).symm))
  have ha' : a ∈ xs := (sortedBy_perm key xs).mem_iff.mp ha
  have hb' : b ∈ xs := hperm.mem_iff.mpr ((sortedBy_perm key ys).mem_iff.mp hb)
  exact hkey a ha' b hb' (le_antisymm hab hba)

end Sorted

/-- The order of the lists does not show in the projection. -/
theorem Alike.projection (h : c.Alike c') (hrules : (c.rules.map CorrectnessRule.ruleId).Nodup)
    (htransitions : (c.allowedTransitions.map AllowedTransition.legalityRuleId).Nodup)
    (hamounts : (c.amountConstraints.map CommandAmountConstraint.ruleId).Nodup) :
    c.yamlProjection = c'.yamlProjection := by
  have hcategory (category : CorrectnessCategory) : c.rulesIn category = c'.rulesIn category := by
    refine sortedBy_eq (h.rules.filter _) (fun a ha b hb hab => ?_)
    exact List.inj_on_of_nodup_map hrules (List.mem_filter.mp ha).1 (List.mem_filter.mp hb).1
      (OrderCorrectnessRuleId.value_inj hab)
  have hvocabulary {values values' : List String} (h : values.Perm values') :
      sortedBy id values = sortedBy id values' := sortedBy_eq h (fun _ _ _ _ hab => hab)
  unfold yamlProjection
  rw [h.contractId, h.contractVersion, h.nextSequenceIncrement, h.normalizationQuantum,
    h.roundingMode, hvocabulary (h.commands.map CommandType.value),
    hvocabulary (h.eventTypes.map EventType.value),
    sortedBy_eq h.allowedTransitions (fun a ha b hb hab =>
      List.inj_on_of_nodup_map htransitions ha hb (OrderCorrectnessRuleId.value_inj hab)),
    sortedBy_eq h.amountConstraints (fun a ha b hb hab =>
      List.inj_on_of_nodup_map hamounts ha hb (OrderCorrectnessRuleId.value_inj hab))]
  simp only [hcategory]

end ContractFields
end StreamingCompass
