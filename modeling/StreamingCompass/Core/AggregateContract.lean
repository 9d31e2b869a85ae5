import StreamingCompass.Core.ContractEdition
import StreamingCompass.Core.History

/-! # The aggregate against the contract

The command, candidate and application rules of a contract as a machine that runs attempted
commands, whatever the edition; and the aggregate, which runs them as the registered edition
says.
-/
namespace StreamingCompass
open Rounding

/-! ## The machine of a contract -/

def MoneyRoundingMode.Rounds : MoneyRoundingMode → ℚ → ℤ → Prop
  | .roundHalfEven => NearestEven

/-- The `q`-th multiple of a quantum, written with its exponent. -/
def Decimal.multiple : Decimal → ℤ → Decimal
  | .finite _ coefficient exponent, q => .finite (decide (q < 0)) (coefficient*q.natAbs) exponent
  | d, _ => d

/-- The multiple of the quantum that the rounding mode picks, when the context holds its digits. -/
structure NormalizesTo (c : ContractFields) (v : MoneyInput) (q : ℤ) : Prop where
  rounds : ∃ x y, v.value = some x ∧ c.normalizationQuantum.value = some y ∧
    c.roundingMode.Rounds (x/y) q
  fits : q.natAbs < Decimal.coefficientLimit

def AmountConstraintKind.Holds (kind : AmountConstraintKind) (a : OrderAggregate) (d : Decimal) :
    Prop :=
  match kind with
  | .normalizedValueGreaterThanZero => ∃ y, d.value = some y ∧ 0 < y
  | .normalizedValueEqualsCurrentTotalAmount => ∃ y, d.value = some y ∧ a.totalAmount.value = some y

structure CommandAttempt where
  command : CommandType
  draw : Draw
  requestId : String
  amount : MoneyInput
deriving DecidableEq

/-- What the command and candidate rules ask of the event of an attempt. -/
structure LegalCandidate (c : ContractFields) (a : OrderAggregate) (x : CommandAttempt)
    (t : AllowedTransition) (e : OrderEvent) : Prop where
  allowed : t ∈ c.allowedTransitions
  command : t.command = x.command
  predecessor : t.predecessorStatus = a.status
  normalized : ∃ q, NormalizesTo c x.amount q ∧ e.amount = c.normalizationQuantum.multiple q
  amounts : ∀ k ∈ c.amountConstraints, k.command = x.command → k.constraint.Holds a e.amount
  sequence : e.sequence = a.currentVersion+c.nextSequenceIncrement
  proof : e.proof = ⟨a.status,a.currentVersion,a.lastEventId⟩
  eventType : e.eventType = t.candidateEventType
  orderId : e.orderId = a.orderId
  /-- the identities the contract leaves open -/
  named : isBlank x.requestId = false ∧ e.requestId = x.requestId ∧
    e.eventId = generateEventId x.draw ∧ e.occurredAtMs = x.draw.occurredAtMs

/-- What the application rules ask of the aggregate after an event. -/
structure TrustedApplication (c : ContractFields) (a : OrderAggregate) (e : OrderEvent)
    (a' : OrderAggregate) : Prop where
  orderId : e.orderId = a.orderId ∧ a'.orderId = a.orderId
  sequence : e.sequence = a.currentVersion+c.nextSequenceIncrement
  created : e.eventType = .created →
    a'.status = .created ∧ a'.totalAmount = e.amount ∧ a'.paidAmount = a.paidAmount
  paid : e.eventType = .paid →
    a'.status = .paid ∧ a'.paidAmount = e.amount ∧ a'.totalAmount = a.totalAmount
  head : a'.currentVersion = e.sequence ∧ a'.lastEventId = some e.eventId

/-- One accepted attempt: a legal candidate along an edge, applied into its resulting status. -/
def ContractStep (c : ContractFields) (a : OrderAggregate) (x : CommandAttempt) (e : OrderEvent)
    (a' : OrderAggregate) : Prop :=
  ∃ t, LegalCandidate c a x t e ∧ TrustedApplication c a e a' ∧ a'.status = t.resultingStatus

/-- The events a contract accepts of a list of attempts, and the aggregate they leave. -/
inductive ContractRun (c : ContractFields) :
    OrderAggregate → List CommandAttempt → List OrderEvent → OrderAggregate → Prop where
  | done {a : OrderAggregate} : ContractRun c a [] [] a
  | accepted {a a' b : OrderAggregate} {x : CommandAttempt} {xs : List CommandAttempt}
    {e : OrderEvent} {es : List OrderEvent} (h : ContractStep c a x e a')
    (hrest : ContractRun c a' xs es b) : ContractRun c a (x :: xs) (e :: es) b
  | refused {a b : OrderAggregate} {x : CommandAttempt} {xs : List CommandAttempt}
    {es : List OrderEvent} (h : ∀ e a', ¬ContractStep c a x e a')
    (hrest : ContractRun c a xs es b) : ContractRun c a (x :: xs) es b

theorem NormalizesTo.unique {c : ContractFields} {v : MoneyInput} {q q' : ℤ}
    (h : NormalizesTo c v q) (h' : NormalizesTo c v q') : q = q' := by
  obtain ⟨x,y,hx,hy,hround⟩ := h.rounds
  obtain ⟨x',y',hx',hy',hround'⟩ := h'.rounds
  obtain rfl := Option.some.inj (hx.symm.trans hx')
  obtain rfl := Option.some.inj (hy.symm.trans hy')
  cases hmode : c.roundingMode with
  | roundHalfEven =>
    rw [hmode] at hround hround'
    exact NearestEven.unique hround hround'

theorem TrustedApplication.unique {c : ContractFields} {a a' b' : OrderAggregate} {e : OrderEvent}
    (h : TrustedApplication c a e a') (h' : TrustedApplication c a e b') : a' = b' := by
  obtain ⟨orderId,version,status,total,paid,last⟩ := a'
  obtain ⟨orderId',version',status',total',paid',last'⟩ := b'
  have horder := h.orderId.2.trans h'.orderId.2.symm
  have hversion := h.head.1.trans h'.head.1.symm
  have hlast := h.head.2.trans h'.head.2.symm
  cases htype : e.eventType with
  | created =>
    obtain ⟨hstatus,htotal,hpaid⟩ := h.created htype
    obtain ⟨hstatus',htotal',hpaid'⟩ := h'.created htype
    simp_all
  | paid =>
    obtain ⟨hstatus,hpaid,htotal⟩ := h.paid htype
    obtain ⟨hstatus',hpaid',htotal'⟩ := h'.paid htype
    simp_all

/-- A coherent contract accepts an attempt in at most one way. -/
theorem ContractStep.unique {c : MaterializedContract} {a a' b' : OrderAggregate}
    {x : CommandAttempt} {e f : OrderEvent} (h : ContractStep c.val a x e a')
    (h' : ContractStep c.val a x f b') : e = f ∧ a' = b' := by
  obtain ⟨t,hlegal,happlied,-⟩ := h
  obtain ⟨t',hlegal',happlied',-⟩ := h'
  obtain rfl := c.edge_unique hlegal.allowed hlegal'.allowed
    (hlegal.command.trans hlegal'.command.symm) (hlegal.predecessor.trans hlegal'.predecessor.symm)
  have hamount : e.amount = f.amount := by
    obtain ⟨q,hq,he⟩ := hlegal.normalized
    obtain ⟨q',hq',hf⟩ := hlegal'.normalized
    rw [he, hf, hq.unique hq']
  obtain rfl : e = f := by
    obtain ⟨eventId,requestId,orderId,sequence,eventType,amount,occurredAtMs,proof⟩ := e
    obtain ⟨eventId',requestId',orderId',sequence',eventType',amount',occurredAtMs',proof'⟩ := f
    simp only [OrderEvent.mk.injEq]
    exact ⟨hlegal.named.2.2.1.trans hlegal'.named.2.2.1.symm,
      hlegal.named.2.1.trans hlegal'.named.2.1.symm,hlegal.orderId.trans hlegal'.orderId.symm,
      hlegal.sequence.trans hlegal'.sequence.symm,hlegal.eventType.trans hlegal'.eventType.symm,
      hamount,hlegal.named.2.2.2.trans hlegal'.named.2.2.2.symm,
      hlegal.proof.trans hlegal'.proof.symm⟩
  exact ⟨rfl,happlied.unique happlied'⟩

/-- A coherent contract leaves one outcome to every list of attempts. -/
theorem ContractRun.unique {c : MaterializedContract} {a b b' : OrderAggregate}
    {xs : List CommandAttempt} {es es' : List OrderEvent} (h : ContractRun c.val a xs es b)
    (h' : ContractRun c.val a xs es' b') : es = es' ∧ b = b' := by
  induction h generalizing es' with
  | done =>
    cases h'
    exact ⟨rfl,rfl⟩
  | accepted hstep hrest ih =>
    cases h' with
    | accepted hstep' hrest' =>
      obtain ⟨rfl,rfl⟩ := hstep.unique hstep'
      obtain ⟨rfl,rfl⟩ := ih hrest'
      exact ⟨rfl,rfl⟩
    | refused hnone hrest' => exact absurd hstep (hnone _ _)
  | refused hnone hrest ih =>
    cases h' with
    | accepted hstep' hrest' => exact absurd hstep' (hnone _ _)
    | refused hnone' hrest' => exact ih hrest'

/-! ## The registered edition -/

/-- `ORDER_CORRECTNESS_CONTRACT_V0` as it is materialized. -/
def orderContractFieldsV0 : ContractFields where
  contractId := "order.correctness"
  contractVersion := 0
  statuses := [.init,.created,.paid]
  commands := [.create,.pay]
  eventTypes := [.created,.paid]
  nextSequenceIncrement := 1
  normalizationQuantum := .finite false 1 (-2)
  roundingMode := .roundHalfEven
  rules := orderCorrectnessContractV0.ruleIds.map CorrectnessRule.fromRuleId
  allowedTransitions := allowedTransitionDefinitions
  amountConstraints := commandAmountConstraintDefinitions

theorem orderContractFieldsV0_coherent : orderContractFieldsV0.Coherent :=
  ContractFields.validateStructure_eq_ok.mp (by decide +kernel)

theorem fromIdentity_orderCorrectness :
    MaterializedContract.fromIdentity "order.correctness" 0 =
      .ok ⟨orderContractFieldsV0,orderContractFieldsV0_coherent⟩ := by
  have hname : requireTrimmedNonEmptyString "order.correctness" "contract_id" = .ok () := by
    decide +kernel
  have hvalid := ContractFields.validateStructure_eq_ok.mpr orderContractFieldsV0_coherent
  have hfind : ∃ d, orderCorrectnessContractDefinitions.find? (fun d =>
      d.contractId = "order.correctness" ∧ (d.contractVersion : ℤ) = 0) = some d ∧
      d.materialize = .ok orderContractFieldsV0 := ⟨_,rfl,rfl⟩
  obtain ⟨d,hfind,hd⟩ := hfind
  have hversion : raiseUnless ((0 : ℤ) ≤ 0) "contract_version must be non-negative" = .ok () := rfl
  simp only [MaterializedContract.fromIdentity, hname, hversion, ok_bind, hfind, hd]
  split
  · rename_i h
    rw [hvalid] at h
    cases h
  · rfl

/-! ## The aggregate -/

/-- A command handled on the aggregate, and its event applied. -/
def OrderAggregate.attempt (a : OrderAggregate) (x : CommandAttempt) :
    Except PyException (OrderEvent × OrderAggregate) := do
  let e ← a.handle x.command x.draw x.requestId x.amount
  let a' ← a.apply e
  .ok (e,a')

/-- Attempts one after the other; an attempt that raises leaves the aggregate as it was. -/
def OrderAggregate.attempts :
    OrderAggregate → List CommandAttempt → List OrderEvent × OrderAggregate
  | a, [] => ([],a)
  | a, x :: xs => match a.attempt x with
    | .error _ => a.attempts xs
    | .ok (e,a') => (e :: (a'.attempts xs).1,(a'.attempts xs).2)

theorem value_quantumV0 : orderContractFieldsV0.normalizationQuantum.value = some (1/100 : ℚ) := by
  have hcents : orderContractFieldsV0.normalizationQuantum = .ofCents false 1 := rfl
  rw [hcents, Decimal.value_ofCents]
  simp [Decimal.signed]

theorem multiple_quantumV0 (n : ℕ) :
    orderContractFieldsV0.normalizationQuantum.multiple n = .ofCents false n := by
  simp [orderContractFieldsV0, Decimal.multiple, Decimal.ofCents]

theorem value_multiple_quantumV0 (q : ℤ) :
    (orderContractFieldsV0.normalizationQuantum.multiple q).value = some ((q : ℚ)/100) := by
  have hcents : orderContractFieldsV0.normalizationQuantum.multiple q =
      .ofCents (decide (q < 0)) q.natAbs := by
    simp [orderContractFieldsV0, Decimal.multiple, Decimal.ofCents]
  have hsigned : Decimal.signed (decide (q < 0)) q.natAbs = q := by
    unfold Decimal.signed
    split
    · rename_i h
      have hnegative := of_decide_eq_true h
      omega
    · rename_i h
      rw [decide_eq_true_eq] at h
      omega
  rw [hcents, Decimal.value_ofCents, hsigned]

theorem normalizesTo_contractV0 {v : MoneyInput} {q : ℤ} :
    NormalizesTo orderContractFieldsV0 v q ↔
      (∃ x, v.value = some x ∧ NearestEven (100*x) q) ∧ q.natAbs < Decimal.coefficientLimit := by
  have hscale (x : ℚ) : x/(1/100) = 100*x := by ring
  constructor
  · intro h
    obtain ⟨x,y,hx,hy,hround⟩ := h.rounds
    rw [value_quantumV0, Option.some.injEq] at hy
    rw [← hy, hscale] at hround
    exact ⟨⟨x,hx,hround⟩,h.fits⟩
  · rintro ⟨⟨x,hx,hround⟩,hfits⟩
    refine ⟨⟨x,_,hx,value_quantumV0,?_⟩,hfits⟩
    rw [hscale]
    exact hround

/-- The amounts the commands take are the positive ones that normalize. -/
theorem ensurePositiveMoney_contract {v : MoneyInput} {d : Decimal} :
    ensurePositiveMoney v = .ok d ↔
      (∃ q, NormalizesTo orderContractFieldsV0 v q ∧
        d = orderContractFieldsV0.normalizationQuantum.multiple q) ∧
      ∃ y, d.value = some y ∧ 0 < y := by
  rw [ensurePositiveMoney_eq_ok]
  constructor
  · rintro ⟨hnormal,n,hpos,hlimit,rfl⟩
    obtain ⟨x,q,hx,hvalue,hround⟩ := normalizeMoney_nearest hnormal
    rw [← multiple_quantumV0, value_multiple_quantumV0] at hvalue
    have hcast : ((n : ℤ) : ℚ) = q := by
      have h := Option.some.inj hvalue
      linarith
    obtain rfl : (n : ℤ) = q := by exact_mod_cast hcast
    refine ⟨⟨n,normalizesTo_contractV0.mpr ⟨⟨x,hx,hround⟩,by simpa using hlimit⟩,
      (multiple_quantumV0 n).symm⟩,(n : ℚ)/100,?_,by positivity⟩
    rw [← multiple_quantumV0, value_multiple_quantumV0, Int.cast_natCast]
  · rintro ⟨⟨q,hq,rfl⟩,y,hy,hpos⟩
    obtain ⟨⟨x,hx,hround⟩,hfits⟩ := normalizesTo_contractV0.mp hq
    rw [value_multiple_quantumV0, Option.some.injEq] at hy
    have hqpos : 0 < q := by
      have h : (0 : ℚ) < q := by linarith
      exact_mod_cast h
    obtain ⟨n,rfl⟩ := Int.eq_ofNat_of_zero_le hqpos.le
    rw [multiple_quantumV0]
    refine ⟨?_,n,by omega,by simpa using hfits,rfl⟩
    rcases parseMoney_cases v with ⟨-,hnone⟩ | ⟨s,m,e,hparse,hvalue⟩
    · rw [hnone] at hx
      cases hx
    · obtain rfl := Option.some.inj (hvalue.symm.trans hx)
      have hrounded := hround.unique (Decimal.nearestEven_signed s m e)
      generalize hn : roundHalfEven (100*Decimal.numerator m e) (Decimal.denominator e) = k at hrounded
      have hsign : s = false ∧ k = n := by
        cases s with
        | false => exact ⟨rfl,by simpa [Decimal.signed] using hrounded.symm⟩
        | true =>
          simp only [Decimal.signed, if_true] at hrounded
          omega
      obtain ⟨rfl,rfl⟩ := hsign
      simp only [normalizeMoney, hparse, ok_bind]
      exact Decimal.quantize_finite.mpr ⟨by rw [hn]; simpa using hfits,by rw [hn]⟩

/-- The amount rules of the edition, command by command. -/
theorem amountsV0 {a : OrderAggregate} {command : CommandType} {d : Decimal} :
    (∀ k ∈ orderContractFieldsV0.amountConstraints, k.command = command → k.constraint.Holds a d) ↔
      (∃ y, d.value = some y ∧ 0 < y) ∧
        (command = .pay → ∃ y, d.value = some y ∧ a.totalAmount.value = some y) := by
  simp only [orderContractFieldsV0, commandAmountConstraintDefinitions, List.forall_mem_cons,
    List.not_mem_nil, false_imp_iff, implies_true, and_true]
  constructor
  · rintro ⟨hcreate,hpay,htotal⟩
    cases command with
    | create => exact ⟨hcreate rfl,fun h => absurd h (by decide)⟩
    | pay => exact ⟨hpay rfl,fun _ => htotal rfl⟩
  · rintro ⟨hpositive,htotal⟩
    exact ⟨fun _ => hpositive,fun _ => hpositive,fun h => htotal h.symm⟩

/-- The edges of the edition are the predecessor table of the commands. -/
theorem edgeV0 {t : AllowedTransition} (ht : t ∈ orderContractFieldsV0.allowedTransitions) :
    t.candidateEventType = t.command.eventType ∧
      t.predecessorStatus = FullProofValidator.requiredPrevStatus t.command.eventType ∧
      t.resultingStatus = t.candidateEventType.resultingStatus := by
  simp only [orderContractFieldsV0, allowedTransitionDefinitions, List.mem_cons, List.not_mem_nil,
    or_false] at ht
  rcases ht with rfl | rfl <;> exact ⟨rfl,rfl,rfl⟩

theorem exists_edgeV0 (command : CommandType) :
    ∃ t ∈ orderContractFieldsV0.allowedTransitions, t.command = command := by
  cases command with
  | create => exact ⟨_,List.mem_cons_self ..,rfl⟩
  | pay => exact ⟨_,List.mem_cons_of_mem _ (List.mem_cons_self ..),rfl⟩

/-- A positive normalized amount is finite, so it equals the amounts of the same value. -/
theorem eq_totalAmount_iff {d total : Decimal} (hd : ∃ y, d.value = some y ∧ 0 < y) :
    d.eq total = true ↔ ∃ y, d.value = some y ∧ total.value = some y := by
  obtain ⟨y,hy,-⟩ := hd
  rw [Decimal.eq_iff_value hy]
  constructor
  · intro h
    exact ⟨y,hy,h⟩
  · rintro ⟨y',hy',htotal⟩
    rw [hy, Option.some.injEq] at hy'
    rw [htotal, hy']

/-- The commands build exactly the candidates the contract has a legal edge for. -/
theorem handle_eq_ok_contract {a : OrderAggregate} {x : CommandAttempt} {e : OrderEvent} :
    a.handle x.command x.draw x.requestId x.amount = .ok e ↔
      ∃ t, LegalCandidate orderContractFieldsV0 a x t e := by
  rw [handle_eq_ok]
  constructor
  · intro h
    obtain ⟨hnormalized,hpositive⟩ := ensurePositiveMoney_contract.mp h.positive
    obtain ⟨t,ht,hcommand⟩ := exists_edgeV0 x.command
    obtain ⟨htype,hstatus,-⟩ := edgeV0 ht
    rw [hcommand] at htype hstatus
    have hamounts := amountsV0.mpr ⟨hpositive,fun hpay =>
      (eq_totalAmount_iff hpositive).mp (h.amount hpay)⟩
    exact ⟨t,ht,hcommand,hstatus.trans h.status.symm,hnormalized,hamounts,h.sequence,h.proof,
      h.eventType.trans htype.symm,h.orderId,h.request,h.requestId,h.eventId,h.occurredAtMs⟩
  · rintro ⟨t,h⟩
    obtain ⟨hpositive,htotal⟩ := amountsV0.mp h.amounts
    obtain ⟨htype,hstatus,-⟩ := edgeV0 h.allowed
    rw [h.command] at htype hstatus
    exact ⟨h.named.1,ensurePositiveMoney_contract.mpr ⟨h.normalized,hpositive⟩,h.named.2.2.1,
      h.named.2.1,h.orderId,h.sequence,h.eventType.trans htype,h.named.2.2.2,h.proof,
      h.predecessor.symm.trans hstatus,fun hpay => (eq_totalAmount_iff hpositive).mpr (htotal hpay)⟩

/-- `apply` does what the application rules say, and nothing else. -/
theorem apply_eq_ok_contract {a a' : OrderAggregate} {e : OrderEvent} :
    a.apply e = .ok a' ↔ TrustedApplication orderContractFieldsV0 a e a' := by
  rw [OrderAggregate.apply_eq_ok]
  have hrules (horder : e.orderId = a.orderId) (hsequence : e.sequence = a.currentVersion+1) :
      TrustedApplication orderContractFieldsV0 a e (a.applied e) := by
    refine ⟨⟨horder,rfl⟩,hsequence,?_,?_,rfl,rfl⟩
    · intro htype
      simp only [OrderAggregate.applied, htype, EventType.resultingStatus, and_self]
    · intro htype
      simp only [OrderAggregate.applied, htype, EventType.resultingStatus, and_self]
  constructor
  · rintro ⟨horder,hsequence,rfl⟩
    exact hrules horder hsequence
  · intro h
    exact ⟨h.orderId.1,h.sequence,h.unique (hrules h.orderId.1 h.sequence)⟩

/-- An attempt succeeds exactly as one accepted step of the contract. -/
theorem attempt_eq_ok {a a' : OrderAggregate} {x : CommandAttempt} {e : OrderEvent} :
    a.attempt x = .ok (e,a') ↔ ContractStep orderContractFieldsV0 a x e a' := by
  simp only [OrderAggregate.attempt, bind_eq_ok, Except.ok.injEq, Prod.mk.injEq,
    handle_eq_ok_contract, apply_eq_ok_contract]
  constructor
  · rintro ⟨e,⟨t,hlegal⟩,a',happlied,rfl,rfl⟩
    refine ⟨t,hlegal,happlied,?_⟩
    rw [(edgeV0 hlegal.allowed).2.2, ← hlegal.eventType]
    cases htype : e.eventType with
    | created => exact (happlied.created htype).1
    | paid => exact (happlied.paid htype).1
  · rintro ⟨t,hlegal,happlied,-⟩
    exact ⟨e,⟨t,hlegal⟩,a',happlied,rfl,rfl⟩

theorem attempts_run (a : OrderAggregate) (xs : List CommandAttempt) :
    ContractRun orderContractFieldsV0 a xs (a.attempts xs).1 (a.attempts xs).2 := by
  induction xs generalizing a with
  | nil => exact .done
  | cons x xs ih =>
    unfold OrderAggregate.attempts
    cases h : a.attempt x with
    | ok out => exact .accepted (attempt_eq_ok.mp h) (ih out.2)
    | error err =>
      refine .refused (fun e a' hstep => ?_) (ih a)
      rw [attempt_eq_ok.mpr hstep] at h
      cases h

/-- The events of a run replay to the aggregate the run left. -/
theorem attempts_replay (a : OrderAggregate) (xs : List CommandAttempt) :
    a.replay (a.attempts xs).1 = .ok (a.attempts xs).2 := by
  induction xs generalizing a with
  | nil => rfl
  | cons x xs ih =>
    unfold OrderAggregate.attempts
    cases h : a.attempt x with
    | ok out =>
      obtain ⟨e,-,hrest⟩ := bind_eq_ok.mp h
      obtain ⟨a',happly,hout⟩ := bind_eq_ok.mp hrest
      obtain rfl := Except.ok.inj hout
      simp only [OrderAggregate.replay, List.foldlM_cons, happly, ok_bind]
      exact ih a'
    | error err => exact ih a

/-- The aggregate runs attempted commands exactly as the registered contract says, and its
events replay to where it stands. -/
theorem aggregate_runs_contract :
    ∃ c, MaterializedContract.fromIdentity "order.correctness" 0 = .ok c ∧
      ∀ a xs, (∀ es b, ContractRun c.val a xs es b ↔ a.attempts xs = (es,b)) ∧
        ∀ orderId, OrderAggregate.new orderId = .ok a →
          rehydrate orderId (a.attempts xs).1 = .ok (a.attempts xs).2 := by
  refine ⟨_,fromIdentity_orderCorrectness,fun a xs => ⟨fun es b => ⟨fun h => ?_,?_⟩,?_⟩⟩
  · obtain ⟨hevents,hleft⟩ := ContractRun.unique h (attempts_run a xs)
    exact Prod.ext hevents.symm hleft.symm
  · rintro h
    have hrun := attempts_run a xs
    rw [h] at hrun
    exact hrun
  · intro orderId hnew
    rw [rehydrate, hnew]
    exact attempts_replay a xs

end StreamingCompass
