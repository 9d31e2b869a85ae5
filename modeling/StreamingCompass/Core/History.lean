import StreamingCompass.Transition.Validation

/-! # Legal histories

What the accepted history of one order may be, and that a command handled on the
aggregate of such a history extends it. The two-state lifecycle makes the histories
few: nothing, a creation, or a creation and its full payment.
-/
namespace StreamingCompass

def PositiveAmount (d : Decimal) : Prop :=
  ∃ q, 0 < q ∧ q < Decimal.coefficientLimit ∧ d = .ofCents false q

/-- The first event of an order. -/
structure IsCreation (orderId : String) (e : OrderEvent) : Prop where
  named : isBlank orderId = false
  orderId : e.orderId = orderId
  sequence : e.sequence = 1
  eventType : e.eventType = .created
  positive : PositiveAmount e.amount
  proof : e.proof = ⟨.init,0,none⟩

/-- The payment that follows a creation. -/
structure IsPayment (orderId : String) (created e : OrderEvent) : Prop where
  orderId : e.orderId = orderId
  sequence : e.sequence = 2
  eventType : e.eventType = .paid
  amount : e.amount = created.amount
  proof : e.proof = ⟨.created,1,some created.eventId⟩

inductive LegalHistory (orderId : String) : List OrderEvent → Prop where
  | empty : LegalHistory orderId []
  | created {e : OrderEvent} (he : IsCreation orderId e) : LegalHistory orderId [e]
  | paid {e p : OrderEvent} (he : IsCreation orderId e) (hp : IsPayment orderId e p) :
    LegalHistory orderId [e,p]

/-- The aggregate of a history, as replay leaves it. -/
def aggregateOf (orderId : String) : List OrderEvent → OrderAggregate
  | [] => ⟨orderId,0,.init,.zero,.zero,none⟩
  | [e] => ⟨orderId,1,.created,e.amount,.zero,some e.eventId⟩
  | e :: p :: _ => ⟨orderId,2,.paid,e.amount,p.amount,some p.eventId⟩

namespace LegalHistory
variable {orderId : String} {h : List OrderEvent}

theorem length_le (hl : LegalHistory orderId h) : h.length ≤ 2 := by
  cases hl <;> simp

theorem positive (hl : LegalHistory orderId h) : ∀ e ∈ h, PositiveAmount e.amount := by
  cases hl with
  | empty => simp
  | created hc => simpa using hc.positive
  | paid hc hp => simpa [hp.amount] using hc.positive

theorem map_sequence (hl : LegalHistory orderId h) :
    h.map (fun e => e.sequence) = (List.range' 1 h.length).map Nat.cast := by
  cases hl with
  | empty => rfl
  | created hc => simp [hc.sequence]
  | paid hc hp =>
    simp [hc.sequence, hp.sequence, List.range'_succ]

theorem named (hl : LegalHistory orderId h) (hne : h ≠ []) : isBlank orderId = false := by
  cases hl with
  | empty => exact absurd rfl hne
  | created hc => exact hc.named
  | paid hc hp => exact hc.named

theorem rehydrate_eq (hl : LegalHistory orderId h) (hn : isBlank orderId = false) :
    rehydrate orderId h = .ok (aggregateOf orderId h) := by
  have hnew : OrderAggregate.new orderId = .ok (aggregateOf orderId []) := by
    simp [OrderAggregate.new, hn, aggregateOf]
  cases hl with
  | empty => simp only [rehydrate, hnew]; rfl
  | @created e hc =>
    have h1 : (aggregateOf orderId []).apply e = .ok (aggregateOf orderId [e]) := by
      simp [OrderAggregate.apply, aggregateOf, hc.orderId, hc.sequence, hc.eventType]
    simp [rehydrate, hnew, OrderAggregate.replay, List.foldlM, h1, bind, Except.bind, pure,
      Except.pure]
  | @paid e p hc hp =>
    have h1 : (aggregateOf orderId []).apply e = .ok (aggregateOf orderId [e]) := by
      simp [OrderAggregate.apply, aggregateOf, hc.orderId, hc.sequence, hc.eventType]
    have h2 : (aggregateOf orderId [e]).apply p = .ok (aggregateOf orderId [e,p]) := by
      simp [OrderAggregate.apply, aggregateOf, hp.orderId, hp.sequence, hp.eventType]
    simp [rehydrate, hnew, OrderAggregate.replay, List.foldlM, h1, h2, bind, Except.bind, pure,
      Except.pure]

/-- A replay that succeeds ends in the aggregate of the history, of a named order. -/
theorem eq_of_rehydrate (hl : LegalHistory orderId h) {a : OrderAggregate}
    (ha : rehydrate orderId h = .ok a) : isBlank orderId = false ∧ a = aggregateOf orderId h := by
  cases hb : isBlank orderId with
  | true => simp [rehydrate, OrderAggregate.new, hb, bind, Except.bind] at ha
  | false =>
    rw [hl.rehydrate_eq hb, Except.ok.injEq] at ha
    exact ⟨rfl,ha.symm⟩

theorem aggregateOf_orderId (orderId : String) (h : List OrderEvent) :
    (aggregateOf orderId h).orderId = orderId := by
  rcases h with _ | ⟨e,_ | ⟨p,t⟩⟩ <;> rfl

theorem aggregateOf_currentVersion (hl : LegalHistory orderId h) :
    (aggregateOf orderId h).currentVersion = h.length := by
  cases hl <;> rfl

theorem aggregateOf_lastEventId (hl : LegalHistory orderId h) :
    (aggregateOf orderId h).lastEventId = h.getLast?.map OrderEvent.eventId := by
  cases hl <;> rfl

end LegalHistory

/-- What a handled command fixes of its event. -/
structure HandledEvent (a : OrderAggregate) (command : CommandType) (draw : Draw)
    (requestId : String) (amount : MoneyInput) (e : OrderEvent) : Prop where
  request : isBlank requestId = false
  positive : ensurePositiveMoney amount = .ok e.amount
  eventId : e.eventId = generateEventId draw
  requestId : e.requestId = requestId
  orderId : e.orderId = a.orderId
  sequence : e.sequence = a.currentVersion+1
  eventType : e.eventType = command.eventType
  occurredAtMs : e.occurredAtMs = draw.occurredAtMs
  proof : e.proof = a.proof
  status : a.status = FullProofValidator.requiredPrevStatus command.eventType
  /-- in v1 a payment pays the whole order -/
  amount : command = .pay → e.amount.eq a.totalAmount = true

theorem OrderEvent.create_eq_ok {draw : Draw} {requestId orderId : String} {sequence : ℤ}
    {eventType : EventType} {amount : Decimal} {proof : Proof} {v : MoneyInput}
    (hv : ensurePositiveMoney v = .ok amount) :
    OrderEvent.create draw requestId orderId sequence eventType amount proof =
      .ok ⟨generateEventId draw,requestId,orderId,sequence,eventType,amount,draw.occurredAtMs,proof⟩ := by
  have hn := normalizeMoney_normalized (ensurePositiveMoney_eq_ok.mp hv).1
  simp [OrderEvent.create, hn, bind, Except.bind]

theorem handledEvent {a : OrderAggregate} {command : CommandType} {draw : Draw}
    {requestId : String} {amount : MoneyInput} {e : OrderEvent}
    (h : a.handle command draw requestId amount = .ok e) :
    HandledEvent a command draw requestId amount e := by
  have hreq (hb : isBlank requestId = true) :
      OrderAggregate.requireNonEmptyRequestId requestId =
        .error (.valueError "request_id must not be empty") := by
    simp [OrderAggregate.requireNonEmptyRequestId, hb]
  cases hb : isBlank requestId with
  | true =>
    cases command <;>
      simp [OrderAggregate.handle, OrderAggregate.create, OrderAggregate.pay, hreq hb, bind,
        Except.bind] at h
  | false =>
    have hok : OrderAggregate.requireNonEmptyRequestId requestId = .ok () := by
      simp [OrderAggregate.requireNonEmptyRequestId, hb]
    cases hm : ensurePositiveMoney amount with
    | error err =>
      cases command <;>
        simp [OrderAggregate.handle, OrderAggregate.create, OrderAggregate.pay, hok, hm, bind,
          Except.bind] at h
    | ok d =>
      cases command with
      | create =>
        simp only [OrderAggregate.handle, OrderAggregate.create, hok, hm, bind, Except.bind] at h
        split at h
        · cases h
        · rename_i hs
          rw [OrderEvent.create_eq_ok hm] at h
          obtain rfl := (Except.ok.inj h).symm
          exact ⟨hb,hm,rfl,rfl,rfl,rfl,rfl,rfl,rfl,not_not.mp hs,fun hc => by cases hc⟩
      | pay =>
        simp only [OrderAggregate.handle, OrderAggregate.pay, hok, hm, bind, Except.bind] at h
        split at h
        · cases h
        · cases h
        · rename_i hs
          split at h
          · rename_i heq
            rw [OrderEvent.create_eq_ok hm] at h
            obtain rfl := (Except.ok.inj h).symm
            exact ⟨hb,hm,rfl,rfl,rfl,rfl,rfl,rfl,rfl,hs,fun _ => heq⟩
          · cases h

/-- A command returns exactly the candidate its aggregate, its draw and its request fix. -/
theorem handle_eq_ok {a : OrderAggregate} {command : CommandType} {draw : Draw}
    {requestId : String} {amount : MoneyInput} {e : OrderEvent} :
    a.handle command draw requestId amount = .ok e ↔
      HandledEvent a command draw requestId amount e := by
  refine ⟨handledEvent,fun h => ?_⟩
  have hrequest : OrderAggregate.requireNonEmptyRequestId requestId = .ok () := by
    simp [OrderAggregate.requireNonEmptyRequestId, h.request]
  have hcreate (eventType : EventType) (htype : e.eventType = eventType) :
      OrderEvent.create draw requestId a.orderId (a.currentVersion+1) eventType e.amount a.proof =
        .ok e := by
    rw [OrderEvent.create_eq_ok h.positive, ← h.eventId, ← h.requestId, ← h.orderId, ← h.sequence,
      ← h.occurredAtMs, ← h.proof, ← htype]
  have hstatus := h.status
  cases command with
  | create =>
    have hinit : a.status = .init := hstatus
    simp only [OrderAggregate.handle, OrderAggregate.create, hrequest, h.positive, hinit, bind,
      Except.bind, ne_eq, not_true_eq_false, if_false]
    exact hcreate .created h.eventType
  | pay =>
    have hcreated : a.status = .created := hstatus
    simp only [OrderAggregate.handle, OrderAggregate.pay, hrequest, h.positive, hcreated, bind,
      Except.bind, h.amount rfl, if_true]
    exact hcreate .paid h.eventType

theorem Decimal.eq_ofCents {s s' : Bool} {q q' : ℕ} :
    (Decimal.ofCents s q).eq (.ofCents s' q') = true ↔ Decimal.signed s q = Decimal.signed s' q' := by
  have hd : Decimal.denominator (-2) = 100 := by decide
  have hn (q : ℕ) : Decimal.numerator q (-2) = q := by simp [Decimal.numerator]
  simp only [Decimal.ofCents, Decimal.eq, hn, hd, beq_iff_eq]
  have hs (s : Bool) (q : ℕ) : Decimal.signed s (q*100) = Decimal.signed s q*100 := by
    cases s <;> simp [Decimal.signed]
  rw [hs, hs]
  constructor
  · intro h
    omega
  · intro h
    rw [h]

theorem LegalHistory.extend {orderId : String} {h : List OrderEvent} (hl : LegalHistory orderId h)
    (hn : isBlank orderId = false) {command : CommandType} {draw : Draw} {requestId : String}
    {amount : MoneyInput} {e : OrderEvent}
    (he : HandledEvent (aggregateOf orderId h) command draw requestId amount e) :
    LegalHistory orderId (h ++ [e]) := by
  obtain ⟨-,hpos⟩ := ensurePositiveMoney_eq_ok.mp he.positive
  have hstatus := he.status
  have horder := he.orderId
  have hseq := he.sequence
  have hproof := he.proof
  cases hl with
  | empty =>
    cases command with
    | create => exact .created ⟨hn,horder,hseq,he.eventType,hpos,hproof⟩
    | pay => simp [aggregateOf, CommandType.eventType, FullProofValidator.requiredPrevStatus] at hstatus
  | @created c hc =>
    cases command with
    | create =>
      simp [aggregateOf, CommandType.eventType, FullProofValidator.requiredPrevStatus] at hstatus
    | pay =>
      have hamount : e.amount = c.amount := by
        obtain ⟨q,-,-,hq⟩ := hpos
        obtain ⟨q',-,-,hq'⟩ := hc.positive
        have heq := he.amount rfl
        rw [hq] at heq ⊢
        simp only [aggregateOf, hq'] at heq
        have := Decimal.eq_ofCents.mp heq
        simp only [Decimal.signed, Bool.false_eq_true, if_false, Int.natCast_inj] at this
        rw [hq', this]
      exact .paid hc ⟨horder,hseq,he.eventType,hamount,hproof⟩
  | paid hc hp =>
    cases command <;>
      simp [aggregateOf, CommandType.eventType, FullProofValidator.requiredPrevStatus] at hstatus

theorem LegalHistory.followsContext {orderId : String} {h : List OrderEvent}
    (hl : LegalHistory orderId h) {command : CommandType} {draw : Draw} {requestId : String}
    {amount : MoneyInput} {e : OrderEvent}
    (he : HandledEvent (aggregateOf orderId h) command draw requestId amount e) :
    FollowsContext e ⟨h.getLast?,(aggregateOf orderId h).currentVersion,
      (aggregateOf orderId h).status⟩ := by
  refine ⟨he.sequence,?_,?_,?_,?_⟩
  · rw [he.proof]
    exact hl.aggregateOf_lastEventId
  · rw [he.proof]
    rfl
  · rw [he.proof]
    rfl
  · rw [he.eventType]
    exact he.status

end StreamingCompass
