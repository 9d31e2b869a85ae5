import StreamingCompass.Core.MoneyRounding
import StreamingCompass.Projection.Consistency
import StreamingCompass.Transactional.ModeEquivalence

/-! # Commands and projections

The histories the reducer folds and the histories that commands produce, up to what the
reducer does not read.
-/
namespace StreamingCompass

/-! ## The histories the reducer folds -/

/-- A history and the state the reducer folds it to. -/
inductive ProjectedHistory (orderId : String) : List OrderEvent → OrderState → Prop where
  | empty : ProjectedHistory orderId [] (buildEmptyProjectionState orderId)
  | created {c : OrderEvent} (order : c.orderId = orderId) (sequence : c.sequence = 1)
    (type : c.eventType = .created) :
    ProjectedHistory orderId [c] ⟨orderId,.created,c.amount,.zero,1⟩
  | paid {c p : OrderEvent} (order : c.orderId = orderId) (sequence : c.sequence = 1)
    (type : c.eventType = .created) (order' : p.orderId = orderId) (sequence' : p.sequence = 2)
    (type' : p.eventType = .paid) (equal : p.amount.eq c.amount = true) :
    ProjectedHistory orderId [c,p] ⟨orderId,.paid,c.amount,p.amount,2⟩

namespace ProjectedHistory
variable {orderId : String} {h : List OrderEvent} {s s' : OrderState} {e : OrderEvent}

/-- One more event, and nothing after a payment. -/
theorem reduce (hp : ProjectedHistory orderId h s) (hr : reduceOrderEvent s e = .ok s') :
    ProjectedHistory orderId (h ++ [e]) s' := by
  obtain ⟨horder,hsequence,-,-⟩ := reduceOrderEvent_reduced hr
  unfold reduceOrderEvent at hr
  rw [if_neg (not_not.mpr horder), if_neg (not_not.mpr hsequence)] at hr
  cases hp with
  | empty =>
    cases htype : e.eventType with
    | created =>
      simp only [htype, buildEmptyProjectionState, ne_eq, not_true_eq_false, if_false] at hr
      obtain rfl := Except.ok.inj hr
      have hone : e.sequence = 1 := hsequence
      rw [hone]
      exact .created horder hone htype
    | paid => simp [htype, buildEmptyProjectionState] at hr
  | @created c order sequence type =>
    cases htype : e.eventType with
    | created => simp [htype] at hr
    | paid =>
      simp only [htype, ne_eq, not_true_eq_false, if_false] at hr
      split at hr
      · cases hr
      · rename_i hequal
        obtain rfl := Except.ok.inj hr
        have htwo : e.sequence = 2 := hsequence
        rw [htwo]
        exact .paid order sequence type horder htwo htype (by simpa using hequal)
  | paid =>
    cases htype : e.eventType with
    | created => simp [htype] at hr
    | paid => simp [htype] at hr

theorem fold (hp : ProjectedHistory orderId h s) : reduceHistory orderId h = .ok s := by
  cases hp with
  | empty => rfl
  | created order sequence type =>
    simp [reduceHistory, reduceOrderEvent, buildEmptyProjectionState, order, sequence, type, bind,
      Except.bind, pure, Except.pure]
  | paid order sequence type order' sequence' type' equal =>
    simp [reduceHistory, reduceOrderEvent, buildEmptyProjectionState, order, sequence, type, order',
      sequence', type', equal, bind, Except.bind, pure, Except.pure]

/-- The aggregate takes what the reducer folds, to the same state. -/
theorem rehydrated (hp : ProjectedHistory orderId h s) (hn : isBlank orderId = false) :
    ∃ a, rehydrate orderId h = .ok a ∧ a.status = s.status ∧ a.totalAmount = s.totalAmount ∧
      a.paidAmount = s.paidAmount ∧ a.currentVersion = s.version := by
  have hempty : rehydrate orderId [] = .ok ⟨orderId,0,.init,.zero,.zero,none⟩ := by
    simp [rehydrate, OrderAggregate.new, hn, OrderAggregate.replay, bind, Except.bind, pure,
      Except.pure]
  have hone {c : OrderEvent} (order : c.orderId = orderId) (sequence : c.sequence = 1)
      (type : c.eventType = .created) : rehydrate orderId [c] =
        .ok ⟨orderId,1,.created,c.amount,.zero,some c.eventId⟩ := by
    rw [← List.nil_append [c], rehydrate_append, hempty]
    refine OrderAggregate.apply_eq_ok.mpr ⟨order,sequence,?_⟩
    simp [OrderAggregate.applied, EventType.resultingStatus, type, sequence]
  cases hp with
  | empty => exact ⟨_,hempty,rfl,rfl,rfl,rfl⟩
  | created order sequence type => exact ⟨_,hone order sequence type,rfl,rfl,rfl,rfl⟩
  | @paid c p order sequence type order' sequence' type' equal =>
    have htwo : rehydrate orderId [c,p] =
        .ok ⟨orderId,2,.paid,c.amount,p.amount,some p.eventId⟩ := by
      rw [← List.singleton_append, rehydrate_append, hone order sequence type]
      refine OrderAggregate.apply_eq_ok.mpr ⟨order',sequence',?_⟩
      simp [OrderAggregate.applied, EventType.resultingStatus, type', sequence']
    exact ⟨_,htwo,rfl,rfl,rfl,rfl⟩

end ProjectedHistory

/-- The reducer folds exactly these histories. -/
theorem reduceHistory_eq_ok {orderId : String} {h : List OrderEvent} {s : OrderState} :
    reduceHistory orderId h = .ok s ↔ ProjectedHistory orderId h s := by
  constructor
  · intro hs
    induction h using List.reverseRecOn generalizing s with
    | nil =>
      obtain rfl := Except.ok.inj hs
      exact .empty
    | append_singleton h e ih =>
      rw [reduceHistory_append] at hs
      obtain ⟨before,hbefore,hr⟩ := bind_eq_ok.mp hs
      exact (ih hbefore).reduce hr
  · exact ProjectedHistory.fold

/-! ## The histories commands produce -/

namespace OrderRegistry

def Legal (r : OrderRegistry) : Prop :=
  ∀ orderId, LegalHistory orderId (r.store orderId)

theorem Legal.serve {r : OrderRegistry} (h : r.Legal) (s : RequestSignature) (draw : Draw) :
    (r.serve s draw).2.Legal := by
  unfold OrderRegistry.serve
  cases r.idem s.requestId with
  | some existing => exact h
  | none =>
    dsimp only
    split
    · exact h
    · rename_i e hcandidate
      obtain ⟨a,ha,he⟩ := bind_eq_ok.mp hcandidate
      obtain ⟨hn,rfl⟩ := (h s.orderId).eq_of_rehydrate ha
      have hextended := (h s.orderId).extend hn (handledEvent he)
      have horder : e.orderId = s.orderId :=
        (handledEvent he).orderId.trans (LegalHistory.aggregateOf_orderId ..)
      intro orderId
      unfold accept
      rw [horder]
      by_cases heq : orderId = s.orderId
      · subst heq
        simpa using hextended
      · simpa [heq] using h orderId

theorem Legal.run {r : OrderRegistry} (h : r.Legal) (mode : ValidationMode)
    (calls : List (RequestSignature × Draw)) : (r.run mode calls).2.Legal := by
  induction calls generalizing r with
  | nil => exact h
  | cons call calls ih =>
    have hnext := h.serve call.1 call.2
    rw [← handle_eq r mode] at hnext
    exact ih hnext

theorem empty_legal : OrderRegistry.empty.Legal := fun _ => .empty

/-- A fresh request with a legal command is accepted. -/
theorem handle_accept {r : OrderRegistry} {s : RequestSignature} {draw : Draw} {a : OrderAggregate}
    {e : OrderEvent} (mode : ValidationMode) (hfresh : r.idem s.requestId = none)
    (ha : rehydrate s.orderId (r.store s.orderId) = .ok a)
    (he : HandledEvent a s.commandType draw s.requestId s.amount e) :
    r.handle mode s draw = (.ok (.event e),r.accept s e) := by
  rw [handle_eq, OrderRegistry.serve, hfresh, ha]
  simp only [bind, Except.bind, handle_eq_ok.mpr he]

end OrderRegistry

/-- A positive amount that normalization leaves unchanged. -/
def UnchangedAmount (d : Decimal) : Prop :=
  ∃ d', ensurePositiveMoney (.decimal d) = .ok d' ∧ d'.eq d = true

theorem UnchangedAmount.value {d d' : Decimal} (hu : UnchangedAmount d)
    (hd : ensurePositiveMoney (.decimal d) = .ok d') : ∃ x, d'.value = some x ∧ d.value = some x := by
  obtain ⟨d₁,hd₁,heq⟩ := hu
  obtain rfl := Except.ok.inj (hd₁.symm.trans hd)
  obtain ⟨-,q,-,-,rfl⟩ := ensurePositiveMoney_eq_ok.mp hd
  have hvalue := Decimal.value_ofCents false q
  exact ⟨_,hvalue,(Decimal.eq_iff_value hvalue).mp heq⟩

/-- An event and one produced for it: the same but for the identities, the time and the proof. -/
structure SameEvent (e produced : OrderEvent) : Prop where
  orderId : produced.orderId = e.orderId
  sequence : produced.sequence = e.sequence
  eventType : produced.eventType = e.eventType
  amount : produced.amount.eq e.amount = true

theorem LegalHistory.projected {orderId : String} {h produced : List OrderEvent}
    (hl : LegalHistory orderId produced) (hsame : List.Forall₂ SameEvent h produced) :
    ∃ s, ProjectedHistory orderId h s := by
  cases hl with
  | empty =>
    cases hsame
    exact ⟨_,.empty⟩
  | created hc =>
    obtain ⟨c,t,he,ht,rfl⟩ := List.forall₂_cons_right_iff.mp hsame
    cases ht
    exact ⟨_,.created (he.orderId.symm.trans hc.orderId) (he.sequence.symm.trans hc.sequence)
      (he.eventType.symm.trans hc.eventType)⟩
  | @paid c' p' hc hp =>
    obtain ⟨c,t,he,ht,rfl⟩ := List.forall₂_cons_right_iff.mp hsame
    obtain ⟨p,t,he',ht',rfl⟩ := List.forall₂_cons_right_iff.mp ht
    cases ht'
    have hequal : p.amount.eq c.amount = true := by
      obtain ⟨q,-,-,hq⟩ := hc.positive
      have hvalue := Decimal.value_ofCents false q
      have hcreated := he.amount
      have hpaid := he'.amount
      rw [hp.amount] at hpaid
      rw [hq] at hcreated hpaid
      exact (Decimal.eq_iff_value ((Decimal.eq_iff_value hvalue).mp hpaid)).mpr
        ((Decimal.eq_iff_value hvalue).mp hcreated)
    exact ⟨_,.paid (he.orderId.symm.trans hc.orderId) (he.sequence.symm.trans hc.sequence)
      (he.eventType.symm.trans hc.eventType) (he'.orderId.symm.trans hp.orderId)
      (he'.sequence.symm.trans hp.sequence) (he'.eventType.symm.trans hp.eventType) hequal⟩

section Production
variable {orderId : String} {c p : OrderEvent}

/-- The create request for a creation event, and the event it produces. -/
def createRequest (orderId : String) (amount : Decimal) : RequestSignature :=
  ⟨"request-1",.create,orderId,.decimal amount⟩
def payRequest (orderId : String) (amount : Decimal) : RequestSignature :=
  ⟨"request-2",.pay,orderId,.decimal amount⟩
def producedCreation (orderId : String) (amount : Decimal) : OrderEvent :=
  ⟨generateEventId ⟨0,0⟩,"request-1",orderId,1,.created,amount,0,⟨.init,0,none⟩⟩
def producedPayment (orderId : String) (amount : Decimal) : OrderEvent :=
  ⟨generateEventId ⟨1,0⟩,"request-2",orderId,2,.paid,amount,0,
    ⟨.created,1,some (generateEventId ⟨0,0⟩)⟩⟩

theorem handledEvent_creation {amount d : Decimal} (hd : ensurePositiveMoney (.decimal amount) = .ok d) :
    HandledEvent (aggregateOf orderId []) .create ⟨0,0⟩ "request-1" (.decimal amount)
      (producedCreation orderId d) :=
  ⟨by decide,hd,rfl,rfl,rfl,rfl,rfl,rfl,rfl,rfl,fun h => by cases h⟩

theorem handledEvent_payment {amount d total : Decimal}
    (hd : ensurePositiveMoney (.decimal amount) = .ok d) (hequal : d.eq total = true) :
    HandledEvent (aggregateOf orderId [producedCreation orderId total]) .pay ⟨1,0⟩ "request-2"
      (.decimal amount) (producedPayment orderId d) :=
  ⟨by decide,hd,rfl,rfl,rfl,rfl,rfl,rfl,rfl,rfl,fun _ => hequal⟩

theorem produced_creation (hn : isBlank orderId = false) (mode : ValidationMode) {d : Decimal}
    (hd : ensurePositiveMoney (.decimal c.amount) = .ok d) :
    OrderRegistry.empty.handle mode (createRequest orderId c.amount) ⟨0,0⟩ =
      (.ok (.event (producedCreation orderId d)),
        OrderRegistry.empty.accept (createRequest orderId c.amount) (producedCreation orderId d)) :=
  OrderRegistry.handle_accept mode rfl (LegalHistory.empty.rehydrate_eq hn) (handledEvent_creation hd)

def createdRegistry (orderId : String) (amount d : Decimal) : OrderRegistry :=
  OrderRegistry.empty.accept (createRequest orderId amount) (producedCreation orderId d)

theorem createdRegistry_store (orderId : String) (amount d : Decimal) :
    (createdRegistry orderId amount d).store orderId = [producedCreation orderId d] := by
  simp [createdRegistry, OrderRegistry.accept, producedCreation, OrderRegistry.empty]

/-- A pay command after it produces an unchanged payment of the same amount. -/
theorem produced_payment (hn : isBlank orderId = false) (mode : ValidationMode) {d d' : Decimal}
    (hd : ensurePositiveMoney (.decimal c.amount) = .ok d)
    (hd' : ensurePositiveMoney (.decimal p.amount) = .ok d') (hequal : d'.eq d = true) :
    (createdRegistry orderId c.amount d).handle mode (payRequest orderId p.amount) ⟨1,0⟩ =
      (.ok (.event (producedPayment orderId d')),(createdRegistry orderId c.amount d).accept
        (payRequest orderId p.amount) (producedPayment orderId d')) := by
  have hlegal := LegalHistory.empty.extend hn (@handledEvent_creation orderId _ _ hd)
  refine OrderRegistry.handle_accept mode ?_ ?_ (handledEvent_payment hd' hequal)
  · simp [createdRegistry, OrderRegistry.accept, OrderRegistry.empty, IdempotencyProvider.record,
      createRequest, payRequest]
  · show rehydrate orderId _ = _
    have hstore : (createdRegistry orderId c.amount d).store (payRequest orderId p.amount).orderId =
        [producedCreation orderId d] := createdRegistry_store ..
    rw [hstore]
    exact hlegal.rehydrate_eq hn

theorem ProjectedHistory.produced {h : List OrderEvent} {s : OrderState} (hp : ProjectedHistory orderId h s)
    (hn : isBlank orderId = false) (hu : ∀ e ∈ h, UnchangedAmount e.amount) (mode : ValidationMode) :
    ∃ calls, List.Forall₂ SameEvent h ((OrderRegistry.empty.run mode calls).2.store orderId) := by
  cases hp with
  | empty => exact ⟨[],.nil⟩
  | @created c order sequence type =>
    obtain ⟨d,hd,heq⟩ := hu c (List.mem_singleton_self c)
    refine ⟨[(createRequest orderId c.amount,⟨0,0⟩)],?_⟩
    simp only [OrderRegistry.run, produced_creation hn mode hd]
    rw [← createdRegistry, createdRegistry_store]
    exact .cons ⟨order.symm,sequence.symm,type.symm,heq⟩ .nil
  | @paid c p order sequence type order' sequence' type' equal =>
    obtain ⟨d,hd,heq⟩ := hu c (List.mem_cons_self ..)
    obtain ⟨d',hd',heq'⟩ := hu p (List.mem_cons_of_mem _ (List.mem_singleton_self p))
    have hequal : d'.eq d = true := by
      obtain ⟨x,hx,hcx⟩ := (hu c (List.mem_cons_self ..)).value hd
      obtain ⟨y,hy,hpy⟩ := (hu p (List.mem_cons_of_mem _ (List.mem_singleton_self p))).value hd'
      obtain rfl := Option.some.inj (hcx.symm.trans ((Decimal.eq_iff_value hpy).mp equal))
      exact (Decimal.eq_iff_value hy).mpr hx
    refine ⟨[(createRequest orderId c.amount,⟨0,0⟩),(payRequest orderId p.amount,⟨1,0⟩)],?_⟩
    simp only [OrderRegistry.run, produced_creation hn mode hd]
    rw [← createdRegistry, produced_payment hn mode hd hd' hequal]
    have hstore : ((createdRegistry orderId c.amount d).accept (payRequest orderId p.amount)
        (producedPayment orderId d')).store orderId =
          [producedCreation orderId d,producedPayment orderId d'] := by
      have happended : ((createdRegistry orderId c.amount d).accept (payRequest orderId p.amount)
          (producedPayment orderId d')).store orderId =
            (createdRegistry orderId c.amount d).store orderId ++ [producedPayment orderId d'] :=
        Function.update_self ..
      rw [happended, createdRegistry_store]
      rfl
    rw [hstore]
    exact .cons ⟨order.symm,sequence.symm,type.symm,heq⟩
      (.cons ⟨order'.symm,sequence'.symm,type'.symm,heq'⟩ .nil)

end Production

/-- The reducer folds exactly the histories commands produce, and what it folds `apply`
replays to the same state. -/
theorem command_projection_language {orderId : String} (hn : isBlank orderId = false)
    {h : List OrderEvent} (hamounts : ∀ e ∈ h, UnchangedAmount e.amount) :
    (∀ mode, (∃ s, reduceHistory orderId h = .ok s) ↔ ∃ calls,
      List.Forall₂ SameEvent h ((OrderRegistry.empty.run mode calls).2.store orderId)) ∧
    ∀ s, reduceHistory orderId h = .ok s → ∃ a, rehydrate orderId h = .ok a ∧
      a.status = s.status ∧ a.totalAmount = s.totalAmount ∧ a.paidAmount = s.paidAmount ∧
      a.currentVersion = s.version := by
  refine ⟨fun mode => ⟨?_,?_⟩,fun s hs => (reduceHistory_eq_ok.mp hs).rehydrated hn⟩
  · rintro ⟨s,hs⟩
    exact (reduceHistory_eq_ok.mp hs).produced hn hamounts mode
  · rintro ⟨calls,hsame⟩
    obtain ⟨s,hs⟩ := (OrderRegistry.empty_legal.run mode calls orderId).projected hsame
    exact ⟨s,reduceHistory_eq_ok.mpr hs⟩

/-- A history whose amounts have other exponents than the produced ones. -/
theorem command_projection_language_integral :
    ∃ calls, List.Forall₂ SameEvent
      [⟨"e","r","o-1",1,.created,.finite false 10 0,0,⟨.paid,7,none⟩⟩,
        ⟨"e","r","o-1",2,.paid,.finite false 100 (-1),0,⟨.paid,7,none⟩⟩]
      ((OrderRegistry.empty.run .strict calls).2.store "o-1") := by
  have hunchanged : UnchangedAmount (.finite false 10 0) ∧ UnchangedAmount (.finite false 100 (-1)) :=
    ⟨⟨.ofCents false 1000,by decide +kernel,by decide +kernel⟩,
      ⟨.ofCents false 1000,by decide +kernel,by decide +kernel⟩⟩
  refine ((command_projection_language (by decide +kernel) ?_).1 .strict).mp
    ⟨⟨"o-1",.paid,.finite false 10 0,.finite false 100 (-1),2⟩,by decide +kernel⟩
  intro e he
  simp only [List.mem_cons, List.not_mem_nil, or_false] at he
  rcases he with rfl | rfl
  · exact hunchanged.1
  · exact hunchanged.2

end StreamingCompass
