import StreamingCompass.Core.History
import StreamingCompass.Transactional.ContractParity
import StreamingCompass.Transactional.Registry

/-! # Strict validation of honest commands

A candidate that `create` or `pay` returns on a rehydrated aggregate passes every transition
rule, whatever history `apply` took, so the registry does the same with and without
validation.
-/
namespace StreamingCompass

theorem HandledEvent.followsContext {orderId : String} {history : List OrderEvent}
    {a : OrderAggregate} {command : CommandType} {draw : Draw} {requestId : String}
    {amount : MoneyInput} {e : OrderEvent} (h : HandledEvent a command draw requestId amount e)
    (ha : rehydrate orderId history = .ok a) :
    FollowsContext e (buildValidationContext a history.getLast?) := by
  have hproof := h.proof
  refine ⟨h.sequence,?_,?_,?_,?_⟩
  · rw [hproof]
    exact (rehydrate_head ha).2
  · rw [hproof]
    rfl
  · rw [hproof]
    rfl
  · rw [h.eventType]
    exact h.status

/-! ## One command -/

namespace OrderRegistry

def accept (r : OrderRegistry) (s : RequestSignature) (e : OrderEvent) : OrderRegistry :=
  ⟨Function.update r.store e.orderId (r.store e.orderId ++ [e]),r.idem.record s e⟩

/-- What a command does when nothing but its own legality can stop it. -/
def serve (r : OrderRegistry) (s : RequestSignature) (draw : Draw) :
    Except PyException RegistryOutcome × OrderRegistry :=
  match r.idem s.requestId with
  | some existing =>
    (.ok (if existing.signature.eq s then .event existing.acceptedEvent
      else .conflict (.conflict existing)),r)
  | none =>
    match (do let a ← rehydrate s.orderId (r.store s.orderId)
              a.handle s.commandType draw s.requestId s.amount) with
    | .error e => (.error e,r)
    | .ok e => (.ok (.event e),r.accept s e)

/-- The event a command adds to the history of its order, or what it raises. -/
def attempt (r : OrderRegistry) (s : RequestSignature) (draw : Draw) : Except PyException OrderEvent := do
  let a ← rehydrate s.orderId (r.store s.orderId)
  a.handle s.commandType draw s.requestId s.amount

/-- A candidate of the order's aggregate is admitted by the version gate. -/
theorem appendIfAdmitted_handled {r : OrderRegistry} {s : RequestSignature} {draw : Draw}
    {a : OrderAggregate} {e : OrderEvent} (ha : rehydrate s.orderId (r.store s.orderId) = .ok a)
    (h : HandledEvent a s.commandType draw s.requestId s.amount e) :
    OptimisticVersionGate.appendIfAdmitted r.store e a.currentVersion =
      (⟨.admitted,"Event admitted by optimistic version gate",e.eventId,some e.eventId,none⟩,
        Function.update r.store e.orderId (r.store e.orderId ++ [e])) := by
  have horder : e.orderId = s.orderId := h.orderId.trans (rehydrate_orderId ha)
  have hlength : (r.store e.orderId).length = a.currentVersion := by
    rw [horder, (rehydrate_head ha).1]
  simp only [OptimisticVersionGate.appendIfAdmitted, EventStore.append, hlength, h.sequence,
    ne_eq, not_true_eq_false, if_false]

/-- Whatever the mode, a command is stopped by its own legality only. -/
theorem handle_eq (r : OrderRegistry) (mode : ValidationMode) (s : RequestSignature) (draw : Draw) :
    r.handle mode s draw = r.serve s draw := by
  unfold handle serve IdempotencyProvider.check
  cases hidem : r.idem s.requestId with
  | some existing =>
    cases heq : existing.signature.eq s with
    | true => simp [heq, IdempotencyDecision.replay]
    | false => simp [heq, IdempotencyDecision.conflict]
  | none =>
    simp only [IdempotencyDecision.miss]
    cases ha : rehydrate s.orderId (r.store s.orderId) with
    | error err => rfl
    | ok a =>
      simp only [bind, Except.bind]
      cases he : a.handle s.commandType draw s.requestId s.amount with
      | error err => rfl
      | ok e =>
        have hhandled := handledEvent he
        have hallowed : (decideValidation mode e
            (buildValidationContext a (r.store s.orderId).getLast?)).action = .allow :=
          decideValidation_allow (hhandled.followsContext ha)
        have happly := OrderAggregate.apply_of_follows hhandled.orderId (hhandled.followsContext ha)
        simp only [hallowed, appendIfAdmitted_handled ha hhandled, happly, ne_eq, not_true_eq_false,
          if_false, accept]

/-- A sequence of commands, each with what it would draw. -/
def run (r : OrderRegistry) (mode : ValidationMode) :
    List (RequestSignature × Draw) → List (Except PyException RegistryOutcome) × OrderRegistry
  | [] => ([],r)
  | (s,draw) :: calls =>
    let (outcome,next) := r.handle mode s draw
    let (outcomes,last) := next.run mode calls
    (outcome :: outcomes,last)

theorem run_mode (r : OrderRegistry) (mode mode' : ValidationMode)
    (calls : List (RequestSignature × Draw)) : r.run mode calls = r.run mode' calls := by
  induction calls generalizing r with
  | nil => rfl
  | cons call calls ih =>
    unfold run
    rw [handle_eq r mode, handle_eq r mode']
    simp only [ih]

end OrderRegistry

/-! ## Up to event identities and times -/

/-- An event without the identities and the time drawn for it. -/
def OrderEvent.forget (e : OrderEvent) : OrderEvent :=
  {e with
    eventId := "", occurredAtMs := 0,
    proof := {e.proof with prevEventId := e.proof.prevEventId.map (fun _ => "")}}

def OrderAggregate.forget (a : OrderAggregate) : OrderAggregate :=
  {a with lastEventId := a.lastEventId.map (fun _ => "")}

def IdempotencyRecord.forget (r : IdempotencyRecord) : IdempotencyRecord :=
  {r with acceptedEvent := r.acceptedEvent.forget}

def IdempotencyDecision.forget (d : IdempotencyDecision) : IdempotencyDecision :=
  {d with record := d.record.map IdempotencyRecord.forget}

def ValidationDecision.forget (d : ValidationDecision) : ValidationDecision :=
  {d with validationResult := {d.validationResult with candidateEventId := ""}}

def AdmissionResult.forget (r : AdmissionResult) : AdmissionResult :=
  {r with candidateEventId := "", acceptedEventId := r.acceptedEventId.map (fun _ => "")}

def RegistryOutcome.forget : RegistryOutcome → RegistryOutcome
  | .event e => .event e.forget
  | .conflict decision => .conflict decision.forget
  | .blocked decision => .blocked decision.forget
  | .notAdmitted result => .notAdmitted result.forget

def OrderRegistry.forget (r : OrderRegistry) : OrderRegistry :=
  ⟨fun orderId => (r.store orderId).map OrderEvent.forget,
    fun requestId => (r.idem requestId).map IdempotencyRecord.forget⟩

@[simp] theorem OrderEvent.forget_forget (e : OrderEvent) : e.forget.forget = e.forget := by
  simp [OrderEvent.forget, Function.comp_def]

@[simp] theorem IdempotencyRecord.forget_forget (r : IdempotencyRecord) :
    r.forget.forget = r.forget := by
  simp [IdempotencyRecord.forget]

@[simp] theorem OrderRegistry.forget_forget (r : OrderRegistry) : r.forget.forget = r.forget := by
  simp [OrderRegistry.forget, Function.comp_def]

/-- Creation draws the identity and the time only. -/
theorem OrderEvent.create_map_forget (draw : Draw) (requestId orderId : String) (sequence : ℤ)
    (eventType : EventType) (amount : Decimal) (proof : Proof) :
    (OrderEvent.create draw requestId orderId sequence eventType amount proof).map forget =
      (normalizeMoney (.decimal amount)).map (fun d => ⟨"",requestId,orderId,sequence,eventType,d,0,
        ⟨proof.prevStatus,proof.prevVersion,proof.prevEventId.map (fun _ => "")⟩⟩) := by
  unfold create
  cases normalizeMoney (.decimal amount) with
  | error err => rfl
  | ok d => rfl

namespace OrderAggregate

theorem apply_forget (a : OrderAggregate) (e : OrderEvent) :
    (a.apply e).map forget = a.forget.apply e.forget := by
  unfold apply
  by_cases horder : e.orderId = a.orderId
  · by_cases hsequence : e.sequence = a.currentVersion+1
    · cases htype : e.eventType <;>
        simp [horder, hsequence, htype, forget, OrderEvent.forget, Except.map]
    · simp [horder, hsequence, forget, OrderEvent.forget, Except.map]
  · simp [horder, forget, OrderEvent.forget, Except.map]

theorem create_forget (a : OrderAggregate) (draw draw' : Draw) (requestId : String)
    (eventType : EventType) (amount : Decimal) :
    (OrderEvent.create draw requestId a.orderId (a.currentVersion+1) eventType amount a.proof).map
        OrderEvent.forget =
      (OrderEvent.create draw' requestId a.forget.orderId (a.forget.currentVersion+1) eventType
        amount a.forget.proof).map OrderEvent.forget := by
  have hproof : a.forget.proof.prevEventId.map (fun _ => "") = a.proof.prevEventId.map (fun _ => "") :=
    Option.map_map ..
  rw [OrderEvent.create_map_forget, OrderEvent.create_map_forget, hproof]
  rfl

/-- A candidate draws nothing from its aggregate but what forgetting keeps. -/
theorem handle_forget (a : OrderAggregate) (command : CommandType) (draw draw' : Draw)
    (requestId : String) (amount : MoneyInput) :
    (a.handle command draw requestId amount).map OrderEvent.forget =
      (a.forget.handle command draw' requestId amount).map OrderEvent.forget := by
  have hstatus : a.forget.status = a.status := rfl
  have htotal : a.forget.totalAmount = a.totalAmount := rfl
  unfold handle create pay
  rw [hstatus, htotal]
  simp only [bind, Except.bind]
  cases requireNonEmptyRequestId requestId with
  | error err => cases command <;> simp only
  | ok _ =>
    cases ensurePositiveMoney amount with
    | error err => cases command <;> simp only
    | ok d =>
      cases command with
      | create =>
        by_cases hinit : a.status = .init
        · simp only [hinit, ne_eq, not_true_eq_false, if_false]
          exact create_forget ..
        · simp only [hinit, ne_eq, not_false_eq_true, if_true]
      | pay =>
        cases a.status with
        | init => simp only
        | paid => simp only
        | created =>
          by_cases hequal : d.eq a.totalAmount = true
          · simp only [hequal, if_true]
            exact create_forget ..
          · simp only [hequal, Bool.false_eq_true, if_false]

end OrderAggregate

theorem rehydrate_forget (orderId : String) (history : List OrderEvent) :
    (rehydrate orderId history).map OrderAggregate.forget =
      rehydrate orderId (history.map OrderEvent.forget) := by
  induction history using List.reverseRecOn with
  | nil =>
    unfold rehydrate OrderAggregate.new
    split
    · rfl
    · rfl
  | append_singleton history e ih =>
    rw [List.map_append, List.map_singleton, rehydrate_append, rehydrate_append, ← ih]
    cases rehydrate orderId history with
    | error err => rfl
    | ok a => exact a.apply_forget e

namespace OrderRegistry

/-- An outcome and the registry after it, up to identities and times. -/
def forgetServed (served : Except PyException RegistryOutcome × OrderRegistry) :
    Except PyException RegistryOutcome × OrderRegistry :=
  (served.1.map RegistryOutcome.forget,served.2.forget)

theorem accept_forget (r : OrderRegistry) (s : RequestSignature) (e : OrderEvent) :
    (r.accept s e).forget = r.forget.accept s e.forget := by
  unfold accept forget IdempotencyProvider.record
  congr 1
  · funext orderId
    by_cases h : orderId = e.orderId
    · subst h
      simp [OrderEvent.forget]
    · simp [OrderEvent.forget, h]
  · funext requestId
    by_cases h : requestId = s.requestId
    · subst h
      simp [IdempotencyRecord.forget]
    · simp [h]

theorem attempt_forget (r : OrderRegistry) (s : RequestSignature) (draw draw' : Draw) :
    (r.attempt s draw).map OrderEvent.forget = (r.forget.attempt s draw').map OrderEvent.forget := by
  have hstore : r.forget.store s.orderId = (r.store s.orderId).map OrderEvent.forget := rfl
  unfold attempt
  rw [hstore, ← rehydrate_forget]
  cases rehydrate s.orderId (r.store s.orderId) with
  | error err => simp only [bind, Except.bind, Except.map]
  | ok a => exact a.handle_forget ..

/-- What a command does depends on earlier identities and times in nothing else. -/
theorem serve_forget (r : OrderRegistry) (s : RequestSignature) (draw draw' : Draw) :
    forgetServed (r.serve s draw) = forgetServed (r.forget.serve s draw') := by
  have hcandidate := r.attempt_forget s draw draw'
  unfold attempt at hcandidate
  unfold serve
  have hidem : r.forget.idem s.requestId = (r.idem s.requestId).map IdempotencyRecord.forget := rfl
  rw [hidem]
  cases r.idem s.requestId with
  | some existing =>
    have hsignature : existing.forget.signature = existing.signature := rfl
    simp only [Option.map_some, hsignature, forgetServed, forget_forget]
    cases existing.signature.eq s with
    | true => simp [Except.map, RegistryOutcome.forget, IdempotencyRecord.forget]
    | false =>
      simp [Except.map, RegistryOutcome.forget, IdempotencyDecision.forget, IdempotencyDecision.conflict]
  | none =>
    simp only [Option.map_none]
    revert hcandidate
    generalize (do let a ← rehydrate s.orderId (r.store s.orderId)
                   a.handle s.commandType draw s.requestId s.amount) = left
    generalize (do let a ← rehydrate s.orderId (r.forget.store s.orderId)
                   a.handle s.commandType draw' s.requestId s.amount) = right
    intro hcandidate
    cases left with
    | error err =>
      cases right with
      | error err' =>
        obtain rfl := Except.error.inj hcandidate
        simp [forgetServed]
      | ok e' => cases hcandidate
    | ok e =>
      cases right with
      | error err' => cases hcandidate
      | ok e' =>
        have he : e.forget = e'.forget := Except.ok.inj hcandidate
        simp [forgetServed, accept_forget, Except.map, RegistryOutcome.forget, he]

theorem run_forget {r r' : OrderRegistry} {mode : ValidationMode}
    {calls calls' : List (RequestSignature × Draw)} (hr : r.forget = r'.forget)
    (hcalls : calls.map Prod.fst = calls'.map Prod.fst) :
    (r.run mode calls).1.map (Except.map RegistryOutcome.forget) =
        (r'.run mode calls').1.map (Except.map RegistryOutcome.forget) ∧
      (r.run mode calls).2.forget = (r'.run mode calls').2.forget := by
  induction calls generalizing r r' calls' with
  | nil =>
    obtain rfl : calls' = [] := by simpa using hcalls.symm
    exact ⟨rfl,hr⟩
  | cons call calls ih =>
    cases calls' with
    | nil => cases hcalls
    | cons call' calls' =>
      obtain ⟨s,draw⟩ := call
      obtain ⟨s',draw'⟩ := call'
      simp only [List.map_cons, List.cons.injEq] at hcalls
      obtain ⟨rfl,hcalls⟩ := hcalls
      have hserved : forgetServed (r.handle mode s draw) = forgetServed (r'.handle mode s draw') := by
        rw [handle_eq, handle_eq, serve_forget r s draw draw, hr, ← serve_forget]
      have hout := congrArg Prod.fst hserved
      have hnext := congrArg Prod.snd hserved
      obtain ⟨houtcomes,hlast⟩ := ih hnext hcalls
      exact ⟨congrArg₂ List.cons hout houtcomes,hlast⟩

end OrderRegistry

/-- Strict validation stops no candidate the order's own commands return, so a run of the
registry is the same with and without it. -/
theorem strict_never_blocks :
    (∀ {orderId history a}, rehydrate orderId history = .ok a →
      ∀ {command draw requestId amount e}, a.handle command draw requestId amount = .ok e →
        (FullProofValidator.validate e (buildValidationContext a history.getLast?)).verdict = .passed ∧
          ∃ a', a.apply e = .ok a') ∧
    ∀ (r r' : OrderRegistry) (calls calls' : List (RequestSignature × Draw)), r.forget = r'.forget →
      calls.map Prod.fst = calls'.map Prod.fst →
      (r.run .strict calls).1.map (Except.map RegistryOutcome.forget) =
          (r'.run .off calls').1.map (Except.map RegistryOutcome.forget) ∧
        (r.run .strict calls).2.forget = (r'.run .off calls').2.forget := by
  refine ⟨fun ha => fun he => ?_,fun r r' calls calls' hr hcalls => ?_⟩
  · have hhandled := handledEvent he
    have hfollows := hhandled.followsContext ha
    exact ⟨validate_passed_iff.mpr hfollows,_,OrderAggregate.apply_of_follows hhandled.orderId hfollows⟩
  · rw [r.run_mode .strict .off]
    exact OrderRegistry.run_forget hr hcalls

/-- A second creation, which no command returns and `apply` takes. -/
def secondCreation : OrderEvent :=
  ⟨"e-2","r-2","o-1",2,.created,.ofCents false 500,0,⟨.init,0,none⟩⟩
def recreatedAggregate : OrderAggregate :=
  ⟨"o-1",2,.created,.ofCents false 500,.zero,some "e-2"⟩

/-- A creation and its full payment, with what they draw. -/
def createAndPay (draw draw' : Draw) : List (RequestSignature × Draw) :=
  [(⟨"r-1",.create,"o-1",.int 10⟩,draw),(⟨"r-2",.pay,"o-1",.int 10⟩,draw')]

/-- The payment after two creations, and a created and paid order with other draws. -/
theorem strict_never_blocks_recreated :
    (∃ e a, recreatedAggregate.handle .pay ⟨3,7⟩ "r-3" (.int 5) = .ok e ∧
      (FullProofValidator.validate e
        (buildValidationContext recreatedAggregate (some secondCreation))).verdict = .passed ∧
      recreatedAggregate.apply e = .ok a) ∧
    (OrderRegistry.empty.run .strict (createAndPay ⟨1,5⟩ ⟨2,6⟩)).2.forget =
      (OrderRegistry.empty.run .off (createAndPay ⟨3,7⟩ ⟨4,8⟩)).2.forget := by
  obtain ⟨hpasses,hruns⟩ := strict_never_blocks
  have ha : rehydrate "o-1" [firstCreation,secondCreation] = .ok recreatedAggregate := by
    decide +kernel
  refine ⟨?_,(hruns .empty .empty (createAndPay ⟨1,5⟩ ⟨2,6⟩) (createAndPay ⟨3,7⟩ ⟨4,8⟩) rfl rfl).2⟩
  have hreturns : ∃ e, recreatedAggregate.handle .pay ⟨3,7⟩ "r-3" (.int 5) = .ok e := by
    have hrequest : isBlank "r-3" = false := by decide +kernel
    have hamount : ensurePositiveMoney (.int 5) = .ok (.ofCents false 500) := by decide +kernel
    simp only [OrderAggregate.handle, OrderAggregate.pay, OrderAggregate.requireNonEmptyRequestId,
      hrequest, hamount, recreatedAggregate, OrderEvent.create_eq_ok hamount, bind, Except.bind,
      Bool.false_eq_true, if_false]
    exact ⟨_,rfl⟩
  obtain ⟨e,he⟩ := hreturns
  obtain ⟨hpassed,a',happly⟩ := hpasses ha he
  exact ⟨e,a',he,hpassed,happly⟩

end StreamingCompass
