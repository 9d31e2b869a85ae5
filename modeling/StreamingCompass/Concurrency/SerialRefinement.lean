import StreamingCompass.Concurrency.SerialCommands

/-! # The write side one command at a time

On a server nobody else uses, every placement, gate and validation mode does what the
in-memory registry does: the same events, replays and conflicts, and the same exceptions.
-/
namespace StreamingCompass
open Interleaving

variable {ι : Type} [DecidableEq ι] [Fintype ι] {D : Database ι} {t : Tables}

/-! ## One command -/

/-- A request PostgreSQL can hold: texts without NUL, and an amount of at most sixteen
whole digits. -/
structure Holdable (s : RequestSignature) : Prop where
  requestId : hasNul s.requestId = false
  orderId : hasNul s.orderId = false
  amount : ∃ negative q, normalizeMoney s.amount = .ok (.ofCents negative q) ∧ q < 10^18

/-- The write side returns what the registry does, or raises its exception. -/
def ServedAs (r : Except PyException PostgresWriteSideDelivery) : Except PyException RegistryOutcome → Prop
  | .error e => r = .error e
  | .ok o => ∃ d, r = .ok d ∧ d.producerValue.result.registryOutcome = some o

/-- The store answers as the registry does, or raises its exception. -/
def AnswersAs (x : Except PyException PostgresWriteSideResult) : Except PyException RegistryOutcome → Prop
  | .error e => x = .error e
  | .ok o => ∃ result, x = .ok result ∧ result.registryOutcome = some o

theorem AnswersAs.servedAs {r : Except PyException PostgresWriteSideDelivery}
    {y : Except PyException RegistryOutcome}
    (h : AnswersAs (r.map (fun d => d.producerValue.result.ungated)) y) : ServedAs r y := by
  cases y with
  | error e =>
    cases r with
    | error e' => exact congrArg _ (Except.error.inj h)
    | ok d => cases h
  | ok o =>
    obtain ⟨result,hresult,ho⟩ := h
    cases r with
    | error e => cases hresult
    | ok d =>
      rw [← Except.ok.inj hresult] at ho
      exact ⟨d,rfl,ho⟩

namespace WriteInvocation
variable {v : WriteInvocation} {mode : ValidationMode}

/-- The repository's runtime allows what a command returns on a rehydrated history. -/
theorem candidateOf_handled (hv : v.invokeValidation = StreamingCompass.invokeValidation mode)
    {history : List OrderEvent} {a : OrderAggregate} {e : OrderEvent}
    (ha : rehydrate v.signature.orderId history = .ok a)
    (he : a.handle v.signature.commandType v.draw v.signature.requestId v.signature.amount = .ok e) :
    ∃ c, v.writeSide.candidateOf v.signature.orderId history = .ok c ∧ c.event = e ∧
      c.expectedCurrentVersion = a.currentVersion ∧ c.validationDecision.action = .allow := by
  have hhandled := handledEvent he
  have hid : isBlank e.eventId = false := by
    rw [hhandled.eventId]
    exact generateEventId_not_blank v.draw
  have hdecision := @decideWithRuleEvidence_decision mode e
    (buildValidationContext a history.getLast?) hid
  cases hcarrier : decideWithRuleEvidence mode e (buildValidationContext a history.getLast?) with
  | error err =>
    rw [hcarrier] at hdecision
    cases hdecision
  | ok carrier =>
    rw [hcarrier] at hdecision
    have hallow : carrier.decision.action = .allow := by
      rw [show carrier.decision = _ from Except.ok.inj hdecision]
      exact decideValidation_allow (hhandled.followsContext ha)
    refine ⟨⟨e,a.currentVersion,⟨carrier.decision,some carrier,fun c hc => by cases hc; rfl⟩⟩,?_,
      rfl,rfl,hallow⟩
    simp only [WriteSide.candidateOf, writeSide, ha, he, hv, StreamingCompass.invokeValidation, hcarrier,
      bind, Except.bind]

theorem handle_raised {r : OrderRegistry} {s : RequestSignature} {draw : Draw} {err : PyException}
    (hidem : r.idem s.requestId = none)
    (h : r.attempt s draw = .error err) : r.handle mode s draw = (.error err,r) := by
  unfold OrderRegistry.attempt at h
  simp only [OrderRegistry.handle_eq, OrderRegistry.serve, hidem, h]

theorem handle_canonical {s : RequestSignature} {d : Decimal} (hd : normalizeMoney s.amount = .ok d)
    (a : OrderAggregate) (draw : Draw) :
    a.handle s.canonical.commandType draw s.canonical.requestId s.canonical.amount =
      a.handle s.commandType draw s.requestId s.amount := by
  have hamount : ensurePositiveMoney (.decimal d) = ensurePositiveMoney s.amount := by
    simp only [ensurePositiveMoney, hd, normalizeMoney_normalized hd]
  rw [RequestSignature.canonical_eq hd]
  cases s.commandType with
  | create => simp only [OrderAggregate.handle, OrderAggregate.create, hamount]
  | pay => simp only [OrderAggregate.handle, OrderAggregate.pay, hamount]

theorem candidateOf_refused {r : OrderRegistry} {err : PyException}
    (h : r.attempt v.signature v.draw = .error err) :
    v.writeSide.candidateOf v.signature.orderId (r.store v.signature.orderId) = .error err := by
  simp only [OrderRegistry.attempt, WriteSide.candidateOf, writeSide, bind, Except.bind] at h ⊢
  cases ha : rehydrate v.signature.orderId (r.store v.signature.orderId) with
  | error err' =>
    rw [ha] at h
    obtain rfl := Except.error.inj h
    rfl
  | ok a =>
    rw [ha] at h
    simp only [h]

theorem serveUnrecorded_refused {r : OrderRegistry} {err : PyException}
    (ho : hasNul v.signature.orderId = false)
    (h : r.attempt v.signature v.draw = .error err) : r.serveUnrecorded v = (.error err,r) := by
  simp only [OrderRegistry.serveUnrecorded, ho, Bool.false_eq_true, if_false, candidateOf_refused h]

/-- A command its aggregate takes is accepted, if the column holds its amount. -/
theorem serveUnrecorded_handled {r : OrderRegistry} {e : OrderEvent}
    (hv : v.invokeValidation = StreamingCompass.invokeValidation mode)
    (ho : hasNul v.signature.orderId = false) (h : r.attempt v.signature v.draw = .ok e) :
    ∃ c, c.event = e ∧ r.serveUnrecorded v = match Numeric.ofDecimal e.amount with
      | .error err => (.error err,r)
      | .ok _ => (.ok (.acceptedAs .miss c),r.accept v.signature.canonical e) := by
  obtain ⟨a,ha,he⟩ := bind_eq_ok.mp h
  obtain ⟨c,hc,rfl,-,hallow⟩ := candidateOf_handled hv ha he
  refine ⟨c,rfl,?_⟩
  cases hamount : Numeric.ofDecimal c.event.amount with
  | error err =>
    simp only [OrderRegistry.serveUnrecorded, ho, Bool.false_eq_true, if_false, hc, hallow, ne_eq,
      not_true_eq_false, hamount]
  | ok amount =>
    simp only [OrderRegistry.serveUnrecorded, ho, Bool.false_eq_true, if_false, hc, hallow, ne_eq,
      not_true_eq_false, hamount]

/-- A request PostgreSQL can hold is served as the registry serves it. -/
theorem serveStored_handle {r : OrderRegistry}
    (hv : v.invokeValidation = StreamingCompass.invokeValidation mode) (hs : Holdable v.signature) :
    AnswersAs (r.serveStored v).1 (r.handle mode v.signature.canonical v.draw).1 ∧
      (r.serveStored v).2 = (r.handle mode v.signature.canonical v.draw).2 := by
  obtain ⟨negative,q,hnorm,hq⟩ := hs.amount
  cases hidem : r.idem v.signature.requestId with
  | some held =>
    have hcanonical : r.idem v.signature.canonical.requestId = some held := hidem
    simp only [OrderRegistry.serveStored, hs.requestId, Bool.false_eq_true, if_false, hidem, hnorm,
      OrderRegistry.handle_held hcanonical, and_true]
    cases held.signature.eq v.signature.canonical with
    | true => exact ⟨_,rfl,rfl⟩
    | false => exact ⟨_,rfl,rfl⟩
  | none =>
    have hcanonical : r.idem v.signature.canonical.requestId = none := hidem
    rw [OrderRegistry.serveStored_unrecorded hs.requestId hidem]
    cases hattempt : r.attempt v.signature v.draw with
    | error err =>
      have hhandle : r.handle mode v.signature.canonical v.draw = (.error err,r) := by
        apply handle_raised hcanonical
        unfold OrderRegistry.attempt at hattempt ⊢
        simp only [handle_canonical hnorm]
        exact hattempt
      simp only [serveUnrecorded_refused hs.orderId hattempt, hhandle, AnswersAs, and_self]
    | ok e =>
      obtain ⟨c,rfl,hserve⟩ := serveUnrecorded_handled hv hs.orderId hattempt
      obtain ⟨a,ha,he⟩ := bind_eq_ok.mp hattempt
      obtain ⟨hsame,q',-,-,hq'⟩ := ensurePositiveMoney_eq_ok.mp (handledEvent he).positive
      have hamount : ∃ amount, Numeric.ofDecimal c.event.amount = .ok amount := by
        rw [hnorm, hq', Except.ok.injEq, Decimal.ofCents, Decimal.ofCents, Decimal.finite.injEq] at hsame
        obtain ⟨-,rfl,-⟩ := hsame
        rw [hq', Numeric.ofDecimal_ofCents, dif_pos hq]
        exact ⟨_,rfl⟩
      obtain ⟨amount,hamount⟩ := hamount
      rw [OrderRegistry.handle_accepted hcanonical ha ((handle_canonical hnorm _ _).trans he)]
      simp only [hserve, hamount, and_true]
      exact ⟨_,rfl,rfl⟩

end WriteInvocation

/-! ## Sequences of commands -/

theorem serveStored_run (mode : ValidationMode) {vs : List WriteInvocation} (r : OrderRegistry)
    (hruntime : ∀ v ∈ vs, ∃ mode, v.invokeValidation = invokeValidation mode)
    (hholdable : ∀ v ∈ vs, Holdable v.signature) :
    List.Forall₂ AnswersAs (SequentialObject.run OrderRegistry.serveStored r vs).1
        (r.run mode (vs.map (fun v => (v.signature.canonical,v.draw)))).1 ∧
      (SequentialObject.run OrderRegistry.serveStored r vs).2 =
        (r.run mode (vs.map (fun v => (v.signature.canonical,v.draw)))).2 := by
  induction vs generalizing r with
  | nil => exact ⟨.nil,rfl⟩
  | cons v vs ih =>
    obtain ⟨mode',hmode⟩ := hruntime v (List.mem_cons_self ..)
    obtain ⟨hanswer,hnext⟩ := WriteInvocation.serveStored_handle (r := r) hmode
      (hholdable v (List.mem_cons_self ..))
    rw [OrderRegistry.handle_eq, ← OrderRegistry.handle_eq _ mode] at hanswer hnext
    obtain ⟨hanswers,hlast⟩ := ih (r.serveStored v).2
      (fun v hv => hruntime v (List.mem_cons_of_mem _ hv))
      (fun v hv => hholdable v (List.mem_cons_of_mem _ hv))
    rw [hnext] at hanswers hlast
    rw [SequentialObject.run_cons, hnext]
    exact ⟨.cons hanswer hanswers,hlast⟩

/-- Invocations a server can serve one after another. -/
structure Servable (D : Database ι) (t : Tables) (calls : List (ι × WriteInvocation)) : Prop where
  manual : ∀ call ∈ calls, D.autocommit call.1 = false
  runtime : ∀ call ∈ calls, ∃ mode, call.2.invokeValidation = invokeValidation mode
  holdable : ∀ call ∈ calls, Holdable call.2.signature
  distinct : (calls.map (fun call => generateEventId call.2.draw)).Nodup
  fresh : ∀ call ∈ calls, generateEventId call.2.draw ∉ t.orderEvents.map (fun r => r.acceptedEventId)

omit [DecidableEq ι] [Fintype ι] in
theorem Servable.issued {calls : List (ι × WriteInvocation)} (h : Servable D t calls) :
    Issued D t calls := ⟨h.manual,h.distinct,h.fresh⟩

/-- Any sequence of commands, in any mixture of placements, gates, validation modes and
connections, is served as the in-memory registry serves it: event for event, replay for
replay, conflict for conflict and exception for exception, and the registry ends as the
tables do. -/
theorem serial_refines_registry {calls : List (ι × WriteInvocation)} (ht : t.Serial)
    (h : Servable D t calls) (mode : ValidationMode) :
    ∃ rs t', D.serveAll calls (World.initial t) = some (rs,World.initial t') ∧
      List.Forall₂ ServedAs rs (t.registry.run mode
        (calls.map (fun call => (call.2.signature.canonical,call.2.draw)))).1 ∧
      t'.registry = (t.registry.run mode
        (calls.map (fun call => (call.2.signature.canonical,call.2.draw)))).2 := by
  obtain ⟨rs,t',hrun,-,hstored,-⟩ := h.issued.serveAll_stored ht
  have hruntime : ∀ v ∈ calls.map Prod.snd, ∃ mode, v.invokeValidation = invokeValidation mode :=
    List.forall_mem_map.mpr h.runtime
  have hholdable : ∀ v ∈ calls.map Prod.snd, Holdable v.signature :=
    List.forall_mem_map.mpr h.holdable
  obtain ⟨hanswers,hlast⟩ := serveStored_run mode t.registry hruntime hholdable
  rw [← hstored, List.map_map] at hanswers hlast
  refine ⟨rs,t',hrun,?_,hlast⟩
  exact (List.forall₂_map_left_iff.mp hanswers).imp (fun _ _ hr => hr.servedAs)

namespace PaidOrder

/-- A creation, its retry, the payment, and a second creation under a new request. -/
def calls : List (Fin 2 × WriteInvocation) :=
  [(0,⟨.preTransaction,.optimistic,invokeValidation .strict,⟨"r",.create,"A",.int 20⟩,⟨0,0⟩,false,none⟩),
   (1,⟨.inTransaction,.pessimistic,invokeValidation .off,
     ⟨"r",.create,"A",.decimal (.finite false 20004 (-3))⟩,⟨1,0⟩,true,none⟩),
   (1,⟨.inTransaction,.optimistic,invokeValidation .off,⟨"p",.pay,"A",.int 20⟩,⟨2,0⟩,false,none⟩),
   (0,⟨.preTransaction,.pessimistic,invokeValidation .strict,⟨"s",.create,"A",.int 5⟩,⟨3,0⟩,false,none⟩)]

end PaidOrder

theorem serial_refines_registry_paid : ∃ rs t',
    RacingCreations.server.serveAll PaidOrder.calls (World.initial .empty) = some (rs,World.initial t') ∧
      rs.length = 4 ∧ (t'.registry.idem "p").isSome = true ∧ t'.registry.idem "s" = none := by
  have hservable : Servable RacingCreations.server .empty PaidOrder.calls := by
    refine ⟨by decide,?_,?_,by decide +kernel,fun call _ => by simp [Tables.empty]⟩
    all_goals simp only [PaidOrder.calls, List.forall_mem_cons]
    · exact ⟨⟨_,rfl⟩,⟨_,rfl⟩,⟨_,rfl⟩,⟨_,rfl⟩,by simp⟩
    · exact ⟨⟨rfl,rfl,false,2000,by decide +kernel,by omega⟩,⟨rfl,rfl,false,2000,by decide +kernel,by omega⟩,
        ⟨rfl,rfl,false,2000,by decide +kernel,by omega⟩,⟨rfl,rfl,false,500,by decide +kernel,by omega⟩,by simp⟩
  obtain ⟨rs,t',hruns,hanswers,hregistry⟩ := serial_refines_registry .empty hservable .strict
  refine ⟨rs,t',hruns,?_,?_,?_⟩
  · rw [hanswers.length_eq]
    decide +kernel
  · rw [hregistry]
    decide +kernel
  · rw [hregistry]
    decide +kernel

end StreamingCompass
