import StreamingCompass.Concurrency.Linearization

/-! # Linearization of amounts written in cents

The in-memory registry compares requests as they were made, the write side by their
canonical amounts. Where every amount already has two decimal places the two are the same
request, and an interleaved run is a serial run of `OrderRegistry` on the commands
themselves.
-/
namespace StreamingCompass
open Interleaving

/-! ## Amounts in cents -/

/-- The amount already has two decimal places. -/
def RequestSignature.HasCents (s : RequestSignature) : Prop :=
  ∃ negative coefficient, s.amount = .decimal (.finite negative coefficient (-2))

theorem RequestSignature.HasCents.canonical_eq {s : RequestSignature} (h : s.HasCents) :
    s.canonical = s := by
  obtain ⟨negative,coefficient,hamount⟩ := h
  cases hnorm : normalizeMoney s.amount with
  | ok d =>
    rw [RequestSignature.canonical_eq hnorm]
    rw [hamount, normalizeMoney_decimal, Decimal.quantize_finite, Decimal.roundHalfEven_cents] at hnorm
    rw [hnorm.2, Decimal.ofCents, ← hamount]
  | error err => simp only [RequestSignature.canonical, hnorm]

/-! ## Serial runs of write invocations -/

def WriteInvocation.command (v : WriteInvocation) : RequestSignature × Draw := (v.signature,v.draw)

theorem Invocation.serve_run_write (mode : ValidationMode) {vs : List WriteInvocation}
    (hcents : ∀ v ∈ vs, v.signature.HasCents) (r : OrderRegistry) :
    (Invocation.serve mode).run r (vs.map .write) =
      ((r.run mode (vs.map WriteInvocation.command)).1.map some,
        (r.run mode (vs.map WriteInvocation.command)).2) := by
  induction vs generalizing r with
  | nil => rfl
  | cons v vs ih =>
    have hv := (hcents v (List.mem_cons_self ..)).canonical_eq
    have hrest := ih (fun v hv => hcents v (List.mem_cons_of_mem _ hv))
      (r.handle mode v.signature v.draw).2
    simp only [List.map_cons, SequentialObject.run_cons, serve_write, hv, hrest]
    rfl

theorem Invocation.exists_writes {mode : ValidationMode} {vs : List Invocation} {r r' : OrderRegistry}
    {answers : List (Option (Except PyException RegistryOutcome))}
    (hrun : (Invocation.serve mode).run r vs = (answers,r')) (hanswers : none ∉ answers) :
    ∃ ws : List WriteInvocation, vs = ws.map .write := by
  induction vs generalizing r answers with
  | nil => exact ⟨[],rfl⟩
  | cons v vs ih =>
    rw [SequentialObject.run_cons, Prod.mk.injEq] at hrun
    obtain ⟨rfl,rfl⟩ := hrun
    rw [List.mem_cons, not_or] at hanswers
    cases v with
    | write v =>
      obtain ⟨ws,rfl⟩ := ih (Prod.ext rfl rfl) hanswers.2
      exact ⟨v :: ws,rfl⟩
    | project workerName => exact absurd rfl hanswers.1

/-! ## Returned outcomes -/

theorem PostgresWriteSideResult.outcome_of_registryOutcome {r : PostgresWriteSideResult}
    {o : RegistryOutcome} (h : r.registryOutcome = some o) :
    r.outcome ∈ [PostgresWriteSideOutcome.accepted,.replay,.conflict] := by
  unfold registryOutcome at h
  cases ho : r.outcome <;> simp [ho] at h ⊢

/-- An acceptance carries its event, a replay the earlier one and a conflict its decision. -/
theorem Delivered.registryOutcome {W : WriteSide} {s : RequestSignature} {log : SqlLog}
    {r : PostgresWriteSideResult} (h : Delivered W s log r)
    (ho : r.outcome ∈ [PostgresWriteSideOutcome.accepted,.replay,.conflict]) :
    ∃ o, r.registryOutcome = some o := by
  cases h with
  | decided checked found unread validated =>
    obtain ⟨row,-,hclass⟩ := checked
    rcases PostgresIdempotencyStore.classify_cases hclass with ⟨rfl,-⟩ | ⟨pair,-,rfl | rfl⟩
    · exact absurd rfl found
    · exact ⟨_,rfl⟩
    · exact ⟨_,rfl⟩
  | notPrepared => simp at ho
  | blocked => simp at ho
  | notAppended => simp at ho
  | accepted => exact ⟨_,rfl⟩

variable {ι : Type} [DecidableEq ι]

/-- The invocation returned an acceptance, a replay or a conflict. -/
def System.Decides (c : System ι) (i : ι) : Prop :=
  ∃ d, c.delivered i = some (.ok d) ∧
    d.producerValue.result.outcome ∈ [PostgresWriteSideOutcome.accepted,.replay,.conflict]

/-- The registry answered a command, and its invocation returns that answer if it returns. -/
def ServedBy (c : System ι) (x : SqlEntry ι) (answer : Except PyException RegistryOutcome) : Prop :=
  ∃ o, answer = .ok o ∧ ∀ r, c.delivered x.thread = some r →
    ∃ d, r = .ok d ∧ d.producerValue.result.registryOutcome = some o

def Commands (invocations : ι → Invocation) : List (SqlEntry ι) → List (RequestSignature × Draw) → Prop :=
  List.Forall₂ (fun x call => ∃ v, invocations x.thread = .write v ∧ v.command = call)

variable [Fintype ι]

/-- A serial history of a run: statements of the invocations that took effect, one to each,
whose commands one registry serves in this order. -/
structure SerialHistory (D : Database ι) (faulty : ι → Prop) (t : Tables) (invocations : ι → Invocation)
    (mode : ValidationMode) (c : System ι) (order : List (SqlEntry ι)) : Prop where
  steps : order.Sublist c.trace.reverse
  once : (order.map (fun x => x.thread)).Nodup
  /-- once all have returned, the order holds exactly those that were decided -/
  returned : ∀ i, c.delivered i ≠ none → ((∃ x ∈ order, x.thread = i) ↔ c.Decides i)
  /-- only a commit takes effect before its invocation returns -/
  pending : ∀ x ∈ order, c.delivered x.thread = none → x.op = .commit
  realTime : order.Pairwise (fun x y =>
    ¬Precedes (D.machine faulty) (System.start t invocations) c y.thread x.thread)
  serial : ∃ calls answers, Commands invocations order calls ∧
    t.registry.run mode calls = (answers,c.world.tables.registry) ∧
    List.Forall₂ (ServedBy c) order answers

variable {D : Database ι} {faulty : ι → Prop} {t : Tables} {invocations : ι → Invocation}
  {c : System ι} {i : ι} {mode : ValidationMode} {order : List (SqlEntry ι)}

theorem Reachable.registryOutcome (h : Reachable D faulty t invocations c) (hi : c.Decides i) :
    ∃ d o, c.delivered i = some (.ok d) ∧ d.producerValue.result.registryOutcome = some o := by
  obtain ⟨d,hd,ho⟩ := hi
  cases hv : invocations i with
  | write v =>
    obtain ⟨o,hresult⟩ := (h.delivers hv hd).registryOutcome ho
    exact ⟨d,o,hd,hresult⟩
  | project workerName =>
    have hends := h.meets i _ (System.delivered_eq_some.mp hd)
    rw [hv] at hends
    exact hends.elim

omit [DecidableEq ι] [Fintype ι] in
theorem mem_effectiveSteps {place : ι → Option ℕ} {x : SqlEntry ι}
    (h : x ∈ effectiveSteps invocations place c) : ∃ n, Effective invocations place n x := by
  classical
  obtain ⟨⟨n,y⟩,hy,rfl⟩ := List.mem_map.mp h
  exact ⟨n,of_decide_eq_true (mem_points.mp hy).1⟩

/-- A linearization of writes in cents is a serial history of their commands. -/
theorem Linearizes.serialHistory (h : Reachable D faulty t invocations c)
    (hlinear : Linearizes D faulty t invocations mode c order)
    (hpending : ∀ x ∈ order, c.delivered x.thread = none → x.op = .commit)
    (hcents : ∀ i v, invocations i = .write v → v.signature.HasCents) :
    SerialHistory D faulty t invocations mode c order := by
  obtain ⟨answers,hrun,hanswers⟩ := hlinear.serial
  have hnone : none ∉ answers := by
    intro hmem
    obtain ⟨x,-,o,hanswer,-⟩ := exists_related hanswers.flip none hmem
    cases hanswer
  obtain ⟨vs,hvs⟩ := Invocation.exists_writes hrun hnone
  have hwrites : ∀ v ∈ vs, v.signature.HasCents := by
    intro v hv
    have hmem : Invocation.write v ∈ order.map (fun x => invocations x.thread) := by
      rw [hvs]
      exact List.mem_map_of_mem hv
    obtain ⟨x,-,hx⟩ := List.mem_map.mp hmem
    exact hcents x.thread v hx
  have hserved := Invocation.serve_run_write mode hwrites t.registry
  rw [← hvs, hrun, Prod.mk.injEq] at hserved
  obtain ⟨rfl,hlast⟩ := hserved
  have hcommands : Commands invocations order (vs.map WriteInvocation.command) := by
    rw [Commands, List.forall₂_map_right_iff]
    rw [← List.forall₂_eq_eq_eq, List.forall₂_map_left_iff, List.forall₂_map_right_iff] at hvs
    exact hvs.imp (fun x v hv => ⟨v,hv,rfl⟩)
  refine ⟨hlinear.steps,hlinear.once,?_,hpending,hlinear.realTime,_,_,hcommands,
    Prod.ext rfl hlast.symm,?_⟩
  · intro i hi
    constructor
    · rintro ⟨x,hx,rfl⟩
      obtain ⟨answer,-,o,-,hreturns⟩ := exists_related hanswers x hx
      obtain ⟨r,hr⟩ := Option.ne_none_iff_exists'.mp hi
      obtain ⟨d,rfl,ho⟩ := hreturns r hr
      exact ⟨d,hr,PostgresWriteSideResult.outcome_of_registryOutcome ho⟩
    · intro hdecides
      obtain ⟨d,o,hd,ho⟩ := h.registryOutcome hdecides
      exact hlinear.complete i d o hd ho
  · rw [List.forall₂_map_right_iff] at hanswers
    refine hanswers.imp (fun x answer hx => ?_)
    obtain ⟨o,hanswer,hreturns⟩ := hx
    exact ⟨o,Option.some.inj hanswer,hreturns⟩

/-- Whatever interleaves, the write invocations that returned an acceptance, a replay or a
conflict form a serial history: one in-memory registry, with the same validation or none,
gives the same answers to their commands and comes to hold what the tables hold. -/
theorem Reachable.exactly_linearizable (h : Reachable D faulty t invocations c)
    (ht : (World.initial t : World ι).Integral) (hs : t.Sound) (mode : ValidationMode)
    (hcents : ∀ i v, invocations i = .write v → v.signature.HasCents) :
    ∃ order, SerialHistory D faulty t invocations mode c order := by
  obtain ⟨place,hplace⟩ : ∃ place, PlacedReads D faulty t invocations c place :=
    PlacedReads.exists_place
  refine ⟨_,(hplace.linearizes h ht hs mode).serialHistory h ?_ hcents⟩
  intro x hx hnone
  obtain ⟨n,hcommit | hread⟩ := mem_effectiveSteps hx
  · exact hcommit.1
  · -- a chosen read decided an invocation that has returned
    obtain ⟨v,c₁,next,row,w,decision,validation,d,-,-,-,-,-,hd,-⟩ := hplace.sound x.thread n hread
    rw [hnone] at hd
    cases hd

namespace OvertakenCreation

/-- A creation of `A` under one request, and its amount. -/
def creation (placement : ValidationPlacement) (gate : Gate) (cents : ℕ) (drawn : Uuid) : WriteInvocation :=
  ⟨placement,gate,invokeValidation .strict,
    ⟨"r",.create,"A",.decimal (.finite false cents (-2))⟩,⟨drawn,0⟩,false,none⟩

/-- Two equal requests and one of another amount. -/
def calls : Fin 3 → Invocation
  | 0 => .write (creation .preTransaction .optimistic 2000 0)
  | 1 => .write (creation .inTransaction .pessimistic 2000 1)
  | 2 => .write (creation .preTransaction .pessimistic 2001 2)

def server : Database (Fin 3) := ⟨fun _ => false,fun _ => 0⟩

/-- The second commits between the first one's reads and its unit of work. -/
def final : System (Fin 3) :=
  ((System.start .empty calls).drive server.serve
    [0,0,1,1,1,1,1,1,1,1,1,0,0,0,0,2,2]).get (by decide +kernel)

end OvertakenCreation

theorem Reachable.exactly_linearizable_overtaken :
    (List.finRange 3).map (fun i => (OvertakenCreation.final.delivered i).map (fun r =>
      r.map (fun d => d.producerValue.result.outcome))) =
        [some (.ok .replay),some (.ok .accepted),some (.ok .conflict)] ∧
    ∃ order, SerialHistory OvertakenCreation.server (fun _ => False) .empty OvertakenCreation.calls .strict
      OvertakenCreation.final order := by
  have h : Reachable OvertakenCreation.server (fun _ => False) .empty OvertakenCreation.calls
      OvertakenCreation.final := Reachable.of_drive (Option.some_get _).symm
  refine ⟨by decide +kernel,Reachable.exactly_linearizable h .initial .empty .strict ?_⟩
  intro i v hv
  match i with
  | 0 | 1 | 2 =>
    obtain rfl := Invocation.write.inj hv
    exact ⟨_,_,rfl⟩

end StreamingCompass
