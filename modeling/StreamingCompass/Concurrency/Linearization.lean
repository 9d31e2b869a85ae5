import StreamingCompass.Concurrency.TableRegistry
import StreamingCompass.Interleaving.Linearization

/-! # Linearization to the in-memory registry

Whatever interleaves on the tables, the invocations that were accepted, replayed or told of
a conflict did what one `OrderRegistry` does with their requests one after another, each at
a statement of its own: the commit of an accepted one, the read that decided another.
-/
namespace StreamingCompass
open Interleaving

/-! ## Linearized runs -/

/-- A write invocation is one call of the registry; a worker does nothing to it. -/
def Invocation.serve (mode : ValidationMode) :
    SequentialObject OrderRegistry Invocation (Option (Except PyException RegistryOutcome)) :=
  fun r v => match v with
    | .write v =>
      let served := r.handle mode v.signature.canonical v.draw
      (some served.1,served.2)
    | .project _ => (none,r)

@[simp] theorem Invocation.serve_write (mode : ValidationMode) (r : OrderRegistry) (v : WriteInvocation) :
    Invocation.serve mode r (.write v) = (some (r.handle mode v.signature.canonical v.draw).1,
      (r.handle mode v.signature.canonical v.draw).2) := rfl

variable {ι : Type} [DecidableEq ι]

/-- What the registry answers a call is what its invocation returns, once it does. -/
def AgreesWith (c : System ι) (x : SqlEntry ι) (answer : Option (Except PyException RegistryOutcome)) :
    Prop :=
  ∃ o, answer = some (.ok o) ∧ ∀ r, c.delivered x.thread = some r →
    ∃ d, r = .ok d ∧ d.producerValue.result.registryOutcome = some o

variable [Fintype ι]

/-- Statements of a run, one to an invocation, at which the registry serves it. -/
structure Linearizes (D : Database ι) (faulty : ι → Prop) (t : Tables) (invocations : ι → Invocation)
    (mode : ValidationMode) (c : System ι) (order : List (SqlEntry ι)) : Prop where
  steps : order.Sublist c.trace.reverse
  once : (order.map (fun x => x.thread)).Nodup
  complete : ∀ i d o, c.delivered i = some (.ok d) →
    d.producerValue.result.registryOutcome = some o → ∃ x ∈ order, x.thread = i
  realTime : order.Pairwise (fun x y =>
    ¬Precedes (D.machine faulty) (System.start t invocations) c y.thread x.thread)
  serial : ∃ answers, (Invocation.serve mode).run t.registry
      (order.map (fun x => invocations x.thread)) = (answers,c.world.tables.registry) ∧
    List.Forall₂ (AgreesWith c) order answers

variable {D : Database ι} {faulty : ι → Prop} {t : Tables} {invocations : ι → Invocation}
  {c c₁ : System ι} {i : ι} {v : WriteInvocation} {mode : ValidationMode}

omit [Fintype ι] in
theorem Accepting.acceptedAs {e : OrderEvent} {p : IdempotencyParameters} {row : OrderEventRow}
    {record : IdempotencyRow} (h : Accepting c i v e p row record) :
    AcceptedAs (c.world.tables.accept row record) v.signature e row record := by
  obtain ⟨rows,a,hmem,hrehydrate,hbuild,-,-⟩ := h.pending.appending.loaded
  have hhandled := handledEvent hbuild
  have horder : e.orderId = v.signature.orderId := hhandled.orderId.trans (rehydrate_orderId hrehydrate)
  obtain ⟨hrecorded,hcommand⟩ := Recorded.of_stored hhandled.positive hhandled.requestId horder
    hhandled.eventType h.storedEvent h.parameters h.storedRecord
  have hback := h.storedEvent.rowToOrderEvent_eq (ensurePositiveMoney_eq_ok.mp hhandled.positive).2
  refine ⟨List.mem_append_right _ (List.mem_singleton_self _),
    List.mem_append_right _ (List.mem_singleton_self _),hrecorded,hback,?_,?_,hcommand,hhandled.positive⟩
  · rw [hrecorded.requestId, ← hhandled.requestId, ← hback]
    rfl
  · rw [hrecorded.orderId, ← horder, ← hback]
    rfl

namespace Reachable

/-- A commit serves the invocation's request on the registry of its tables. -/
theorem serves_commit (h : Reachable D faulty t invocations c) (ht : (World.initial t : World ι).Integral)
    (hs : t.Sound) {next : SqlReply .commit → SqlProgram InvocationResult} {reply : SqlReply .commit}
    {w : World ι} (running : c.program i = some (.call .commit next))
    (executes : SqlStep D faulty i c.world .commit reply w) (hv : invocations i = .write v)
    (mode : ValidationMode) :
    ∃ e p, Pending v.writeSide v.signature (c.log i) e [p] ∧
      c.world.tables.registry.handle mode v.signature.canonical v.draw =
        (.ok (.event e),w.tables.registry) := by
  obtain ⟨e,p,row,record,ha⟩ := h.accepting running hv
  have hstep : Reachable D faulty t invocations (c.advance i .commit reply (next reply) w) :=
    h.tail (.call running executes)
  have hsound := h.sound ht hs
  have hsound' := hstep.sound ht hs
  have hintegral' := hstep.integral ht
  obtain ⟨rfl,rfl⟩ := SqlStep.commit_eq executes
  obtain ⟨-,hnamed,hbuilt⟩ := builtOnCurrent h ht
    (fun c₁ j op next reply w hp => (of_performed hp).sound ht hs) hsound hv ha.pending.appending
    ha.storedEvent (by rw [ha.pendingEvent]; exact List.mem_singleton_self _)
  have hids := hintegral'.eventId.settled
  have hrequests := hintegral'.request.settled
  simp only [Config.advance_world, ha.tables] at hsound' hids hrequests
  have haccepted := ha.acceptedAs
  refine ⟨e,p,ha.pending,?_⟩
  rw [ha.tables, hsound.registry_accept hsound' hids hrequests haccepted]
  have hnone : c.world.tables.loadRecord v.signature.requestId = none := by
    rw [Tables.accept_idempotencyRecords, List.map_append, List.nodup_append] at hrequests
    have hfresh : v.signature.requestId ∉
        c.world.tables.idempotencyRecords.map (fun r => r.requestId) := by
      intro hmem
      exact hrequests.2.2 _ hmem _ (List.mem_singleton_self _) haccepted.requestId.symm
    rw [Tables.loadRecord, find?_key_none hfresh, Option.bind_none]
  have hrehydrate := (hsound.legal_events v.signature.orderId).rehydrate_eq hnamed
  exact OrderRegistry.handle_accepted (by
      change (c.world.tables.loadRecord v.signature.requestId).map _ = none
      rw [hnone, Option.map_none]) hrehydrate
    (handle_eq_ok.mpr (handledEvent hbuilt).canonical)

theorem serves_decided (h : Reachable D faulty t invocations c)
    (ht : (World.initial t : World ι).Integral) (hs : t.Sound)
    {next : SqlReply (.selectIdempotencyRecord v.signature.requestId) → SqlProgram InvocationResult}
    {row : Option (IdempotencyRow × OrderEventRow)} {w : World ι}
    (running : c.program i = some (.call (.selectIdempotencyRecord v.signature.requestId) next))
    (executes : SqlStep D faulty i c.world (.selectIdempotencyRecord v.signature.requestId) (.ok row) w)
    (hv : invocations i = .write v) {d : IdempotencyDecision}
    (hd : PostgresIdempotencyStore.classify v.signature row = .ok d) (hmiss : d.verdict ≠ .miss)
    (mode : ValidationMode) :
    ∃ o, c.world.tables.registry.handle mode v.signature.canonical v.draw =
        (.ok o,w.tables.registry) ∧
      ∀ validation, (PostgresWriteSideResult.decided d validation).registryOutcome = some o := by
  have hg := h.guard running
  rw [hv] at hg
  have hrow : row = c.world.tables.loadRecord v.signature.requestId := by
    rw [← (h.mirrors running).visible_eq hg.2.noRows]
    exact SqlStep.answer executes rfl (fun _ => rfl)
  subst hrow
  obtain ⟨o,hhandle,ho⟩ := (h.sound ht hs).registry_decided (h.integral ht).eventId.settled hd hmiss
    mode v.draw
  exact ⟨o,by rw [hhandle, h.tables_eq running executes (by simp)],ho⟩

theorem registry_eq (h : Reachable D faulty t invocations c) {op : Operation}
    {next : SqlReply op → SqlProgram InvocationResult} {reply : SqlReply op} {w : World ι}
    (running : c.program i = some (.call op next)) (executes : SqlStep D faulty i c.world op reply w)
    (hquiet : ¬(op = .commit ∧ ∃ v, invocations i = .write v)) :
    w.tables.registry = c.world.tables.registry := by
  by_cases hop : op = .commit
  · subst hop
    obtain ⟨rfl,rfl⟩ := SqlStep.commit_eq executes
    cases hv : invocations i with
    | write v => exact absurd ⟨rfl,v,hv⟩ hquiet
    | project workerName =>
      rcases h.projected running hv with hsame | ⟨row,st,state,hp⟩
      · rw [hsame]
      · rw [hp.tables]
        exact Tables.registry_congr rfl rfl
  · rw [h.tables_eq running executes hop]

/-- An invocation that committed and returned was accepted with what it committed. -/
theorem returned_commit (h : Reachable D faulty t invocations c)
    {next : SqlReply .commit → SqlProgram InvocationResult} {reply : SqlReply .commit} {w : World ι}
    (hp : Performed (D.machine faulty) (System.start t invocations) c c₁ i .commit next reply w)
    (hv : invocations i = .write v) {e : OrderEvent} {p : IdempotencyParameters}
    (hpending : Pending v.writeSide v.signature (c₁.log i) e [p])
    {r : Except PyException PostgresWriteSideDelivery} (hr : c.delivered i = some r) :
    ∃ d, r = .ok d ∧ d.producerValue.result.registryOutcome = some (.event e) := by
  obtain ⟨rfl,-⟩ := SqlStep.commit_eq hp.executes
  obtain ⟨l,hl⟩ := hp.log_suffix
  have hends := h.meets i _ (System.delivered_eq_some.mp hr)
  rw [hv] at hends
  change Concluded v.writeSide v.signature (c.log i) (r.map (fun d => d.producerValue.result)) at hends
  have hcommitted : ¬Uncommitted (c.log i) := by
    intro hu
    refine hu ⟨.commit,.ok ()⟩ ?_ rfl
    rw [← hl]
    exact List.mem_append_right _ (List.mem_cons_self ..)
  cases r with
  | error err => exact absurd hends.1.uncommitted hcommitted
  | ok d =>
    refine ⟨d,rfl,?_⟩
    by_cases ho : d.producerValue.result.outcome = .accepted
    · simp only [Except.map, Concluded, ho] at hends
      obtain ⟨e',p',rest,hlog,hevent,hpending',-⟩ := hends
      -- the one commit is the last exchange
      have hrest : rest = c₁.log i := by
        rw [← hl] at hlog
        cases l with
        | nil => exact (List.cons.inj hlog).2.symm
        | cons x l =>
          obtain ⟨-,hlog⟩ := List.cons.inj hlog
          refine absurd hpending'.uncommitted (fun hu => hu ⟨.commit,.ok ()⟩ ?_ rfl)
          rw [← hlog]
          exact List.mem_append_right _ (List.mem_cons_self ..)
      subst hrest
      obtain rfl : e = e' := (List.cons.inj (hpending.events.symm.trans hpending'.events)).1
      simp only [PostgresWriteSideResult.registryOutcome, ho, hevent, Option.map_some]
    · exact absurd (Concluded.ended hends ho).uncommitted hcommitted

theorem commits_once {reply reply' : SqlReply .commit} {w w' : World ι} {c₂ : System ι}
    {next next' : SqlReply .commit → SqlProgram InvocationResult} (hv : invocations i = .write v)
    (hp : Performed (D.machine faulty) (System.start t invocations) c c₁ i .commit next reply w)
    (hp' : Performed (D.machine faulty) (System.start t invocations) c c₂ i .commit next' reply' w') :
    ¬c₁.trace.length < c₂.trace.length := by
  intro hlt
  have hg := (of_performed hp').guard hp'.running
  rw [hv] at hg
  obtain ⟨e,p,hpending,-⟩ := hg
  have hsuffix : (⟨i,.commit,reply,c₁.world,w⟩ :: c₁.trace) <:+ c₂.trace := by
    refine List.suffix_of_suffix_length_le hp.recorded
      ((List.suffix_cons _ _).trans hp'.recorded) ?_
    rw [List.length_cons]
    omega
  refine hpending.uncommitted ⟨.commit,reply⟩ ?_ rfl
  exact mem_ownLog.mpr ⟨_,hsuffix.subset (List.mem_cons_self ..),rfl,rfl⟩

end Reachable

/-- The read an invocation's decided result came from, and its place in the trace. -/
def DecidedAt (D : Database ι) (faulty : ι → Prop) (t : Tables) (invocations : ι → Invocation)
    (c : System ι) (i : ι) (n : ℕ) : Prop :=
  ∃ v c₁ next row w decision validation d, invocations i = .write v ∧
    Performed (D.machine faulty) (System.start t invocations) c c₁ i
      (.selectIdempotencyRecord v.signature.requestId) next (.ok row) w ∧
    c₁.trace.length = n ∧ PostgresIdempotencyStore.classify v.signature row = .ok decision ∧
    decision.verdict ≠ .miss ∧ c.delivered i = some (.ok d) ∧
    d.producerValue.result = .decided decision validation

namespace Reachable

/-- A returned outcome of the registry is an acceptance, or was read from a record. -/
theorem decidedAt (h : Reachable D faulty t invocations c) {d : PostgresWriteSideDelivery}
    (hd : c.delivered i = some (.ok d)) {o : RegistryOutcome}
    (ho : d.producerValue.result.registryOutcome = some o)
    (hne : d.producerValue.result.outcome ≠ .accepted) :
    ∃ n, DecidedAt D faulty t invocations c i n := by
  cases hv : invocations i with
  | project workerName =>
    have hends := h.meets i _ (System.delivered_eq_some.mp hd)
    rw [hv] at hends
    exact hends.elim
  | write v =>
    have hdelivers := h.delivers hv hd
    generalize hr : d.producerValue.result = r at hdelivers ho hne
    cases hdelivers with
    | @decided decision validation checked found unread validated =>
      obtain ⟨row,hmem,hclass⟩ := checked
      obtain ⟨c₁,next,w,hp,-⟩ := Reaches.performed_of_mem h rfl hmem
      exact ⟨_,v,c₁,next,row,w,decision,validation,d,hv,hp,rfl,hclass,found,hd,hr⟩
    | notPrepared => cases ho
    | blocked => cases ho
    | notAppended => cases ho
    | accepted => exact absurd rfl hne

theorem committedAt (h : Reachable D faulty t invocations c) {d : PostgresWriteSideDelivery}
    (hd : c.delivered i = some (.ok d)) (ho : d.producerValue.result.outcome = .accepted) :
    (∃ v, invocations i = .write v) ∧ ∃ c₁ next w, Performed (D.machine faulty)
      (System.start t invocations) c c₁ i .commit next (.ok ()) w := by
  have hends := h.meets i _ (System.delivered_eq_some.mp hd)
  cases hv : invocations i with
  | project workerName =>
    rw [hv] at hends
    exact hends.elim
  | write v =>
    rw [hv] at hends
    change Concluded v.writeSide v.signature (c.log i) (.ok d.producerValue.result) at hends
    simp only [Concluded, ho] at hends
    obtain ⟨e,p,rest,hlog,-⟩ := hends
    obtain ⟨c₁,next,w,hp,-⟩ := Reaches.performed h rfl (l := []) hlog
    exact ⟨⟨v,rfl⟩,c₁,next,w,hp⟩

end Reachable

/-- The statements at which a request takes effect: the commit of an invocation, and the
deciding read at the place chosen for it. -/
def Effective (invocations : ι → Invocation) (place : ι → Option ℕ) (n : ℕ) (x : SqlEntry ι) : Prop :=
  (x.op = .commit ∧ ∃ v, invocations x.thread = .write v) ∨ place x.thread = some n

structure PlacedReads (D : Database ι) (faulty : ι → Prop) (t : Tables) (invocations : ι → Invocation)
    (c : System ι) (place : ι → Option ℕ) : Prop where
  sound : ∀ i n, place i = some n → DecidedAt D faulty t invocations c i n
  complete : ∀ i n, DecidedAt D faulty t invocations c i n → ∃ k, place i = some k

namespace PlacedReads

theorem exists_place : ∃ place, PlacedReads D faulty t invocations c place := by
  have hplace : ∀ i, ∃ n : Option ℕ, (∀ k, n = some k → DecidedAt D faulty t invocations c i k) ∧
      ∀ k, DecidedAt D faulty t invocations c i k → ∃ k', n = some k' := by
    intro i
    by_cases hi : ∃ k, DecidedAt D faulty t invocations c i k
    · obtain ⟨k,hk⟩ := hi
      exact ⟨some k,fun k' hk' => Option.some.inj hk' ▸ hk,fun _ _ => ⟨k,rfl⟩⟩
    · exact ⟨none,fun k hk => (Option.some_ne_none k hk.symm).elim,fun k hk => absurd ⟨k,hk⟩ hi⟩
  choose place hsound hcomplete using hplace
  exact ⟨place,hsound,hcomplete⟩

variable {place : ι → Option ℕ}

theorem uncommitted (hplace : PlacedReads D faulty t invocations c place)
    (h : Reachable D faulty t invocations c) {n : ℕ} (hn : place i = some n) :
    Uncommitted (c.log i) := by
  obtain ⟨v,c₁,next,row,w,decision,validation,d,hv,-,-,-,-,hd,hresult⟩ := hplace.sound i n hn
  have hends := h.meets i _ (System.delivered_eq_some.mp hd)
  rw [hv] at hends
  exact (Concluded.ended (v := d.producerValue.result) hends (by
    rw [hresult]
    exact PostgresWriteSideResult.decided_outcome_ne)).uncommitted

theorem serves (hplace : PlacedReads D faulty t invocations c place)
    (h : Reachable D faulty t invocations c) (ht : (World.initial t : World ι).Integral) (hs : t.Sound)
    {op : Operation} {next : SqlReply op → SqlProgram InvocationResult} {reply : SqlReply op} {w : World ι}
    (hp : Performed (D.machine faulty) (System.start t invocations) c c₁ i op next reply w)
    (heffective : Effective invocations place c₁.trace.length ⟨i,op,reply,c₁.world,w⟩)
    (mode : ValidationMode) :
    ∃ o, Invocation.serve mode c₁.world.tables.registry (invocations i) =
        (some (.ok o),w.tables.registry) ∧
      ∀ r, c.delivered i = some r → ∃ d, r = .ok d ∧ d.producerValue.result.registryOutcome = some o := by
  rcases heffective with ⟨hop,v,hv⟩ | hread
  · simp only at hop hv
    subst hop
    obtain ⟨e,p,hpending,hhandle⟩ :=
      Reachable.serves_commit (Reachable.of_performed hp) ht hs hp.running hp.executes hv mode
    refine ⟨.event e,?_,fun r hr => h.returned_commit hp hv hpending hr⟩
    rw [hv, Invocation.serve_write, hhandle]
  · obtain ⟨v,c₂,next₂,row,w₂,decision,validation,d,hv,hp₂,hlength,hclass,hmiss,hd,hresult⟩ :=
      hplace.sound i _ hread
    obtain ⟨hentry,-⟩ := entry_eq_of_suffix hp₂.recorded hp.recorded hlength
    simp only [Entry.mk.injEq, true_and] at hentry
    obtain ⟨-,-,hworld,hafter⟩ := hentry
    obtain ⟨o,hhandle,ho⟩ := Reachable.serves_decided (Reachable.of_performed hp₂) ht hs hp₂.running
      hp₂.executes hv hclass hmiss mode
    refine ⟨o,?_,fun r hr => ?_⟩
    · rw [hv, Invocation.serve_write, ← hworld, ← hafter, hhandle]
    · obtain rfl := Option.some.inj (hd.symm.trans hr)
      exact ⟨d,rfl,by rw [hresult]; exact ho validation⟩

theorem once (hplace : PlacedReads D faulty t invocations c place)
    (h : Reachable D faulty t invocations c) {op op' : Operation}
    {next : SqlReply op → SqlProgram InvocationResult} {next' : SqlReply op' → SqlProgram InvocationResult}
    {reply : SqlReply op} {reply' : SqlReply op'} {w w' : World ι} {c₂ : System ι}
    (hp : Performed (D.machine faulty) (System.start t invocations) c c₁ i op next reply w)
    (hp' : Performed (D.machine faulty) (System.start t invocations) c c₂ i op' next' reply' w')
    (heffective : Effective invocations place c₁.trace.length ⟨i,op,reply,c₁.world,w⟩)
    (heffective' : Effective invocations place c₂.trace.length ⟨i,op',reply',c₂.world,w'⟩) :
    c₁.trace.length = c₂.trace.length := by
  have hnever {n : ℕ} {op : Operation} {next : SqlReply op → SqlProgram InvocationResult}
      {reply : SqlReply op} {w : World ι} {c₁ : System ι}
      (hp : Performed (D.machine faulty) (System.start t invocations) c c₁ i op next reply w)
      (hop : op = .commit) (hn : place i = some n) : False := by
    refine hplace.uncommitted h hn ⟨op,reply⟩ ?_ hop
    exact hp.log_suffix.subset (List.mem_cons_self ..)
  rcases heffective with ⟨hop,v,hv⟩ | hread
  · rcases heffective' with ⟨hop',-⟩ | hread'
    · simp only at hop hop' hv
      subst hop hop'
      exact le_antisymm (not_lt.mp (Reachable.commits_once hv hp' hp))
        (not_lt.mp (Reachable.commits_once hv hp hp'))
    · exact (hnever hp hop hread').elim
  · rcases heffective' with ⟨hop',-⟩ | hread'
    · exact (hnever hp' hop' hread).elim
    · exact Option.some.inj (hread.symm.trans hread')

end PlacedReads

noncomputable def effectiveSteps (invocations : ι → Invocation) (place : ι → Option ℕ) (c : System ι) :
    List (SqlEntry ι) :=
  open Classical in (points (fun n x => decide (Effective invocations place n x)) c.trace).map (fun p => p.2)

theorem PlacedReads.linearizes {place : ι → Option ℕ}
    (hplace : PlacedReads D faulty t invocations c place) (h : Reachable D faulty t invocations c)
    (ht : (World.initial t : World ι).Integral) (hs : t.Sound) (mode : ValidationMode) :
    Linearizes D faulty t invocations mode c (effectiveSteps invocations place c) := by
  classical
  let chosen : ℕ → SqlEntry ι → Bool := fun n x => decide (Effective invocations place n x)
  have hsteps : effectiveSteps invocations place c = (points chosen c.trace).map (fun p => p.2) := rfl
  rw [hsteps]
  let answer : SqlEntry ι → Option (Except PyException RegistryOutcome) := fun x =>
    (Invocation.serve mode x.before.tables.registry (invocations x.thread)).1
  have hperformed {p : ℕ × SqlEntry ι} (hp : p ∈ points chosen c.trace) :
      ∃ c₁ next, Performed (D.machine faulty) (System.start t invocations) c c₁ p.2.thread p.2.op
        next p.2.reply p.2.after ∧ c₁.world = p.2.before ∧ c₁.trace.length = p.1 ∧
        Effective invocations place p.1 p.2 := by
    obtain ⟨hchosen,later,earlier,htrace,hn⟩ := mem_points.mp hp
    obtain ⟨c₁,next,hp₁,hworld,hearlier⟩ := Reaches.performed_entry h rfl htrace
    exact ⟨c₁,next,hp₁,hworld,by rw [hearlier, hn],of_decide_eq_true hchosen⟩
  have hmem {i : ι} {op : Operation} {next : SqlReply op → SqlProgram InvocationResult}
      {reply : SqlReply op} {w : World ι} {c₁ : System ι}
      (hp : Performed (D.machine faulty) (System.start t invocations) c c₁ i op next reply w)
      (he : Effective invocations place c₁.trace.length ⟨i,op,reply,c₁.world,w⟩) :
      ∃ x ∈ (points chosen c.trace).map (fun p => p.2), x.thread = i := by
    obtain ⟨later,htrace⟩ := hp.recorded
    exact ⟨_,List.mem_map.mpr ⟨(c₁.trace.length,_),
      mem_points.mpr ⟨decide_eq_true he,later,c₁.trace,htrace.symm,rfl⟩,rfl⟩,rfl⟩
  refine ⟨points_sublist,?_,fun i d o hd ho => ?_,?_,?_⟩
  · rw [List.map_map]
    refine points_nodup (fun p hp q hq hthread => ?_)
    obtain ⟨c₁,next,hp₁,hw₁,hn₁,he₁⟩ := hperformed hp
    obtain ⟨c₂,next₂,hp₂,hw₂,hn₂,he₂⟩ := hperformed hq
    rcases p with ⟨n,j,op,reply,b,a⟩
    rcases q with ⟨m,k,op',reply',b',a'⟩
    simp only at hthread hn₁ hn₂ hw₁ hw₂
    subst hthread hn₁ hn₂ hw₁ hw₂
    exact hplace.once h hp₁ hp₂ he₁ he₂
  · by_cases haccepted : d.producerValue.result.outcome = .accepted
    · obtain ⟨hwrite,c₁,next,w,hp⟩ := h.committedAt hd haccepted
      exact hmem hp (.inl ⟨rfl,hwrite⟩)
    · obtain ⟨n,hn⟩ := h.decidedAt hd ho haccepted
      obtain ⟨k,hk⟩ := hplace.complete i n hn
      obtain ⟨v,c₁,next,row,w,decision,validation,d',hv,hp,rfl,-⟩ := hplace.sound i k hk
      exact hmem hp (.inr hk)
  · rw [List.pairwise_map]
    refine points_ordered.imp_of_mem (fun {p q} hp hq hlt hprecedes => ?_)
    obtain ⟨-,later,earlier,htrace,hn⟩ := mem_points.mp hp
    obtain ⟨-,later',earlier',htrace',hn'⟩ := mem_points.mp hq
    have := hprecedes.lt ⟨later',htrace'.symm⟩ ⟨later,htrace.symm⟩
    omega
  · refine ⟨(points chosen c.trace).map (fun p => answer p.2),?_,?_⟩
    · rw [List.map_map]
      refine Reaches.linearizes (Invocation.serve mode) (fun w : World ι => w.tables.registry)
        (fun x => invocations x.thread) answer chosen rfl ?_ (fun _ _ _ => rfl) h
      intro c₁ i op next reply w hp
      unfold Places
      by_cases he : Effective invocations place c₁.trace.length ⟨i,op,reply,c₁.world,w⟩
      · rw [if_pos (decide_eq_true he)]
        obtain ⟨o,hserve,-⟩ := hplace.serves h ht hs hp he mode
        simp only [answer, hserve]
      · rw [if_neg (by simpa [chosen] using he)]
        exact Reachable.registry_eq (Reachable.of_performed hp) hp.running hp.executes
          (fun hcommit => he (.inl hcommit))
    · rw [List.forall₂_map_left_iff, List.forall₂_map_right_iff, List.forall₂_same]
      intro p hp
      obtain ⟨c₁,next,hp₁,hw,hn,he⟩ := hperformed hp
      rcases p with ⟨n,j,op,reply,b,a⟩
      simp only at hn hw
      subst hn hw
      obtain ⟨o,hserve,hreturned⟩ := hplace.serves h ht hs hp₁ he mode
      refine ⟨o,?_,hreturned⟩
      simp only [answer, hserve]

namespace Reachable

/-- In every run from sound tables, and at every moment of it, there are statements of the
invocations that were accepted, replayed or told of a conflict, one to each and in an order
that respects who returned before whom, at which one in-memory registry serves the same
requests with the same answers and comes to hold what the tables hold. -/
theorem linearizable (h : Reachable D faulty t invocations c)
    (ht : (World.initial t : World ι).Integral) (hs : t.Sound) (mode : ValidationMode) :
    ∃ order, Linearizes D faulty t invocations mode c order := by
  obtain ⟨place,hplace⟩ : ∃ place, PlacedReads D faulty t invocations c place :=
    PlacedReads.exists_place
  exact ⟨_,hplace.linearizes h ht hs mode⟩

end Reachable

/-- A creation and its retry are served one after the other. -/
theorem Reachable.linearizable_repeated : ∃ order, Linearizes RacingCreations.server (fun _ => False) .empty
    RepeatedCreation.calls .strict RepeatedCreation.final order := by
  have h : Reachable RacingCreations.server (fun _ => False) .empty RepeatedCreation.calls
      RepeatedCreation.accepted := Reachable.of_drive (Option.some_get _).symm
  have hr : Reaches (RacingCreations.server.machine (fun _ => False)) RepeatedCreation.accepted
      RepeatedCreation.final :=
    Config.drive_reaches (fun _ _ _ _ _ hs => Database.serve_step _ _ _ _ _ hs) (Option.some_get _).symm
  exact Reachable.linearizable (h.trans hr) .initial .empty .strict

end StreamingCompass
