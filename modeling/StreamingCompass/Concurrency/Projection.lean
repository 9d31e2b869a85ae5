import StreamingCompass.Concurrency.Acceptance
import StreamingCompass.Projection.Drain

/-! # Projections under interleaving

Workers discover, read, save and advance in separate statements. The progress row is
what they contend for: while one has advanced it, it stands exactly one event behind,
and nobody else moves it until the commit or rollback.
-/
namespace StreamingCompass
open Interleaving

variable {ι : Type} [DecidableEq ι] [Fintype ι] {D : Database ι} {i : ι} {w w' : World ι}

/-! ## The lock on progress -/

/-- A pending progress row is the next one of its key, and held by one connection. -/
structure World.ProgressLocked (w : World ι) : Prop where
  next : ∀ i, ∀ p ∈ (w.transactions i).progress, w.tables.lastSequence p.key+1 = p.lastSequence
  apart : ∀ i j, i ≠ j → ∀ p ∈ (w.transactions i).progress, ∀ q ∈ (w.transactions j).progress,
    p.key ≠ q.key

/-- How a step leaves the pending progress of its connection. -/
theorem Stepped.progress {op : Operation} {reply : SqlReply op} (hs : Stepped D i w op reply w') :
    (w'.transactions i).progress = (w.transactions i).progress ∨ (w'.transactions i).progress = [] ∨
      ∃ p, op = .advanceProgress p ∧ progressWrite (w.visible i) p = true ∧
        (∀ j, j ≠ i → ∀ r ∈ (w.transactions j).progress, r.key ≠ p.key) ∧
        (w'.transactions i).progress = p :: (w.transactions i).progress := by
  have hsettle (x : Transaction) : ((settle D w i x).transactions i).progress = x.progress ∨
      ((settle D w i x).transactions i).progress = [] := by
    rcases settle_eq D w i x with h | h
    · rw [h, World.put_self]
      exact .inl rfl
    · rw [h, World.commit_self]
      exact .inr rfl
  have hsame (x : Transaction) (hx : x.progress = (w.transactions i).progress) :
      ((settle D w i x).transactions i).progress = (w.transactions i).progress ∨
      ((settle D w i x).transactions i).progress = [] := hx ▸ hsettle x
  cases hs with
  | flag => exact .inl rfl
  | status => exact .inl rfl
  | began => rw [World.put_self]; exact .inl rfl
  | committed => rw [World.commit_self]; exact .inr (.inl rfl)
  | rolledBack => rw [World.rollback_self]; exact .inr (.inl rfl)
  | still => exact .inl rfl
  | refused _ same =>
    rcases same with rfl | rfl
    · exact (hsame _ (by rfl)).imp_right .inl
    · exact (hsame _ (by rfl)).imp_right .inl
  | ran _ _ _ _ effects =>
    cases effect_written effects with
    | @progressed p writes unlocked =>
      rcases hsettle {w.transactions i with progress := p :: (w.transactions i).progress} with h | h
      · exact .inr (.inr ⟨p,rfl,writes,unlocked,h⟩)
      · exact .inr (.inl h)
    | _ => exact (hsame _ (by rfl)).imp_right .inl

omit [DecidableEq ι] [Fintype ι] in
theorem lastSequence_of_progressWrite {t : Tables} {p : ProgressRow} (h : progressWrite t p = true) :
    t.lastSequence p.key+1 = p.lastSequence := by
  simp only [progressWrite, Bool.and_eq_true] at h
  have h2 := h.2
  unfold Tables.lastSequence
  cases hp : t.progress p.key with
  | none =>
    simp only [hp, decide_eq_true_eq] at h2
    simp [h2]
  | some r =>
    simp only [hp, decide_eq_true_eq] at h2
    simpa using h2

variable {faulty : ι → Prop} {t : Tables} {invocations : ι → Invocation} {c c' : System ι}

namespace Reachable

/-- Progress is written by a connection that has written none yet. -/
theorem no_progress (h : Reachable D faulty t invocations c) {p : ProgressRow}
    {next : SqlReply (.advanceProgress p) → SqlProgram InvocationResult}
    (hp : c.program i = some (.call (.advanceProgress p) next)) :
    (c.world.transactions i).progress = [] := by
  have hg := h.guard hp
  have hm := h.mirrors hp
  cases hv : invocations i with
  | write v =>
    rw [hv] at hg
    exact hg.elim
  | project workerName =>
    rw [hv] at hg
    obtain ⟨row,st,hprojecting,-⟩ := hg
    rw [hm.progress, hprojecting.progress]

theorem progressLocked (h : Reachable D faulty t invocations c) : c.world.ProgressLocked := by
  refine Reaches.invariant (fun c : System ι => c.world.ProgressLocked)
    ⟨fun i p hp => by simp [System.start, World.initial, Transaction.idle] at hp,
      fun i j _ p hp => by simp [System.start, World.initial, Transaction.idle] at hp⟩ ?_ h
  intro c c' hr hl hs
  -- a connection whose pending progress is unchanged or gone keeps its part
  have hkeep (htables : c'.world.tables.progress = c.world.tables.progress)
      (hsub : ∀ j, ∀ p ∈ (c'.world.transactions j).progress, p ∈ (c.world.transactions j).progress) :
      c'.world.ProgressLocked := by
    refine ⟨fun j p hp => ?_,fun j k hjk p hp q hq => hl.apart j k hjk p (hsub j p hp) q (hsub k q hq)⟩
    rw [← hl.next j p (hsub j p hp), Tables.lastSequence, Tables.lastSequence, htables]
  cases hs with
  | @abandon i op next running =>
    refine hkeep rfl (fun j p hp => ?_)
    by_cases hj : j = i
    · subst hj
      change p ∈ ((c.world.rollback j).transactions j).progress at hp
      rw [World.rollback_self] at hp
      simp [Transaction.idle] at hp
    · change p ∈ ((c.world.rollback i).transactions j).progress at hp
      rwa [World.rollback_ne _ hj] at hp
  | @call i op next reply w running executes =>
    have hothers (j : ι) (hj : j ≠ i) : w.transactions j = c.world.transactions j :=
      executes.stepped.others hj
    by_cases hop : op = .commit
    · subst hop
      obtain ⟨rfl,rfl⟩ := SqlStep.commit_eq executes
      have hsub : ∀ j, ∀ p ∈ ((c.world.commit i).transactions j).progress,
          j ≠ i ∧ p ∈ (c.world.transactions j).progress := by
        intro j p hp
        by_cases hj : j = i
        · subst hj
          rw [World.commit_self] at hp
          simp [Transaction.idle] at hp
        · rw [World.commit_ne _ hj] at hp
          exact ⟨hj,hp⟩
      cases hv : invocations i with
      | write v =>
        obtain ⟨e,p,row,record,ha⟩ := Reachable.accepting hr running hv
        refine hkeep ?_ (fun j p hp => (hsub j p hp).2)
        rw [Config.advance_world, ha.tables]
        rfl
      | project workerName =>
        rcases Reachable.projected hr running hv with hsame | ⟨row,st,state,hp⟩
        · exact hkeep (by rw [Config.advance_world, hsame]) (fun j p hp => (hsub j p hp).2)
        · refine ⟨fun j q hq => ?_,fun j k hjk p hp q hq =>
            hl.apart j k hjk p (hsub j p hp).2 q (hsub k q hq).2⟩
          obtain ⟨hj,hq⟩ := hsub j q hq
          have hne : q.key ≠ (progressOf row).key :=
            hl.apart j i hj q hq (progressOf row) (by rw [hp.pendingProgress]; exact List.mem_singleton_self _)
          rw [← hl.next j q hq, Config.advance_world, hp.tables]
          simp [Tables.lastSequence, Tables.project, hne]
    · have htables : w.tables = c.world.tables := Reachable.tables_eq hr running executes hop
      rcases executes.stepped.progress with hsame | hnil | ⟨p,rfl,hwrites,hunlocked,hcons⟩
      · refine hkeep (by rw [Config.advance_world, htables]) (fun j p hp => ?_)
        by_cases hj : j = i
        · subst hj
          exact hsame ▸ hp
        · exact hothers j hj ▸ hp
      · refine hkeep (by rw [Config.advance_world, htables]) (fun j p hp => ?_)
        by_cases hj : j = i
        · subst hj
          rw [Config.advance_world, hnil] at hp
          simp at hp
        · exact hothers j hj ▸ hp
      · have hnone := Reachable.no_progress hr running
        have hmem {j : ι} {q : ProgressRow} (hq : q ∈ (w.transactions j).progress) :
            j = i ∧ q = p ∨ j ≠ i ∧ q ∈ (c.world.transactions j).progress := by
          by_cases hj : j = i
          · subst hj
            rw [hcons, hnone] at hq
            exact .inl ⟨rfl,List.mem_singleton.mp hq⟩
          · exact .inr ⟨hj,hothers j hj ▸ hq⟩
        refine ⟨fun j q hq => ?_,fun j k hjk q hq r hrk => ?_⟩
        · rw [Config.advance_world, htables]
          rcases hmem hq with ⟨rfl,rfl⟩ | ⟨-,hq⟩
          · have hvisible : (c.world.visible j).progress = c.world.tables.progress := by
              simp [World.visible, Tables.apply, hnone]
            rw [← lastSequence_of_progressWrite hwrites, Tables.lastSequence, Tables.lastSequence,
              hvisible]
          · exact hl.next j q hq
        · rcases hmem hq with ⟨rfl,rfl⟩ | ⟨hji,hq'⟩
          · rcases hmem hrk with ⟨rfl,rfl⟩ | ⟨hki,hr'⟩
            · exact absurd rfl hjk
            · exact (hunlocked k hki r hr').symm
          · rcases hmem hrk with ⟨rfl,rfl⟩ | ⟨hki,hr'⟩
            · exact hunlocked j hji q hq'
            · exact hl.apart j k hjk q hq' r hr'

/-! ## Where projections stand -/

theorem workerReads (h : Reachable D faulty t invocations c) {workerName : String}
    (hv : invocations i = .project workerName) {op : Operation} {reply : SqlReply op}
    (hmem : (⟨op,reply⟩ : Exchange Operation Operation.Answer PyException) ∈ c.log i)
    (hguard : ∀ log, projectGuard log op → Reading log) :
    ∃ c₁ next w, Performed (D.machine faulty) (System.start t invocations) c c₁ i op next reply w ∧
      c₁.world.visible i = c₁.world.tables := by
  obtain ⟨c₁,next,w,hp,-⟩ := Reaches.performed_of_mem h rfl hmem
  have hr := of_performed hp
  have hg := hr.guard hp.running
  rw [hv] at hg
  exact ⟨c₁,next,w,hp,(hr.mirrors hp.running).visible_eq (hguard _ hg).noRows⟩

theorem selected (h : Reachable D faulty t invocations c) {workerName : String}
    (hv : invocations i = .project workerName) {row : OrderEventRow} {st : OrderState}
    (ha : Applying (c.log i) row st) : row ∈ c.world.tables.orderEvents := by
  obtain ⟨rest,hmem⟩ := ha.selected
  obtain ⟨c₁,next,w,hp,hvisible⟩ := h.workerReads hv hmem (fun _ hg => hg.2.2.2)
  apply (performed_grows hp).1.subset
  have hrows : row :: rest = (c₁.world.visible i).eligible orderStateProjectionName
      orderStateProjectionEpoch 1 := SqlStep.answer hp.executes rfl (fun _ => rfl)
  rw [hvisible] at hrows
  have hrow : row ∈ c₁.world.tables.eligible orderStateProjectionName orderStateProjectionEpoch 1 := by
    rw [← hrows]
    exact List.mem_cons_self ..
  have hsorted := List.mem_of_mem_take hrow
  rw [List.mem_insertionSort] at hsorted
  exact List.mem_of_mem_filter hsorted

/-- The pending state of a worker is the fold up to the event it cites, and the
committed projection stands just before that event. -/
theorem projects (h : Reachable D faulty .empty invocations c)
    (hpast : ∀ c₁ i op next reply w, Performed (D.machine faulty) (System.start .empty invocations) c
      c₁ i op next reply w → ∀ orderId, ∃ k, c₁.world.tables.ProjectedTo orderId k)
    {workerName : String} (hv : invocations i = .project workerName) {row : OrderEventRow}
    {st : OrderState} {state : ProjectionStateRow} (hp : Projected c i row st state) {k : ℕ}
    (hk : c.world.tables.ProjectedTo row.orderId k) :
    (c.world.tables.history row.orderId)[k]? = some row ∧ row.sequence = k+1 ∧
      reduceHistory row.orderId ((c.world.tables.events row.orderId).take (k+1)) = .ok st ∧
      PostgresProjectionWorker.stateOfRow state = st := by
  have hsound := h.sound .initial .empty
  have happlying := hp.projecting.applying
  obtain ⟨n,hn,hsequence⟩ := hsound.getElem_history (h.selected hv happlying)
  obtain rfl : k = n := by
    have hnext := h.progressLocked.next i (progressOf row)
      (by rw [hp.pendingProgress]; exact List.mem_singleton_self _)
    have hlast := hk.lastSequence_eq
    change c.world.tables.lastSequence (progressKey row.orderId)+1 = row.sequence at hnext
    omega
  obtain ⟨current,hmem,hreduce⟩ := happlying.reduced
  obtain ⟨c₂,next,w,hp₂,hvisible⟩ := h.workerReads hv hmem (fun _ hg => hg)
  obtain ⟨k₂,hk₂⟩ := hpast _ _ _ _ _ _ hp₂ row.orderId
  have hsound₂ := (of_performed hp₂).sound .initial .empty
  have hcurrent : current = c₂.world.tables.projectionStates row.orderId := by
    rw [← hvisible]
    exact SqlStep.answer hp₂.executes rfl (fun _ => rfl)
  subst hcurrent
  have hfold := hk₂.fold_eq
  -- the reducer accepted the event, so the state it read stood just before it
  have hversion : (c₂.world.tables.projection row.orderId).version = k₂ := by
    rw [(reduceHistory_version hfold).2, List.length_take, Tables.events, List.length_map]
    rw [min_eq_left hk₂.le_length]
  have hk₂' : k₂ = k := by
    have := (reduceOrderEvent_reduced hreduce).sequence
    change row.sequence = (c₂.world.tables.projection row.orderId).version+1 at this
    omega
  subst hk₂'
  have hgrow : c₂.world.tables.history row.orderId <+: c.world.tables.history row.orderId := by
    rw [hsound₂.history_eq, hsound.history_eq]
    exact Tables.stream_grow (performed_grows hp₂).1 _
  obtain ⟨rest,hrest⟩ := hgrow
  have htake : (c.world.tables.events row.orderId).take k₂ =
      (c₂.world.tables.events row.orderId).take k₂ := by
    rw [Tables.events, Tables.events, ← hrest, ← List.map_take, ← List.map_take,
      List.take_append_of_le_length hk₂.le_length]
  have hfold' : reduceHistory row.orderId ((c.world.tables.events row.orderId).take (k₂+1)) = .ok st := by
    have hlast : (c.world.tables.events row.orderId)[k₂]? = some (rowToOrderEvent row) := by
      rw [Tables.events, List.getElem?_map, hn]
      rfl
    rw [List.take_add_one, hlast, Option.toList_some, reduceHistory_append, htake, hfold]
    exact hreduce
  have hlegal := (hsound.legal_events row.orderId).take (k₂+1)
  have hcanonical : st.Canonical := by
    rw [hlegal.reduce] at hfold'
    exact Except.ok.inj hfold' ▸ hlegal.canonical
  exact ⟨hn,hsequence,hfold',hp.storedState.stateOfRow_eq hcanonical⟩

theorem projection_step (h : Reachable D faulty .empty invocations c)
    (hpast : ∀ c₁ i op next reply w, Performed (D.machine faulty) (System.start .empty invocations) c
      c₁ i op next reply w → ∀ orderId, ∃ k, c₁.world.tables.ProjectedTo orderId k)
    (hs : Step (D.machine faulty) c c') {orderId : String} {k : ℕ}
    (hk : ∀ orderId, ∃ k, c.world.tables.ProjectedTo orderId k)
    (ho : c.world.tables.ProjectedTo orderId k) :
    c'.world.tables.ProjectedTo orderId k ∨ c'.world.tables.ProjectedTo orderId (k+1) := by
  have hsound := h.sound .initial .empty
  have hsound' : c'.world.tables.Sound := Reachable.sound (h.tail hs) .initial .empty
  cases h.committed hs with
  | nothing same => exact .inl (same ▸ ho)
  | accepted _ accepting commits =>
    have htables := (System.tables_of_commits commits).trans accepting.tables
    left
    refine ho.grow ?_ (by rw [htables]; rfl) (by rw [htables]; rfl)
    rw [hsound.history_eq, hsound'.history_eq]
    exact Tables.stream_grow (h.committed hs).orderEvents_grow orderId
  | @projected i workerName row st state hv hp commits =>
    have htables := (System.tables_of_commits commits).trans hp.tables
    rw [htables]
    obtain ⟨n,hn⟩ := hk row.orderId
    obtain ⟨hevent,hsequence,hfold,hstored⟩ := projects h hpast hv hp hn
    by_cases hrow : row.orderId = orderId
    · subst hrow
      obtain rfl := hn.unique ho
      exact .inr (Tables.ProjectedTo.project hevent hsequence rfl hfold hstored)
    · have hstate : state.orderId = row.orderId := by
        rw [← (reduceHistory_version hfold).1, ← hstored]
        rfl
      exact .inl (ho.project_ne hrow (by rw [hstate]; exact hrow))

/-- Every order's projection stands at some prefix of its history. -/
theorem projectedTo (h : Reachable D faulty .empty invocations c) :
    ∀ orderId, ∃ k, c.world.tables.ProjectedTo orderId k := by
  refine Reaches.invariant_past (fun w : World ι => ∀ orderId, ∃ k, w.tables.ProjectedTo orderId k)
    (fun orderId => ⟨0,.absent rfl rfl⟩) rfl ?_ h
  intro c c' hr hpast hk hs orderId
  obtain ⟨k,ho⟩ := hk orderId
  rcases projection_step hr hpast hs hk ho with h | h
  · exact ⟨k,h⟩
  · exact ⟨k+1,h⟩

theorem projection_moves (h : Reachable D faulty .empty invocations c)
    (hs : Step (D.machine faulty) c c') {orderId : String} {k : ℕ}
    (ho : c.world.tables.ProjectedTo orderId k) :
    c'.world.tables.ProjectedTo orderId k ∨ c'.world.tables.ProjectedTo orderId (k+1) :=
  projection_step h (fun _ _ _ _ _ _ hp => (of_performed hp).projectedTo) hs h.projectedTo ho

theorem projection_mono (h : Reachable D faulty .empty invocations c)
    (hr : Reaches (D.machine faulty) c c') {orderId : String} {k : ℕ}
    (ho : c.world.tables.ProjectedTo orderId k) :
    ∃ k', k ≤ k' ∧ c'.world.tables.ProjectedTo orderId k' := by
  induction hr with
  | refl => exact ⟨k,le_rfl,ho⟩
  | tail hr hs ih =>
    obtain ⟨k',hle,hk'⟩ := ih
    rcases projection_moves (h.trans hr) hs hk' with h' | h'
    · exact ⟨k',hle,h'⟩
    · exact ⟨k'+1,Nat.le_succ_of_le hle,h'⟩

/-- In every run each order's progress and state stand at one prefix of its committed
history. A step keeps the prefix or extends it by the next event, so none is skipped or
applied twice, and no later configuration stands at a shorter one. -/
theorem projection_consistent (h : Reachable D faulty .empty invocations c) (orderId : String) :
    ∃ k, c.world.tables.ProjectedTo orderId k ∧ k ≤ (c.world.tables.events orderId).length ∧
      (∀ c', Step (D.machine faulty) c c' →
        c'.world.tables.ProjectedTo orderId k ∨ c'.world.tables.ProjectedTo orderId (k+1)) ∧
      ∀ c', Reaches (D.machine faulty) c c' →
        ∀ k', c'.world.tables.ProjectedTo orderId k' → k ≤ k' := by
  obtain ⟨k,hk⟩ := h.projectedTo orderId
  refine ⟨k,hk,?_,fun c' hs => h.projection_moves hs hk,fun c' hr k' hk' => ?_⟩
  · rw [Tables.events, List.length_map]
    exact hk.le_length
  · obtain ⟨n,hn,hkn⟩ := h.projection_mono hr hk
    exact hk'.unique hkn ▸ hn

end Reachable

/-! Two workers select the same event; the second overwrites the state and is rolled back. -/
namespace RacingWorkers

def server : Database (Fin 3) := ⟨fun _ => false,fun _ => 0⟩

def racers : Fin 3 → Invocation
  | 0 => .write ⟨.inTransaction,.optimistic,invokeValidation .strict,⟨"r-0",.create,"A",.int 10⟩,
      ⟨0,0⟩,false,none⟩
  | _ => .project "worker"

def schedule : List (Fin 3) := [0,0,0,0,0,0,0,1,1,1,1,2,2,2,2,1,1,1,2,2,2]

def final : System (Fin 3) :=
  ((System.start .empty racers).drive server.serve schedule).get (by decide +kernel)

theorem reachable : Reachable server (fun _ => False) .empty racers final :=
  Reachable.of_drive (Option.some_get _).symm

/-- The creation is committed and no worker has started. -/
def created : System (Fin 3) :=
  ((System.start .empty racers).drive server.serve (schedule.take 7)).get (by decide +kernel)

theorem created_reachable : Reachable server (fun _ => False) .empty racers created :=
  Reachable.of_drive (Option.some_get _).symm

end RacingWorkers

theorem Reachable.projection_consistent_racing :
    RacingWorkers.final.world.tables.lastSequence (progressKey "A") = 1 ∧
      ∃ k, RacingWorkers.final.world.tables.ProjectedTo "A" k := by
  obtain ⟨k,hk,-⟩ := Reachable.projection_consistent RacingWorkers.reachable "A"
  exact ⟨by decide +kernel,k,hk⟩

/-! ## Draining -/

namespace Reachable

theorem quiet (h : Reachable D faulty .empty invocations c)
    (hidle : ∀ j, c.world.transactions j = .idle) : c.world.Quiet :=
  ⟨hidle,h.sound .initial .empty,(h.integral .initial).positivePosition.1,h.projectedTo⟩

/-- While nobody else is in a transaction a worker never raises, finds nothing exactly when
every projection is the fold of the whole history, and repeated calls apply as many events
as are not projected yet before the first that finds nothing. -/
theorem worker_drains (h : Reachable D faulty .empty invocations c)
    (hidle : ∀ j, c.world.transactions j = .idle) :
    (∀ i workerName, ∃ result w',
      (PostgresProjectionWorker.program workerName).run (D.serve i) c.world = some (.ok result,w') ∧
      (result.action = .noEvent ↔ ∀ orderId, reduceHistory orderId (c.world.tables.events orderId) =
        .ok (c.world.tables.projection orderId))) ∧
    ∀ calls, ∃ (results : List PostgresProjectionWorkerResult) (w' : World ι),
      processCalls D calls c.world = some (results.map .ok,w') ∧
      results.map (fun r => r.action) =
        List.replicate (min calls.length c.world.tables.lag) .applied ++
          List.replicate (calls.length-c.world.tables.lag) .noEvent := by
  have hq := h.quiet hidle
  refine ⟨fun i workerName => ?_,hq.calls_drain⟩
  rw [← hq.eligible_eq_nil_iff]
  cases he : c.world.tables.eligible orderStateProjectionName orderStateProjectionEpoch 1 with
  | nil =>
    exact ⟨_,_,PostgresProjectionWorker.program_run (hq.processNext_noEvent () workerName he),by simp⟩
  | cons row rest =>
    obtain ⟨k,hn⟩ := hq.nextEvent he
    obtain ⟨state,result,-,happlied,hrun⟩ := hq.processNext_applied (D := D) (i := i) () workerName he hn
    exact ⟨result,_,PostgresProjectionWorker.program_run hrun,by simp [happlied]⟩

theorem worker_drains_created :
    RacingWorkers.created.world.tables.lag = 1 ∧
      ∃ (results : List PostgresProjectionWorkerResult) (w' : World (Fin 3)),
        processCalls RacingWorkers.server [(1,"worker"),(2,"worker")]
        RacingWorkers.created.world = some (results.map .ok,w') ∧
        results.map (fun r => r.action) = [.applied,.noEvent] := by
  have hlag : RacingWorkers.created.world.tables.lag = 1 := by decide +kernel
  obtain ⟨results,w',hrun,hactions⟩ :=
    (worker_drains RacingWorkers.created_reachable (by decide +kernel)).2 [(1,"worker"),(2,"worker")]
  rw [hlag] at hactions
  exact ⟨hlag,results,w',hrun,hactions⟩

end Reachable
end StreamingCompass
