import StreamingCompass.Concurrency.StaleWrites
import StreamingCompass.Storage.AdvisoryLocks

/-! # Pessimistic mutual exclusion

When every writer locks its stream inside its transaction, a writer that holds the lock is
alone with the stream until its commit or rollback: what it loaded stays current, and no
append comes too late.
-/
namespace StreamingCompass
open Interleaving

/-! ## What a locking invocation does -/

def streamKey (orderId : String) : String × String := ("order_events_stream",orderId)

/-- The stream is locked before it is read, and as long as it is written. -/
def lockGuard (orderId : String) (log : SqlLog) : Operation → Prop
  | .tryAdvisoryXactLock _ _ =>
    (⟨.autocommit,.ok false⟩ : Exchange Operation Operation.Answer PyException) ∈ log ∧
      histories log = [] ∧ versions log = []
  | .selectHistory _ | .selectCurrentVersion _ | .insertOrderEvent _ | .insertIdempotencyRecord _
  | .commit => streamKey orderId ∈ heldLocks log
  | _ => True

def lockContract (orderId : String) : Contract Operation Operation.Answer PyException where
  allowed _ _ _ := True
  guard := lockGuard orderId

namespace LockContract
variable {W : WriteSide} {s : RequestSignature} {log : SqlLog}

/-- A routine that leaves the lock, where it returns. -/
abbrev Locking {α : Type} (orderId : String) (m : PrimaryRoutine α) (log : SqlLog) (Q : α → SqlLog → Prop) :
    Prop :=
  m.Meets (lockContract orderId) () log (fun log r _ => ∀ a, r = .ok a → Q a log)

theorem meets_append {candidate : OrderEvent} {expected : ℤ}
    (hheld : streamKey s.orderId ∈ heldLocks log) :
    Locking s.orderId (PostgresEventStore.append candidate expected) log
      (fun _ log => streamKey s.orderId ∈ heldLocks log) := by
  simp only [Locking, PostgresEventStore.append, Routine.meets_bind, Routine.meets_perform]
  refine ⟨hheld,fun reply _ => ?_⟩
  cases reply with
  | error e => exact fun _ h => by cases h
  | ok version =>
    simp only
    split
    · exact fun _ h => by cases h
    · split
      · exact fun _ h => by cases h
      · simp only [Routine.meets_perform]
        exact ⟨hheld,fun reply _ _ _ => heldLocks_cons_of_open rfl reply _ hheld⟩

theorem meets_primaryAppend {decision : IdempotencyDecision} {prepared : StreamAdmissionResult}
    {c : Candidate} (hheld : streamKey s.orderId ∈ heldLocks log) :
    Locking s.orderId (W.primaryAppend s decision prepared c) log
      (fun r log => r.outcome = .accepted → streamKey s.orderId ∈ heldLocks log) := by
  simp only [Locking, WriteSide.primaryAppend, appendWithTranslation, Routine.meets_bind,
    Routine.meets_attempt]
  refine (meets_append hheld).mono (fun log1 r _ h => ?_)
  cases r with
  | error e =>
    simp only [Routine.meets_ofExcept]
    cases ht : translateAppendError W.gate.name c.event e with
    | error e' => exact fun _ h => by cases h
    | ok admission =>
      -- a refused append is never reported as admitted
      simp only [if_pos (translateAppendError_not_admitted ht), Routine.meets_bind,
        Routine.meets_perform]
      refine ⟨trivial,fun reply _ => ?_⟩
      cases reply with
      | error e => exact fun _ h => by cases h
      | ok _ =>
        intro v hv ho
        obtain rfl := Except.ok.inj hv
        cases ho
  | ok _ =>
    have hheld1 := h () rfl
    simp only [Routine.meets_pure, ne_eq, not_true_eq_false, if_false, Routine.meets_bind,
      PostgresIdempotencyStore.record, Routine.meets_ofExcept]
    cases PostgresIdempotencyStore.recordParameters s c.event with
    | error e => exact fun _ h => by cases h
    | ok p =>
      simp only [Routine.meets_perform]
      refine ⟨hheld1,fun reply _ => ?_⟩
      cases reply with
      | error e => exact fun _ h => by cases h
      | ok _ => exact fun _ _ _ => hheld1

theorem meets_primaryPrepare (hh : histories log = []) (hv : versions log = []) :
    Locking s.orderId (WriteSide.primaryPrepare .pessimistic s.orderId) log
      (fun p log => p.verdict = .admitted → streamKey s.orderId ∈ heldLocks log) := by
  simp only [Locking, WriteSide.primaryPrepare, Routine.meets_bind, Routine.meets_perform]
  refine ⟨trivial,fun reply _ => ?_⟩
  rcases reply with e | _ | _
  · exact fun _ h => by cases h
  · simp only [Bool.false_eq_true, if_false, Routine.meets_bind, Routine.meets_perform]
    refine ⟨⟨List.mem_cons_self ..,hh,hv⟩,fun reply _ => ?_⟩
    rcases reply with e | _ | _
    · exact fun _ h => by cases h
    · intro p hp ha
      obtain rfl := Except.ok.inj hp
      cases ha
    · exact fun _ _ _ => List.mem_cons_self ..
  · intro p hp ha
    obtain rfl := Except.ok.inj hp
    cases ha

theorem meets_check : (PostgresIdempotencyStore.check s).Meets (lockContract s.orderId) () log
    (fun log' _ _ => histories log' = histories log ∧ versions log' = versions log) := by
  simp only [PostgresIdempotencyStore.check, Routine.meets_bind, Routine.meets_perform]
  refine ⟨trivial,fun reply _ => ?_⟩
  cases reply with
  | error e => exact ⟨rfl,rfl⟩
  | ok row => exact ⟨rfl,rfl⟩

/-- A result other than ACCEPTED has rolled back and commits nothing. -/
theorem meets_rolledBack {r : PostgresWriteSideResult} (hr : r.outcome ≠ .accepted) :
    Locking s.orderId (do sql .rollback; pure r) log
      (fun r log => r.outcome = .accepted → streamKey s.orderId ∈ heldLocks log) := by
  simp only [Locking, Routine.meets_bind, Routine.meets_perform]
  refine ⟨trivial,fun reply _ => ?_⟩
  cases reply with
  | error e => exact fun _ h => by cases h
  | ok _ =>
    intro v hv ho
    obtain rfl := Except.ok.inj hv
    exact absurd ho hr

theorem meets_primaryUnitOfWork {body : PrimaryRoutine PostgresWriteSideResult}
    (hbody : Locking s.orderId body (⟨.autocommit,.ok false⟩ :: log)
      (fun r log => r.outcome = .accepted → streamKey s.orderId ∈ heldLocks log)) :
    (primaryUnitOfWork body).Meets (lockContract s.orderId) () log (fun _ _ _ => True) := by
  simp only [primaryUnitOfWork, Routine.meets_bind, Routine.meets_perform]
  refine ⟨trivial,fun reply _ => ?_⟩
  rcases reply with e | _ | _
  · trivial
  · simp only [Bool.false_eq_true, if_false, Routine.meets_bind, Routine.meets_attempt]
    refine hbody.mono (fun log2 r _ h => ?_)
    cases r with
    | error e =>
      simp only [Routine.meets_bind, Routine.meets_perform]
      refine ⟨trivial,fun reply _ => ?_⟩
      cases reply <;> trivial
    | ok v =>
      simp only
      split
      · rename_i ho
        simp only [Routine.meets_bind, Routine.meets_perform]
        refine ⟨h v rfl ho,fun reply _ => ?_⟩
        cases reply <;> trivial
      · trivial
  · trivial

theorem meets_primaryInTransaction (hgate : W.gate = .pessimistic) :
    (W.primaryInTransaction s).Meets (lockContract s.orderId) () [] (fun _ _ _ => True) := by
  apply meets_primaryUnitOfWork
  simp only [Locking, Routine.meets_bind]
  refine meets_check.mono (fun log1 r _ h1 => ?_)
  cases r with
  | error e => exact fun _ h => by cases h
  | ok d =>
    simp only
    split
    · exact meets_rolledBack PostgresWriteSideResult.decided_outcome_ne
    · simp only [Routine.meets_bind]
      rw [hgate]
      refine (meets_primaryPrepare h1.1 h1.2).mono (fun log2 r _ h2 => ?_)
      cases r with
      | error e => exact fun _ h => by cases h
      | ok p =>
        simp only
        split
        · exact meets_rolledBack (by simp)
        · rename_i hadmitted
          have hheld := h2 p rfl (not_not.mp hadmitted)
          simp only [PostgresEventStore.load, Routine.meets_bind, Routine.meets_perform,
            Routine.meets_ofExcept]
          refine ⟨hheld,fun reply _ => ?_⟩
          cases reply with
          | error e => exact fun _ h => by cases h
          | ok rows =>
            simp only [Routine.meets_pure]
            cases W.candidateOf s.orderId (rows.map rowToOrderEvent) with
            | error e => exact fun _ h => by cases h
            | ok c =>
              simp only
              split
              · exact meets_rolledBack (by simp)
              · exact meets_primaryAppend (heldLocks_cons_of_open rfl _ _ hheld)

end LockContract

/-- A writer that locks its stream inside its transaction. -/
structure WriteInvocation.Locks (v : WriteInvocation) : Prop where
  placement : v.placement = .inTransaction
  gate : v.gate = .pessimistic

theorem WriteInvocation.Locks.program_meets {v : WriteInvocation} (hl : v.Locks) :
    v.program.Meets (lockContract v.signature.orderId) (fun _ _ => True) [] := by
  have hprimary : v.primary.Meets (lockContract v.signature.orderId) (fun _ _ => True) [] := by
    rw [primary, Program.meets_bind]
    have h : (v.writeSide.primary v.signature).Meets (lockContract v.signature.orderId) () []
        (fun _ _ _ => True) := by
      unfold WriteSide.primary
      rw [show v.writeSide.placement = .inTransaction from hl.placement]
      exact LockContract.meets_primaryInTransaction hl.gate
    exact h
  exact (v.program_primary.meets hprimary).mono (fun _ _ _ => trivial)

/-! ## Locks in a run -/

section Runs
variable {ι : Type} [DecidableEq ι] [Fintype ι] {D : Database ι} {faulty : ι → Prop}
  {invocations : ι → Invocation} {c c' : System ι} {i j : ι} {v u : WriteInvocation}

def AllLock (invocations : ι → Invocation) : Prop := ∀ i v, invocations i = .write v → v.Locks

/-- A stream is prepared and its transaction neither committed nor rolled back nor given up. -/
def System.Holds (c : System ι) (i : ι) (orderId : String) : Prop :=
  (c.program i).isSome = true ∧ streamKey orderId ∈ heldLocks (c.log i)

/-- All that an invocation has read of its stream is current. -/
structure Undisturbed (c : System ι) (i : ι) (orderId : String) : Prop where
  loaded : ∀ rows, (⟨.selectHistory orderId,.ok rows⟩ : Exchange Operation Operation.Answer PyException) ∈
    c.log i → rows = c.world.tables.stream orderId
  read : ∀ version, (⟨.selectCurrentVersion orderId,.ok version⟩ :
    Exchange Operation Operation.Answer PyException) ∈ c.log i →
      version = (c.world.tables.stream orderId).length

omit [DecidableEq ι] [Fintype ι] in
/-- No preparation of a stream answers STALE_WRITE. -/
theorem Delivered.prepared_not_stale {W : WriteSide} {s : RequestSignature} {log : SqlLog}
    {result : PostgresWriteSideResult} (h : Delivered W s log result) {p : StreamAdmissionResult}
    (hp : result.streamAdmissionResult = some p) : p.verdict ≠ .staleWrite := by
  have hprepared (p : StreamAdmissionResult) (h : Prepared s log W.gate p) : p.verdict ≠ .staleWrite := by
    generalize W.gate = gate at h
    cases h <;> exact fun h => nomatch h
  cases h with
  | decided checked found unread validated =>
    unfold PostgresWriteSideResult.decided at hp
    split at hp <;> cases hp
  | notPrepared checked prepared refused placed unread validated =>
    obtain rfl := Option.some.inj hp
    exact hprepared _ prepared
  | blocked checked admitted unread validated blocks => exact hprepared _ (admitted p hp).1
  | notAppended checked prepared admitted validated allowed refused translated =>
    obtain rfl := Option.some.inj hp
    exact hprepared _ prepared
  | accepted checked prepared admitted validated allowed reads =>
    obtain rfl := Option.some.inj hp
    exact hprepared _ prepared

namespace Reachable

theorem locking (h : Reachable D faulty .empty invocations c) (hv : invocations i = .write v)
    (hl : v.Locks) {op : Operation} {next : SqlReply op → SqlProgram InvocationResult}
    (running : c.program i = some (.call op next)) : lockGuard v.signature.orderId (c.log i) op := by
  have hmeets : ∀ p, c.program i = some p → p.Meets (lockContract v.signature.orderId)
      (fun _ _ => True) (c.log i) := by
    refine Reaches.meets (fun _ _ _ _ _ _ _ _ _ => trivial) (fun p hp => ?_) h
    have hprogram : (invocations i).program = p := Option.some.inj hp
    rw [hv] at hprogram
    subst hprogram
    simp only [Invocation.program, Program.meets_bind]
    exact hl.program_meets
  exact (hmeets _ running).1

/-- Locks are granted only outside autocommit. -/
theorem manual (h : Reachable D faulty .empty invocations c) (hv : invocations i = .write v)
    (hl : v.Locks) {key : String × String} (hkey : key ∈ heldLocks (c.log i)) : D.autocommit i = false := by
  obtain ⟨c₁,next,w,hp,-⟩ := Reaches.performed_of_mem h rfl (mem_of_heldLocks hkey)
  exact (of_performed hp).autocommit_eq ((of_performed hp).locking hv hl hp.running).1

theorem locksApart (h : Reachable D faulty .empty invocations c) : c.world.LocksApart := by
  refine Reaches.invariant (fun c : System ι => c.world.LocksApart) ?_ ?_ h
  · intro i j _ l hl
    cases hl
  intro c c' _ hi hs
  cases hs with
  | call running executes => exact hi.step executes.stepped
  | abandon running => exact hi.rollback _

theorem guarded (h : Reachable D faulty .empty invocations c) (hmanual : D.autocommit i = false) :
    (c.program i).isSome = true → Guarded D (heldLocks (c.log i)) (c.world.transactions i) := by
  refine Reaches.invariant (fun c : System ι => (c.program i).isSome = true →
    Guarded D (heldLocks (c.log i)) (c.world.transactions i)) ?_ ?_ h
  · intro _ key hkey
    cases hkey
  intro c c' _ ih hs hp
  cases hs with
  | @call j op next reply w running executes =>
    by_cases hij : i = j
    · subst hij
      rw [Config.advance_log_self, heldLocks_cons]
      exact (ih (by rw [running]; rfl)).step hmanual executes.stepped
    · rw [Config.advance_program_ne _ hij] at hp
      rw [Config.advance_log_ne _ hij, Config.advance_world, executes.stepped.others hij]
      exact ih hp
  | @abandon j op next running =>
    by_cases hij : i = j
    · subst hij
      simp at hp
    · rw [Config.drop_program_ne _ hij] at hp
      rw [Config.drop_log, Config.drop_world]
      exact (World.rollback_ne c.world hij).symm ▸ ih hp

/-- One invocation at a time has a stream prepared. -/
theorem exclusive (h : Reachable D faulty .empty invocations c) (hall : AllLock invocations)
    (hv : invocations i = .write v) (hu : invocations j = .write u) {orderId : String}
    (hi : c.Holds i orderId) (hj : c.Holds j orderId) : i = j := by
  by_contra hij
  have hgi := h.guarded (h.manual hv (hall i v hv) hi.2) hi.1 _ hi.2
  have hgj := h.guarded (h.manual hu (hall j u hu) hj.2) hj.1 _ hj.2
  exact h.locksApart i j hij _ hgi hgj

/-- A commit by another invocation leaves a prepared stream as it is. -/
theorem stream_kept (h : Reachable D faulty .empty invocations c) (hall : AllLock invocations)
    (hv : invocations i = .write v) (hi : c.Holds i v.signature.orderId) (hij : i ≠ j) {op : Operation}
    {next : SqlReply op → SqlProgram InvocationResult} {reply : SqlReply op} {w : World ι}
    (running : c.program j = some (.call op next)) (executes : SqlStep D faulty j c.world op reply w) :
    w.tables.stream v.signature.orderId = c.world.tables.stream v.signature.orderId := by
  by_cases hop : op = .commit
  · subst hop
    obtain ⟨-,rfl⟩ := SqlStep.commit_eq executes
    cases hu : invocations j with
    | project workerName =>
      rcases h.projected running hu with hsame | ⟨row,st,state,hp⟩
      · rw [hsame]
      · rw [hp.tables]
        rfl
    | write u =>
      obtain ⟨e,p,row,record,ha⟩ := h.accepting running hu
      obtain ⟨rows,a,-,hrehydrate,hbuild,-,-⟩ := ha.pending.appending.loaded
      have horder : row.orderId = u.signature.orderId := by
        obtain ⟨amount,position,-,-,-,rfl⟩ := ha.storedEvent
        exact (handledEvent hbuild).orderId.trans (rehydrate_orderId hrehydrate)
      have hother : row.orderId ≠ v.signature.orderId := by
        intro heq
        rw [horder] at heq
        have hj : c.Holds j v.signature.orderId :=
          ⟨by rw [running]; rfl,heq ▸ h.locking hu (hall j u hu) running⟩
        exact hij (h.exclusive hall hv hu hi hj)
      simp [ha.tables, Tables.stream, hother]
  · rw [h.tables_eq running executes hop]

theorem reads_stream (h : Reachable D faulty .empty invocations c) (hv : invocations i = .write v)
    {op : Operation} {next : SqlReply op → SqlProgram InvocationResult} {reply : SqlReply op} {w : World ι}
    (running : c.program i = some (.call op next)) (executes : SqlStep D faulty i c.world op reply w) :
    (∀ orderId rows, (⟨op,reply⟩ : Exchange Operation Operation.Answer PyException) =
      ⟨.selectHistory orderId,.ok rows⟩ → rows = c.world.tables.stream orderId) ∧
    (∀ orderId version, (⟨op,reply⟩ : Exchange Operation Operation.Answer PyException) =
      ⟨.selectCurrentVersion orderId,.ok version⟩ →
        version = (c.world.tables.stream orderId).length) := by
  constructor
  · intro orderId rows heq
    obtain ⟨rfl,hreply⟩ := Sigma.mk.inj heq
    obtain rfl := eq_of_heq hreply
    have hg := h.guard running
    rw [hv] at hg
    rw [← (h.sound .initial .empty).history_eq, ← (h.mirrors running).visible_eq hg.2.noRows]
    exact SqlStep.answer executes rfl (fun _ => rfl)
  · intro orderId version heq
    obtain ⟨rfl,hreply⟩ := Sigma.mk.inj heq
    obtain rfl := eq_of_heq hreply
    exact h.versionRead hv running executes

theorem readBefore (h : Reachable D faulty .empty invocations c) (hall : AllLock invocations)
    (hv : invocations i = .write v) (ih : c.Holds i v.signature.orderId →
      Undisturbed c i v.signature.orderId) {op : Operation}
    {next : SqlReply op → SqlProgram InvocationResult} {reply : SqlReply op}
    (running : c.program i = some (.call op next))
    (hheld : streamKey v.signature.orderId ∈ heldLocks (⟨op,reply⟩ :: c.log i)) :
    Undisturbed c i v.signature.orderId := by
  have hprogram : (c.program i).isSome = true := by
    rw [running]
    rfl
  have hguard := h.locking hv (hall i v hv) running
  cases op with
  | commit | rollback => cases hheld
  | tryAdvisoryXactLock key1 key2 =>
    obtain ⟨-,hhistories,hversions⟩ := hguard
    refine ⟨fun rows hmem => ?_,fun version hmem => ?_⟩
    · have hin : rows ∈ histories (c.log i) := List.mem_filterMap.mpr ⟨_,hmem,rfl⟩
      rw [hhistories] at hin
      cases hin
    · have hin : version ∈ versions (c.log i) := List.mem_filterMap.mpr ⟨_,hmem,rfl⟩
      rw [hversions] at hin
      cases hin
  | _ => exact ih ⟨hprogram,hheld⟩

/-- What a prepared invocation has read of its stream stays current. -/
theorem undisturbed (h : Reachable D faulty .empty invocations c) (hall : AllLock invocations)
    (hv : invocations i = .write v) :
    c.Holds i v.signature.orderId → Undisturbed c i v.signature.orderId := by
  refine Reaches.invariant (fun c : System ι => c.Holds i v.signature.orderId →
    Undisturbed c i v.signature.orderId) ?_ ?_ h
  · intro hi
    cases hi.2
  intro c c' hr ih hs hi
  cases hs with
  | @call j op next reply w running executes =>
    by_cases hij : i = j
    · subst hij
      have hheld := hi.2
      rw [Config.advance_log_self] at hheld
      obtain ⟨hloaded,hread⟩ := Reachable.readBefore hr hall hv ih running hheld
      obtain ⟨hload,hversion⟩ := Reachable.reads_stream hr hv running executes
      have hsame : w.tables = c.world.tables := Reachable.tables_eq hr running executes (by
        rintro rfl
        cases hheld)
      refine ⟨fun rows hmem => ?_,fun version hmem => ?_⟩
      · rw [Config.advance_log_self] at hmem
        rw [Config.advance_world, hsame]
        exact (List.mem_cons.mp hmem).elim (fun heq => hload _ _ heq.symm) (hloaded rows)
      · rw [Config.advance_log_self] at hmem
        rw [Config.advance_world, hsame]
        exact (List.mem_cons.mp hmem).elim (fun heq => hversion _ _ heq.symm) (hread version)
    · have hprogram := Config.advance_program_ne c hij op reply (next reply) w
      have hlog := Config.advance_log_ne c hij op reply (next reply) w
      have hc : System.Holds c i v.signature.orderId := ⟨hprogram ▸ hi.1,hlog ▸ hi.2⟩
      have hkept := Reachable.stream_kept hr hall hv hc hij running executes
      obtain ⟨hloaded,hread⟩ := ih hc
      refine ⟨fun rows hmem => ?_,fun version hmem => ?_⟩
      · rw [hlog] at hmem
        exact (hloaded rows hmem).trans hkept.symm
      · rw [hlog] at hmem
        rw [hread version hmem, ← hkept, Config.advance_world]
  | @abandon j op next running =>
    by_cases hij : i = j
    · subst hij
      simp [System.Holds] at hi
    · have hc : System.Holds c i v.signature.orderId :=
        ⟨Config.drop_program_ne c hij _ ▸ hi.1,hi.2⟩
      exact ⟨(ih hc).loaded,(ih hc).read⟩

/-- Only the holder of a stream has an event of it pending. -/
theorem pending_alone (h : Reachable D faulty .empty invocations c) (hall : AllLock invocations)
    (hv : invocations i = .write v) {orderId : String} (hi : c.Holds i orderId) (hij : i ≠ j) :
    ∀ row ∈ (c.world.transactions j).orderEvents, row.orderId ≠ orderId := by
  rintro row hrow rfl
  have hm := h.mirrored j
  cases hp : c.program j with
  | none =>
    rw [hp] at hm
    rw [show c.world.transactions j = .idle from hm] at hrow
    cases hrow
  | some p =>
    rw [hp] at hm
    obtain ⟨e,he,amount,position,-,-,-,rfl⟩ := exists_related hm.events.flip row hrow
    obtain ⟨c₁,next,w,hperformed,-⟩ := Reaches.performed_of_mem h rfl (mem_of_session_events he)
    have hg := (of_performed hperformed).guard hperformed.running
    cases hu : invocations j with
    | project workerName =>
      rw [hu] at hg
      exact hg
    | write u =>
      rw [hu] at hg
      obtain ⟨-,⟨rows,a,-,hrehydrate,hbuild,-,-⟩,-⟩ := hg
      have horder : u.signature.orderId = e.orderId :=
        ((handledEvent hbuild).orderId.trans (rehydrate_orderId hrehydrate)).symm
      have hheld : streamKey e.orderId ∈ heldLocks (c.log j) := by
        refine heldLocks_of_pending (fun older hsuffix => ?_) he
        obtain ⟨later,hlog⟩ := hsuffix
        obtain ⟨c₂,next₂,w₂,hp₂,rfl⟩ := Reaches.performed h rfl (l := later) hlog.symm
        exact horder ▸ (of_performed hp₂).locking hu (hall j u hu) hp₂.running
      exact hij (h.exclusive hall hv hu hi ⟨by rw [hp]; rfl,hheld⟩)

/-- With every writer locking its stream inside its transaction, no append is ever stale: at
most one invocation has a stream prepared, and until its transaction ends all it has read of
the stream is current and the next place of the stream is its own. -/
theorem pessimistic_exclusion (h : Reachable D faulty .empty invocations c)
    (hall : AllLock invocations) (hv : invocations i = .write v) :
    (∀ d, (faulty i → StaleReports D i c) → c.delivered i = some (.ok d) →
      (∀ p, d.producerValue.result.streamAdmissionResult = some p → p.verdict ≠ .staleWrite) ∧
      ∀ a, d.producerValue.result.admissionResult = some a → a.verdict ≠ .staleWrite) ∧
    (c.Holds i v.signature.orderId →
      (∀ j u, invocations j = .write u → c.Holds j v.signature.orderId → j = i) ∧
      Undisturbed c i v.signature.orderId ∧
      (∀ e, (⟨.insertOrderEvent e,.ok ()⟩ : Exchange Operation Operation.Answer PyException) ∈ c.log i →
        e.orderId = v.signature.orderId ∧
          e.sequence = (c.world.tables.stream v.signature.orderId).length+1) ∧
      ∀ j, j ≠ i → ∀ row ∈ (c.world.transactions j).orderEvents, row.orderId ≠ v.signature.orderId) := by
  constructor
  · intro d hreports hd
    refine ⟨fun p hp => (h.delivers hv hd).prepared_not_stale hp,fun a ha hstale => ?_⟩
    have hreports : StaleReports D i c := by
      by_cases hf : faulty i
      · exact hreports hf
      · exact h.staleReports hf
    obtain ⟨candidate,c₁,c₂,-,-,-,hovertaken⟩ := h.overtaken hv hreports hd ha hstale
    obtain ⟨op,next,reply,w,happend,hp⟩ := hovertaken.appends
    have h₁ := of_performed hp
    have hheld : streamKey v.signature.orderId ∈ heldLocks (c₁.log i) := by
      have hg := h₁.locking hv (hall i v hv) hp.running
      cases op <;> first | exact hg | cases happend
    have hholds : c₁.Holds i v.signature.orderId := ⟨by rw [hp.running]; rfl,hheld⟩
    obtain ⟨next₂,w₂,hp₂⟩ := hovertaken.built.loads
    have hloaded := (h₁.undisturbed hall hv hholds).loaded _
      (hp₂.log_suffix.subset (List.mem_cons_self ..))
    have hgrown := hovertaken.grown
    rw [hovertaken.built.loaded, ← ((of_performed hp₂).sound .initial .empty).history_eq, hloaded] at hgrown
    omega
  · intro hi
    have hundisturbed := h.undisturbed hall hv hi
    refine ⟨fun j u hu hj => h.exclusive hall hu hv hj hi,hundisturbed,fun e he => ?_,
      fun j hj => h.pending_alone hall hv hi hj.symm⟩
    obtain ⟨c₁,next,w,hp,hsuffix⟩ := Reaches.performed_of_mem h rfl he
    have hg := (of_performed hp).guard hp.running
    rw [hv] at hg
    obtain ⟨-,⟨rows,a,-,hrehydrate,hbuild,hread,hsequence⟩,-⟩ := hg
    have horder : e.orderId = v.signature.orderId :=
      (handledEvent hbuild).orderId.trans (rehydrate_orderId hrehydrate)
    have hversion := hundisturbed.read a.currentVersion
      (horder ▸ hsuffix.subset (List.mem_cons_of_mem _ hread))
    exact ⟨horder,by rw [hsequence, hversion]⟩

end Reachable
end Runs

/-! Two locking creations of one order: the second asks while the first is prepared. -/
namespace LockedCreations

def create (requestId : String) (draw : Draw) : WriteInvocation :=
  ⟨.inTransaction,.pessimistic,invokeValidation .strict,⟨requestId,.create,"A",.int 10⟩,draw,true,none⟩

def calls : Fin 2 → Invocation
  | 0 => .write (create "r-0" ⟨0,0⟩)
  | 1 => .write (create "r-1" ⟨1,0⟩)

theorem allLock : AllLock calls := by
  intro i v hv
  match i with
  | 0 | 1 =>
    cases hv
    exact ⟨rfl,rfl⟩

def prepared : System (Fin 2) :=
  ((System.start .empty calls).drive RacingCreations.server.serve [0,0,0,0,1,1,1,1,0,0]).get
    (by decide +kernel)

end LockedCreations

theorem Reachable.pessimistic_exclusion_locked :
    System.Holds LockedCreations.prepared 0 "A" ∧ ¬System.Holds LockedCreations.prepared 1 "A" := by
  have h : Reachable RacingCreations.server (fun _ => False) .empty LockedCreations.calls
      LockedCreations.prepared := Reachable.of_drive (Option.some_get _).symm
  have hholds : System.Holds LockedCreations.prepared 0 "A" := ⟨by decide +kernel,by decide +kernel⟩
  refine ⟨hholds,fun h1 => ?_⟩
  have heq := ((pessimistic_exclusion h LockedCreations.allLock (i := 0)
    (v := LockedCreations.create "r-0" ⟨0,0⟩) rfl).2 hholds).1 1 _ rfl h1
  exact absurd heq (by decide)

end StreamingCompass
