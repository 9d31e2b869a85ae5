import StreamingCompass.Transactional.WriteContract
import StreamingCompass.Projection.WorkerContract

/-! # The interleaved system

Write invocations and projection workers, one to a connection, over one server. A run
interleaves their statements in any order and may abandon any of them. What a step can
do to the committed tables is stated once here.
-/
namespace StreamingCompass
open Interleaving

inductive Invocation where
  | write (v : WriteInvocation)
  | project (workerName : String)

inductive InvocationResult where
  | delivered (r : Except PyException PostgresWriteSideDelivery)
  | projected (r : Except PyException PostgresProjectionWorkerResult)

namespace Invocation

def program : Invocation → SqlProgram InvocationResult
  | .write v => v.program.bind (fun r => .done (.delivered r))
  | .project workerName =>
    (PostgresProjectionWorker.program workerName).bind (fun r => .done (.projected r))

def contract (autocommit : Bool) : Invocation → Contract Operation Operation.Answer PyException
  | .write v => writeContract autocommit v.writeSide v.signature
  | .project _ => projectContract

def Ends (log : SqlLog) : Invocation → InvocationResult → Prop
  | .write v, .delivered r =>
    Concluded v.writeSide v.signature log (r.map (fun d => d.producerValue.result))
  | .project _, .projected _ => True
  | _, _ => False

theorem program_meets (autocommit : Bool) (v : Invocation) :
    v.program.Meets (v.contract autocommit) (fun log r => v.Ends log r) [] := by
  cases v with
  | write v =>
    simp only [program, Program.meets_bind]
    exact v.program_meets autocommit
  | project workerName =>
    simp only [program, Program.meets_bind]
    exact PostgresProjectionWorker.program_meets workerName

end Invocation

abbrev System (ι : Type) : Type :=
  Config ι (World ι) Operation Operation.Answer PyException InvocationResult

variable {ι : Type}

/-- Every invocation about to start, on idle connections. -/
def System.start (t : Tables) (invocations : ι → Invocation) : System ι :=
  ⟨.initial t,fun i => some (invocations i).program,[]⟩

/-- What a finished write invocation returned or raised. -/
def System.delivered (c : System ι) (i : ι) : Option (Except PyException PostgresWriteSideDelivery) :=
  match c.program i with
  | some (.done (.delivered r)) => some r
  | _ => none

theorem System.delivered_eq_some {c : System ι} {i : ι}
    {r : Except PyException PostgresWriteSideDelivery} :
    c.delivered i = some r ↔ c.program i = some (.done (.delivered r)) := by
  unfold delivered
  split <;> simp_all

/-- What a thread's log says about its transaction; an abandoned one was rolled back. -/
def System.Mirrored [DecidableEq ι] (c : System ι) : Prop :=
  ∀ i, match c.program i with
    | some _ => Mirrors (session (c.log i)) (c.world.transactions i)
    | none => c.world.transactions i = .idle

variable [DecidableEq ι] [Fintype ι]

/-- The configurations of the runs of some invocations from some tables. -/
def Reachable (D : Database ι) (faulty : ι → Prop) (t : Tables) (invocations : ι → Invocation)
    (c : System ι) : Prop := Reaches (D.machine faulty) (System.start t invocations) c

variable {D : Database ι} {faulty : ι → Prop} {t : Tables} {invocations : ι → Invocation}
  {c c' : System ι} {i : ι}

theorem SqlStep.connectionReplies {w w' : World ι} {op : Operation} {reply : SqlReply op}
    (h : SqlStep D faulty i w op reply w') : connectionReplies (D.autocommit i) op reply := by
  cases h.stepped with
  | flag => rfl
  | committed => rfl
  | rolledBack => rfl
  | status => trivial
  | began => trivial
  | still mayFail => cases op <;> trivial
  | refused isStatement => cases op <;> trivial
  | @ran op _ _ _ fresh isStatement encodable healthy effects =>
    cases op with
    | selectCurrentVersion orderId =>
      obtain ⟨rfl,-⟩ := Prod.mk.inj (Except.ok.inj (Option.some.inj effects))
      exact (w.visible i).currentVersion_nonneg orderId
    | commit | rollback | autocommit => cases isStatement
    | _ => trivial

theorem SqlStep.allowed {w w' : World ι} {op : Operation} {reply : SqlReply op}
    (h : SqlStep D faulty i w op reply w') (v : Invocation) (log : SqlLog) :
    (v.contract (D.autocommit i)).allowed log op reply := by
  cases v with
  | write v => exact h.connectionReplies
  | project _ => trivial

namespace Reachable

theorem of_performed {c₁ : System ι} {op : Operation} {next : SqlReply op → SqlProgram InvocationResult}
    {reply : SqlReply op} {w : World ι}
    (hp : Performed (D.machine faulty) (System.start t invocations) c c₁ i op next reply w) :
    Reachable D faulty t invocations c₁ := hp.before

theorem meets (h : Reachable D faulty t invocations c) (i : ι) :
    ∀ p, c.program i = some p → p.Meets ((invocations i).contract (D.autocommit i))
      (fun log r => (invocations i).Ends log r) (c.log i) := by
  refine Reaches.meets (fun c _ op next _ _ reply w hs => SqlStep.allowed hs _ _) (fun p hp => ?_) h
  obtain rfl : (invocations i).program = p := Option.some.inj hp
  exact (invocations i).program_meets _

/-- What a finished write invocation returned, with its evidence. -/
theorem finishes (h : Reachable D faulty t invocations c) {v : WriteInvocation}
    (hv : invocations i = .write v) {r : Except PyException PostgresWriteSideDelivery}
    (hr : c.delivered i = some r) :
    WriteContract.Finished v.writeSide v.signature (c.log i)
      (r.map (fun d => d.producerValue.result)) := by
  have hmeets : ∀ p, c.program i = some p → p.Meets
      (writeContract (D.autocommit i) v.writeSide v.signature)
      (fun log r => ∀ r', r = .delivered r' → WriteContract.Finished v.writeSide v.signature log
        (r'.map (fun d => d.producerValue.result))) (c.log i) := by
    refine Reaches.meets (fun c _ op next _ _ reply w hs => SqlStep.allowed hs (.write v) (c.log i))
      (fun p hp => ?_) h
    have hprogram : (invocations i).program = p := Option.some.inj hp
    rw [hv] at hprogram
    subst hprogram
    simp only [Invocation.program, Program.meets_bind]
    refine (v.program_finishes (D.autocommit i)).mono (fun log r hf r' hr' => ?_)
    obtain rfl := InvocationResult.delivered.inj hr'
    exact hf
  exact hmeets _ (System.delivered_eq_some.mp hr) r rfl

theorem delivers (h : Reachable D faulty t invocations c) {v : WriteInvocation}
    (hv : invocations i = .write v) {d : PostgresWriteSideDelivery}
    (hd : c.delivered i = some (.ok d)) :
    Delivered v.writeSide v.signature (c.log i) d.producerValue.result :=
  (h.finishes hv hd).2 _ rfl

/-- Every operation satisfies its invocation's guard when it is issued. -/
theorem guard (h : Reachable D faulty t invocations c) {op : Operation}
    {next : SqlReply op → SqlProgram InvocationResult}
    (hp : c.program i = some (.call op next)) :
    ((invocations i).contract (D.autocommit i)).guard (c.log i) op :=
  (h.meets i _ hp).1

theorem autocommit_eq (h : Reachable D faulty t invocations c) {b : Bool}
    (hb : (⟨.autocommit,.ok b⟩ : Exchange Operation Operation.Answer PyException) ∈ c.log i) :
    D.autocommit i = b := by
  obtain ⟨c₁,next,w,hp,-⟩ := Reaches.performed_of_mem h rfl hb
  exact hp.executes.connectionReplies.symm

/-- Rows are written in an explicit transaction. -/
theorem explicit (h : Reachable D faulty t invocations c) {op : Operation}
    {next : SqlReply op → SqlProgram InvocationResult}
    (hp : c.program i = some (.call op next))
    (hm : Mirrors (session (c.log i)) (c.world.transactions i)) (hw : op.isWrite = true) :
    Explicit D c.world i := by
  have hg := h.guard hp
  cases hv : invocations i with
  | write v =>
    rw [hv] at hg
    have hmanual {e : OrderEvent} (ha : Appending v.writeSide v.signature (c.log i) e) :
        Explicit D c.world i := .inl (h.autocommit_eq ha.manual)
    cases op with
    | insertOrderEvent e => exact hmanual hg.2
    | insertIdempotencyRecord p =>
      obtain ⟨e,hpending,-⟩ := hg
      exact hmanual hpending.appending
    | upsertProjectionState p => exact hg.elim
    | advanceProgress p => exact hg.elim
    | _ => cases hw
  | project workerName =>
    rw [hv] at hg
    cases op with
    | insertOrderEvent e => exact hg.elim
    | insertIdempotencyRecord p => exact hg.elim
    | upsertProjectionState p => exact .inr (hm.began hg.1.began)
    | advanceProgress p =>
      obtain ⟨row,next,hprojecting,-⟩ := hg
      exact .inr (hm.began hprojecting.began)
    | _ => cases hw

theorem mirrored (h : Reachable D faulty t invocations c) : c.Mirrored := by
  refine Reaches.invariant System.Mirrored (fun i => Mirrors.init) ?_ h
  intro c c' hr hm hs i
  cases hs with
  | @call j op next reply w running executes =>
    by_cases hij : i = j
    · subst hij
      have hmi := hm i
      rw [running] at hmi
      rw [Config.advance_program_self, Config.advance_log_self]
      exact hmi.step executes.stepped (fun hw => explicit hr running hmi hw)
    · rw [Config.advance_program_ne _ hij, Config.advance_log_ne _ hij, Config.advance_world,
        executes.stepped.others hij]
      exact hm i
  | @abandon j op next running =>
    by_cases hij : i = j
    · subst hij
      rw [Config.drop_program_self]
      exact World.rollback_self _ i
    · rw [Config.drop_program_ne _ hij, Config.drop_log, Config.drop_world]
      exact (World.rollback_ne c.world hij).symm ▸ hm i

theorem mirrors (h : Reachable D faulty t invocations c) {p : SqlProgram InvocationResult}
    (hp : c.program i = some p) : Mirrors (session (c.log i)) (c.world.transactions i) := by
  have hm := h.mirrored i
  rwa [hp] at hm

theorem integral (h : Reachable D faulty t invocations c) (ht : (World.initial t : World ι).Integral) :
    c.world.Integral := by
  refine Reaches.invariant (fun c : System ι => c.world.Integral) ht ?_ h
  intro c c' hr hi hs
  cases hs with
  | call running executes => exact executes.stepped.integral hi
  | abandon running => exact hi.rollback _

end Reachable

/-- A write invocation about to commit its event and record. -/
structure Accepting (c : System ι) (i : ι) (v : WriteInvocation) (e : OrderEvent)
    (p : IdempotencyParameters) (row : OrderEventRow) (record : IdempotencyRow) : Prop where
  pending : Pending v.writeSide v.signature (c.log i) e [p]
  parameters : PostgresIdempotencyStore.recordParameters v.signature e = .ok p
  storedEvent : StoredEvent e row
  storedRecord : StoredRecord p record
  pendingEvent : (c.world.transactions i).orderEvents = [row]
  tables : (c.world.commit i).tables = c.world.tables.accept row record

/-- A worker about to commit its state and progress. -/
structure Projected (c : System ι) (i : ι) (row : OrderEventRow) (next : OrderState)
    (state : ProjectionStateRow) : Prop where
  projecting : Projecting (c.log i) row next [progressOf row]
  storedState : StoredState (stateParameters next) state
  pendingState : (c.world.transactions i).projectionStates = [state]
  pendingProgress : (c.world.transactions i).progress = [progressOf row]
  tables : (c.world.commit i).tables = c.world.tables.project state (progressOf row)

theorem SqlStep.commit_eq {w w' : World ι} {reply : SqlReply .commit}
    (h : SqlStep D faulty i w .commit reply w') : reply = .ok () ∧ w' = w.commit i := by
  cases h.stepped with
  | committed => exact ⟨rfl,rfl⟩
  | still mayFail => cases mayFail
  | refused isStatement => cases isStatement
  | ran fresh isStatement => cases isStatement

namespace Reachable

/-- What a write invocation commits. -/
theorem accepting (h : Reachable D faulty t invocations c)
    {next : SqlReply .commit → SqlProgram InvocationResult}
    (running : c.program i = some (.call .commit next)) {v : WriteInvocation}
    (hv : invocations i = .write v) : ∃ e p row record, Accepting c i v e p row record := by
  have hm := h.mirrors running
  have hg := h.guard running
  rw [hv] at hg
  obtain ⟨e,p,hpending,hparams⟩ := hg
  have hok : (c.world.transactions i).failed = false := by
    cases hf : (c.world.transactions i).failed with
    | false => rfl
    | true => exact absurd (hm.failed hf) (by simp [hpending.clean])
  have hevents := hm.events
  have hrecords := hm.records
  have hstates := hm.states
  have hprogress := hm.progress
  rw [hpending.events] at hevents
  rw [hpending.records] at hrecords
  rw [hpending.states] at hstates
  rw [hpending.progress] at hprogress
  obtain ⟨row,_,hrow,hnil,hx⟩ := List.forall₂_cons_left_iff.mp hevents
  obtain rfl := List.forall₂_nil_left_iff.mp hnil
  obtain ⟨record,_,hrecord,hnil,hy⟩ := List.forall₂_cons_left_iff.mp hrecords
  obtain rfl := List.forall₂_nil_left_iff.mp hnil
  refine ⟨e,p,row,record,hpending,hparams,hrow,hrecord,hx,?_⟩
  rw [World.commit_tables _ hok]
  simp only [World.visible, Tables.apply, hx, hy, hprogress, List.forall₂_nil_left_iff.mp hstates,
    List.foldr_nil, Tables.accept]

/-- What a worker commits. -/
theorem projected (h : Reachable D faulty t invocations c)
    {next : SqlReply .commit → SqlProgram InvocationResult}
    (running : c.program i = some (.call .commit next)) {workerName : String}
    (hv : invocations i = .project workerName) :
    (c.world.commit i).tables = c.world.tables ∨ ∃ row st state, Projected c i row st state := by
  have hm := h.mirrors running
  have hg := h.guard running
  rw [hv] at hg
  cases hf : (c.world.transactions i).failed with
  | true => exact .inl (World.commit_tables_of_failed _ hf)
  | false =>
    have hevents := hm.events
    have hrecords := hm.records
    have hstates := hm.states
    have hprogress := hm.progress
    rcases hg with hr | ⟨row,st,hprojecting⟩
    · rw [hr.noRows.events] at hevents
      rw [hr.noRows.records] at hrecords
      rw [hr.noRows.states] at hstates
      rw [hr.noRows.progress] at hprogress
      left
      rw [World.commit_tables _ hf]
      simp only [World.visible, Tables.apply, List.forall₂_nil_left_iff.mp hevents,
        List.forall₂_nil_left_iff.mp hrecords, List.forall₂_nil_left_iff.mp hstates,
        hprogress, List.foldr_nil, List.append_nil]
    · rw [hprojecting.events] at hevents
      rw [hprojecting.records] at hrecords
      rw [hprojecting.states] at hstates
      rw [hprojecting.progress] at hprogress
      obtain ⟨state,_,hstate,hnil,hx⟩ := List.forall₂_cons_left_iff.mp hstates
      obtain rfl := List.forall₂_nil_left_iff.mp hnil
      refine .inr ⟨row,st,state,hprojecting,hstate,hx,hprogress,?_⟩
      rw [World.commit_tables _ hf]
      simp only [World.visible, Tables.apply, List.forall₂_nil_left_iff.mp hevents,
        List.forall₂_nil_left_iff.mp hrecords, hx, hprogress, List.foldr_cons, List.foldr_nil,
        List.append_nil, Tables.project]

theorem tables_eq (h : Reachable D faulty t invocations c) {op : Operation}
    {next : SqlReply op → SqlProgram InvocationResult} {reply : SqlReply op} {w : World ι}
    (running : c.program i = some (.call op next)) (executes : SqlStep D faulty i c.world op reply w)
    (hop : op ≠ .commit) : w.tables = c.world.tables :=
  have hm := h.mirrors running
  executes.stepped.tables_eq hm hop (fun hw => h.explicit running hm hw)

end Reachable

inductive Committed (invocations : ι → Invocation) (c c' : System ι) : Prop where
  | nothing (same : c'.world.tables = c.world.tables)
  | accepted {i : ι} {v : WriteInvocation} {e : OrderEvent} {p : IdempotencyParameters}
    {row : OrderEventRow} {record : IdempotencyRow} (invocation : invocations i = .write v)
    (accepting : Accepting c i v e p row record)
    (commits : ∃ next, c.program i = some (.call .commit next) ∧
      c' = c.advance i .commit (.ok ()) (next (.ok ())) (c.world.commit i))
  | projected {i : ι} {workerName : String} {row : OrderEventRow} {st : OrderState}
    {state : ProjectionStateRow} (invocation : invocations i = .project workerName)
    (projected : Projected c i row st state)
    (commits : ∃ next, c.program i = some (.call .commit next) ∧
      c' = c.advance i .commit (.ok ()) (next (.ok ())) (c.world.commit i))

/-- Every step of a run commits nothing, one accepted event with its record, or one
projected event. -/
theorem Reachable.committed (h : Reachable D faulty t invocations c)
    (hs : Step (D.machine faulty) c c') : Committed invocations c c' := by
  cases hs with
  | abandon running => exact .nothing rfl
  | @call i op next reply w running executes =>
    by_cases hop : op = .commit
    · subst hop
      obtain ⟨rfl,rfl⟩ := SqlStep.commit_eq executes
      cases hv : invocations i with
      | write v =>
        obtain ⟨e,p,row,record,ha⟩ := h.accepting running hv
        exact .accepted hv ha ⟨next,running,rfl⟩
      | project workerName =>
        rcases h.projected running hv with hsame | ⟨row,st,state,hp⟩
        · exact .nothing hsame
        · exact .projected hv hp ⟨next,running,rfl⟩
    · exact .nothing (h.tables_eq running executes hop)

omit [Fintype ι] in
theorem System.tables_of_commits {c c' : System ι} {i : ι}
    (h : ∃ next, c.program i = some (.call .commit next) ∧
      c' = c.advance i .commit (.ok ()) (next (.ok ())) (c.world.commit i)) :
    c'.world.tables = (c.world.commit i).tables := by
  obtain ⟨next,-,rfl⟩ := h
  rfl

end StreamingCompass
