import StreamingCompass.Projection.Worker
import StreamingCompass.Storage.Session

/-! # What a projection worker does to its connection

The worker writes a state and its progress in one explicit transaction, and commits
either nothing or both for the event it selected.
-/
namespace StreamingCompass
open Interleaving

/-- The progress that cites an event. -/
def progressOf (row : OrderEventRow) : ProgressRow :=
  ⟨progressKey row.orderId,row.sequence,row.acceptedEventId,row.globalPosition⟩

/-- The parameters `save` passes for a state. -/
def stateParameters (s : OrderState) : ProjectionStateParameters :=
  ⟨s.orderId,s.status,s.totalAmount,s.paidAmount,s.version,s.version⟩

/-- The event was selected, and the reducer applied to the state read for its order. -/
structure Applying (log : SqlLog) (row : OrderEventRow) (next : OrderState) : Prop where
  selected : ∃ rest, (⟨.selectEligible orderStateProjectionName orderStateProjectionEpoch 1,
    .ok (row :: rest)⟩ : Exchange _ _ _) ∈ log
  reduced : ∃ current, (⟨.selectProjectionState row.orderId,.ok current⟩ : Exchange _ _ _) ∈ log ∧
    reduceOrderEvent ((current.map PostgresProjectionWorker.stateOfRow).getD
      (buildEmptyProjectionState row.orderId)) (rowToOrderEvent row) = .ok next

theorem Applying.cons {log : SqlLog} {row : OrderEventRow} {next : OrderState}
    (h : Applying log row next) (x : Exchange Operation Operation.Answer PyException) :
    Applying (x :: log) row next := by
  obtain ⟨⟨rest,hrest⟩,current,hcurrent,hnext⟩ := h
  exact ⟨⟨rest,List.mem_cons_of_mem _ hrest⟩,current,List.mem_cons_of_mem _ hcurrent,hnext⟩

/-- The state, and later the progress, of the selected event are all that is pending. -/
structure Projecting (log : SqlLog) (row : OrderEventRow) (next : OrderState)
    (progress : List ProgressRow) : Prop where
  began : (session log).began = true
  events : (session log).events = []
  records : (session log).records = []
  states : (session log).states = [stateParameters next]
  progress : (session log).progress = progress
  applying : Applying log row next

/-- An explicit transaction that has written nothing. -/
structure Reading (log : SqlLog) : Prop where
  began : (session log).began = true
  noRows : (session log).NoRows

def projectGuard (log : SqlLog) : Operation → Prop
  | .transactionStatus => log = []
  | .begin => (session log).NoRows
  | .rollback => True
  | .selectEligible name epoch limit =>
    name = orderStateProjectionName ∧ epoch = orderStateProjectionEpoch ∧ limit = 1 ∧ Reading log
  | .selectProjectionState _ => Reading log
  | .upsertProjectionState p => Reading log ∧ ∃ row next, Applying log row next ∧ p = stateParameters next
  | .advanceProgress q => ∃ row next, Projecting log row next [] ∧ q = progressOf row
  | .commit => Reading log ∨ ∃ row next, Projecting log row next [progressOf row]
  | _ => False

def projectContract : Contract Operation Operation.Answer PyException where
  allowed _ _ _ := True
  guard := projectGuard

theorem projectionOrderProgress_eq_ok {key : ProgressKey} {lastSequence : ℤ} {lastEventId : String}
    {lastGlobalPosition : ℕ} {p : ProgressRow}
    (h : projectionOrderProgress key lastSequence lastEventId lastGlobalPosition = .ok p) :
    p = ⟨key,lastSequence,lastEventId,lastGlobalPosition⟩ := by
  simp only [projectionOrderProgress] at h
  repeat' split at h
  all_goals first | exact (Except.ok.inj h).symm | cases h

namespace PostgresProjectionWorker
variable {σ : Type} {st : σ} {log : SqlLog}

theorem meets_applyRecord (workerName : String) {row : OrderEventRow} (hr : Reading log)
    (hrow : ∃ rest, (⟨.selectEligible orderStateProjectionName orderStateProjectionEpoch 1,
      .ok (row :: rest)⟩ : Exchange _ _ _) ∈ log) :
    (applyRecord (σ := σ) workerName ⟨row.globalPosition,rowToOrderEvent row⟩).Meets projectContract
      st log (fun log r _ => ∀ v, r = .ok v → projectGuard log .commit) := by
  have herror {log : SqlLog} {e : PyException} (v : PostgresProjectionWorkerResult)
      (h : (.error e : Except PyException _) = .ok v) : projectGuard log .commit := nomatch h
  obtain ⟨rest,hrow⟩ := hrow
  simp only [applyRecord, loadState, Routine.meets_bind, Routine.meets_perform]
  refine ⟨hr,fun reply _ => ?_⟩
  cases reply with
  | error e => exact herror
  | ok current =>
    simp only [Routine.meets_pure, Routine.meets_ofExcept]
    split
    · rename_i next hnext
      have happ : Applying (⟨.selectProjectionState row.orderId,.ok current⟩ :: log) row next :=
        ⟨⟨rest,List.mem_cons_of_mem _ hrow⟩,current,List.mem_cons_self ..,hnext⟩
      have hr1 : Reading (⟨.selectProjectionState row.orderId,.ok current⟩ :: log) :=
        ⟨hr.began,hr.noRows.events,hr.noRows.records,hr.noRows.states,hr.noRows.progress⟩
      simp only [saveState, Routine.meets_perform]
      refine ⟨⟨hr1,row,next,happ,rfl⟩,fun reply _ => ?_⟩
      cases reply with
      | error e => exact herror
      | ok _ =>
        have hp : Projecting (⟨.upsertProjectionState (stateParameters next),.ok ()⟩ ::
            ⟨.selectProjectionState row.orderId,.ok current⟩ :: log) row next [] := by
          refine ⟨hr1.began,hr1.noRows.events,hr1.noRows.records,?_,hr1.noRows.progress,happ.cons _⟩
          change stateParameters next :: (session log).states = _
          rw [hr.noRows.states]
        simp only
        split
        · rename_i progress hprogress
          obtain rfl := projectionOrderProgress_eq_ok hprogress
          simp only [advanceProgress, Routine.meets_bind, Routine.meets_perform]
          refine ⟨⟨row,next,hp,rfl⟩,fun reply _ => ?_⟩
          cases reply with
          | error e => exact herror
          | ok written =>
            cases written with
            | none => exact herror
            | some _ =>
              intro v _
              refine .inr ⟨row,next,hp.began,hp.events,hp.records,hp.states,?_,hp.applying.cons _⟩
              change progressOf row :: (session log).progress = _
              rw [hr.noRows.progress]
        · exact herror
    · exact herror

theorem meets_withTransaction {α : Type} {body : SqlRoutine σ α} (hn : (session log).NoRows)
    (hbody : Reading (⟨.begin,.ok ()⟩ :: log) → body.Meets projectContract st (⟨.begin,.ok ()⟩ :: log)
      (fun log r _ => ∀ v, r = .ok v → projectGuard log .commit)) :
    (withTransaction body).Meets projectContract st log (fun _ _ _ => True) := by
  simp only [withTransaction, Routine.meets_bind, Routine.meets_perform]
  refine ⟨hn,fun reply _ => ?_⟩
  cases reply with
  | error e => trivial
  | ok _ =>
    simp only [Routine.meets_attempt]
    have hr : Reading (⟨.begin,.ok ()⟩ :: log) :=
      ⟨rfl,hn.events,hn.records,hn.states,hn.progress⟩
    refine (hbody hr).mono (fun log1 r st1 hcommit => ?_)
    cases r with
    | ok v =>
      simp only [Routine.meets_bind, Routine.meets_perform]
      refine ⟨hcommit v rfl,fun reply _ => ?_⟩
      cases reply <;> trivial
    | error e =>
      simp only [Routine.meets_bind, Routine.meets_perform]
      refine ⟨trivial,fun reply _ => ?_⟩
      cases reply <;> trivial

theorem meets_processNext (workerName : String) :
    (processNext workerName).Meets projectContract st [] (fun _ _ _ => True) := by
  simp only [processNext, Routine.meets_bind, Routine.meets_perform]
  refine ⟨rfl,fun reply _ => ?_⟩
  cases reply with
  | error e => trivial
  | ok isIdle =>
    cases isIdle with
    | false => trivial
    | true =>
      apply meets_withTransaction ⟨rfl,rfl,rfl,rfl⟩
      intro hr
      simp only [loadEligible, Routine.meets_bind, Routine.meets_perform]
      refine ⟨⟨rfl,rfl,rfl,hr⟩,fun reply _ => ?_⟩
      cases reply with
      | error e => exact fun v h => by cases h
      | ok rows =>
        have hr1 : Reading (⟨.selectEligible orderStateProjectionName orderStateProjectionEpoch 1,
            .ok rows⟩ :: ⟨.begin,.ok ()⟩ :: ⟨.transactionStatus,.ok true⟩ :: []) :=
          ⟨rfl,rfl,rfl,rfl,rfl⟩
        cases rows with
        | nil => exact fun v _ => .inl hr1
        | cons row rest => exact meets_applyRecord workerName hr1 ⟨rest,List.mem_cons_self ..⟩

/-- Every way a worker can go meets the projection contract. -/
theorem program_meets (workerName : String) :
    (program workerName).Meets projectContract (fun _ _ => True) [] := by
  rw [program, Program.meets_bind]
  exact meets_processNext (σ := Unit) workerName

end PostgresProjectionWorker
end StreamingCompass
