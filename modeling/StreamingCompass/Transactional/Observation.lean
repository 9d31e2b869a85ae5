import StreamingCompass.Interleaving.Simulation
import StreamingCompass.Core.History
import StreamingCompass.Transactional.Primary

/-! # Observation does not interfere

Every variant of an invocation runs in lockstep with its primary program: the checkpoints
it records are canonical whichever way it goes, a measurement adds no operation, and the
unit of work ends as its flag says. What is proved of the primary program holds of all.
-/
namespace StreamingCompass
open Interleaving

/-- The state of an invocation's objects, apart from what its recorder has read. -/
structure WriteState.At (st : WriteState) (placement : ValidationPlacement)
    (checkpoints : List PostgresWriteSideExecutionCheckpoint) (finished : Bool)
    (orderIds : List String) : Prop where
  collector : st.collector = none ∨ st.collector =
    some ⟨placement,if checkpoints = [] then none else some ⟨placement,checkpoints⟩⟩
  finished : st.finished = finished
  preparedOrderIds : orderIds ⊆ st.preparedOrderIds

def Canonical (placement : ValidationPlacement)
    (checkpoints : List PostgresWriteSideExecutionCheckpoint) : Prop :=
  checkpoints = (canonicalCheckpointsFor placement).take checkpoints.length

instance (placement : ValidationPlacement) (checkpoints : List PostgresWriteSideExecutionCheckpoint) :
    Decidable (Canonical placement checkpoints) := inferInstanceAs (Decidable (_ = _))

namespace Observation
variable {α β : Type} {E : WriteState → Prop} {P : α → WriteState → β → Prop} {st : WriteState}
  {n : PrimaryRoutine β} {placement : ValidationPlacement}
  {checkpoints : List PostgresWriteSideExecutionCheckpoint} {finished : Bool} {orderIds : List String}

theorem at_recorder (h : st.At placement checkpoints finished orderIds) (r : Option MeasurementRecorder) :
    ({st with recorder := r} : WriteState).At placement checkpoints finished orderIds :=
  ⟨h.collector,h.finished,h.preparedOrderIds⟩

theorem sim_sql (op : Operation) {P : op.Answer → WriteState → op.Answer → Prop} (he : E st)
    (h : ∀ a, P a st a) : Routine.Sim E P (sql op) st (sql op) := Routine.sim_perform he h

theorem sim_startPhase {phase : PostgresWriteSideMeasurementPhase} {f : Option ℤ → WriteRoutine α}
    (h : ∀ started r, Routine.Sim E P (f started) {st with recorder := r} n) :
    Routine.Sim E P (startPhase phase >>= f) st n := by
  obtain ⟨finished,orderIds,collector,recorder⟩ := st
  cases recorder with
  | none => exact h none none
  | some r => exact h _ _

theorem sim_measured {phase : PostgresWriteSideMeasurementPhase} {operation : WriteRoutine α}
    (h : ∀ r, Routine.Sim E (fun a st b => ∀ r, P a {st with recorder := r} b) operation
      {st with recorder := r} n) : Routine.Sim E P (measured phase operation) st n :=
  sim_startPhase (fun _ r => Routine.sim_then (h r) (fun a _ _ hp => ⟨a,_,rfl,hp _⟩))

theorem recordCheckpoint_eq {p : PostgresWriteSideExecutionCheckpoint}
    (hst : st.At placement checkpoints finished orderIds)
    (hp : Canonical placement (checkpoints ++ [p])) :
    ∃ st', recordCheckpoint p st = .done (.ok (),st') ∧
      st'.At placement (checkpoints ++ [p]) finished orderIds := by
  obtain ⟨done,prepared,collector,recorder⟩ := st
  rcases hst.collector with hc | hc
  · obtain rfl : collector = none := hc
    exact ⟨_,rfl,.inl rfl,hst.finished,hst.preparedOrderIds⟩
  · obtain rfl : collector = _ := hc
    have hpast : (Option.map (fun t => t.checkpoints) (if checkpoints = [] then none
        else some (⟨placement,checkpoints⟩ : PostgresWriteSideExecutionTrace))).getD [] =
        checkpoints := by
      split
      · rename_i hnil
        exact hnil.symm
      · rfl
    have hnodup : (checkpoints ++ [p]).Nodup := by
      rw [hp]
      refine ((canonicalCheckpointsFor placement).take_sublist _).nodup ?_
      cases placement <;> decide
    have hcreate : PostgresWriteSideExecutionTrace.create placement (checkpoints ++ [p]) =
        .ok ⟨placement,checkpoints ++ [p]⟩ := by
      simp only [PostgresWriteSideExecutionTrace.create, hnodup, not_true_eq_false, if_false]
      rw [if_neg (by simp)]
      exact if_neg (not_not.mpr hp)
    have hrecord : TraceCollector.record ⟨placement,if checkpoints = [] then none
        else some ⟨placement,checkpoints⟩⟩ p = .ok ⟨placement,some ⟨placement,checkpoints ++ [p]⟩⟩ := by
      simp only [TraceCollector.record, hpast, hcreate, bind, Except.bind]
    refine ⟨⟨done,prepared,some ⟨placement,some ⟨placement,checkpoints ++ [p]⟩⟩,recorder⟩,?_,
      .inr (by simp),hst.finished,hst.preparedOrderIds⟩
    simp only [recordCheckpoint, bind, Routine.andThen, Routine.get, Program.bind_done,
      Routine.ofExcept, hrecord, Routine.modify]

theorem sim_recordCheckpoint {p : PostgresWriteSideExecutionCheckpoint} {f : Unit → WriteRoutine α}
    (hst : st.At placement checkpoints finished orderIds)
    (hp : Canonical placement (checkpoints ++ [p]))
    (h : ∀ st', st'.At placement (checkpoints ++ [p]) finished orderIds → Routine.Sim E P (f ()) st' n) :
    Routine.Sim E P (recordCheckpoint p >>= f) st n := by
  obtain ⟨st',hrecord,hst'⟩ := recordCheckpoint_eq hst hp
  have hstep : (recordCheckpoint p >>= f) st = f () st' := by
    change (recordCheckpoint p st).bind _ = _
    rw [hrecord]
    rfl
  rw [Routine.Sim, hstep]
  exact h st' hst'

theorem sim_checkpointed (finished : Bool) (P' : α → WriteState → β → Prop) {m : WriteRoutine α}
    {p : PostgresWriteSideExecutionCheckpoint} (hp : Canonical placement (checkpoints ++ [p]))
    (hm : Routine.Sim E P' m st n)
    (hf : ∀ a st b, P' a st b → ∃ orderIds, st.At placement checkpoints finished orderIds ∧
      ∀ st', st'.At placement (checkpoints ++ [p]) finished orderIds → P a st' b) :
    Routine.Sim E P (do
      let a ← m
      recordCheckpoint p
      pure a) st n := by
  refine Routine.sim_then hm (fun a st b hab => ?_)
  obtain ⟨orderIds,hst,himp⟩ := hf a st b hab
  obtain ⟨st',hrecord,hst'⟩ := recordCheckpoint_eq hst hp
  refine ⟨a,st',?_,himp st' hst'⟩
  change (recordCheckpoint p st).bind _ = _
  rw [hrecord]
  rfl

theorem sim_finalizeResult {result : PostgresWriteSideResult}
    (checkpoints : List PostgresWriteSideExecutionCheckpoint) (outcome : PostgresWriteSideOutcome)
    {last : PostgresWriteSideExecutionCheckpoint}
    {P : CommandResult → WriteState → PostgresWriteSideResult → Prop}
    (hst : st.At placement (checkpoints ++ [last]) finished orderIds)
    (houtcome : result.outcome = outcome) (hlast : (placement,outcome,last) ∈ allowedExecutionTerminals)
    (h : ∀ trace, P ⟨result,trace⟩ st result) :
    Routine.Sim E P (finalizeResult result) st (pure result) := by
  obtain ⟨done,prepared,collector,recorder⟩ := st
  rcases hst.collector with hc | hc
  · obtain rfl : collector = none := hc
    exact .done (h none)
  · obtain rfl : collector = _ := hc
    have henvelope : executionEnvelope result ⟨placement,checkpoints ++ [last]⟩ =
        .ok ⟨result,some ⟨placement,checkpoints ++ [last]⟩⟩ := by
      simp only [executionEnvelope, List.getLast?_append, List.getLast?_singleton, Option.some_or,
        houtcome, hlast, if_true]
    have hfinal : finalizeResult result ⟨done,prepared,some ⟨placement,if checkpoints ++ [last] = []
        then none else some ⟨placement,checkpoints ++ [last]⟩⟩,recorder⟩ =
        .done (.ok ⟨result,some ⟨placement,checkpoints ++ [last]⟩⟩,⟨done,prepared,some ⟨placement,
          if checkpoints ++ [last] = [] then none else some ⟨placement,checkpoints ++ [last]⟩⟩,
          recorder⟩) := by
      have hne : checkpoints ++ [last] ≠ [] := by simp
      simp only [finalizeResult, bind, Routine.andThen, Routine.get, Program.bind_done, hne, if_false,
        henvelope, Routine.ofExcept]
    rw [Routine.Sim, hfinal]
    exact .done (h _)

theorem sim_check {s : RequestSignature} {P : IdempotencyDecision → WriteState → IdempotencyDecision → Prop}
    (he : E st) (h : ∀ d, (d.verdict ≠ .miss → ∃ r, d = .replay r ∨ d = .conflict r) → P d st d) :
    Routine.Sim E P (PostgresIdempotencyStore.check s) st (PostgresIdempotencyStore.check s) := by
  refine Routine.sim_bind (P := fun row st' row' => st' = st ∧ row = row')
    (Routine.sim_perform he (fun row => ⟨rfl,rfl⟩)) ?_
  rintro row _ _ ⟨rfl,rfl⟩
  refine Routine.sim_ofExcept he (fun d hd => h d (fun hmiss => ?_))
  rcases PostgresIdempotencyStore.classify_cases hd with ⟨rfl,-⟩ | ⟨r,-,hr⟩
  · exact absurd rfl hmiss
  · exact ⟨_,hr⟩

theorem same_load (orderId : String) :
    Routine.Same (PostgresEventStore.load orderId : WriteRoutine _) st (PostgresEventStore.load orderId) :=
  Routine.same_bind (Routine.same_perform _) (fun _ => Routine.same_ofExcept (.ok _))

theorem same_record (s : RequestSignature) (e : OrderEvent) :
    Routine.Same (PostgresIdempotencyStore.record s e : WriteRoutine _) st
      (PostgresIdempotencyStore.record s e) :=
  Routine.same_bind (Routine.same_ofExcept _) (fun _ => Routine.same_perform _)

theorem same_appendWithTranslation (st : WriteState) (gateName : String) (candidate : OrderEvent)
    (expected : ℤ) :
    Routine.Same (appendWithTranslation gateName candidate expected : WriteRoutine _) st
      (appendWithTranslation gateName candidate expected) := by
  refine Routine.same_bind (Routine.same_attempt (Routine.same_bind (Routine.same_perform _) ?_)) ?_
  · intro version
    split
    · exact Routine.same_ofExcept (.error _)
    · split
      · exact Routine.same_ofExcept (.error _)
      · exact Routine.same_perform _
  · intro r
    cases r with
    | ok _ => exact Routine.same_ofExcept (.ok _)
    | error e => exact Routine.same_ofExcept _

theorem sim_decided {d : IdempotencyDecision} {validation : Option Candidate}
    (checkpoints : List PostgresWriteSideExecutionCheckpoint)
    {last : PostgresWriteSideExecutionCheckpoint}
    {P : CommandResult → WriteState → PostgresWriteSideResult → Prop}
    (hst : st.At placement (checkpoints ++ [last]) finished orderIds)
    (hlast : (placement,.replay,last) ∈ allowedExecutionTerminals ∧
      (placement,.conflict,last) ∈ allowedExecutionTerminals)
    (hd : ∃ r, d = .replay r ∨ d = .conflict r)
    (h : ∀ trace, P ⟨.decided d validation,trace⟩ st (.decided d validation)) :
    Routine.Sim E P (WriteSide.decided d validation) st (pure (.decided d validation)) := by
  obtain ⟨r,rfl | rfl⟩ := hd
  · exact sim_finalizeResult _ .replay hst rfl hlast.1 h
  · exact sim_finalizeResult _ .conflict hst rfl hlast.2 h

theorem sim_validateCandidate {W : WriteSide} {orderId : String} {history : List OrderEvent}
    {P : Candidate → WriteState → Candidate → Prop}
    (hst : st.At placement checkpoints finished orderIds)
    (hp : Canonical placement (checkpoints ++ [.validationReturned]))
    (he : ∀ st', st'.At placement checkpoints finished orderIds → E st')
    (h : ∀ c st', W.candidateOf orderId history = .ok c →
      st'.At placement (checkpoints ++ [.validationReturned]) finished orderIds → P c st' c) :
    Routine.Sim E P (W.validateCandidate orderId history) st
      (Routine.ofExcept (W.candidateOf orderId history)) := by
  simp only [WriteSide.validateCandidate, WriteSide.candidateOf, Routine.ofExcept_bind]
  refine Routine.sim_bind (P := fun a st' a' => rehydrate orderId history = .ok a ∧ a = a' ∧ st' = st)
    (Routine.sim_ofExcept (he _ hst) (fun a ha => ⟨ha,rfl,rfl⟩)) ?_
  rintro a st' _ ⟨ha,rfl,rfl⟩
  refine Routine.sim_bind (P := fun e st'' e' => W.buildCandidateEvent a = .ok e ∧ e = e' ∧ st'' = st')
    (Routine.sim_ofExcept (he _ hst) (fun e hb => ⟨hb,rfl,rfl⟩)) ?_
  rintro e st _ ⟨hb,rfl,rfl⟩
  refine Routine.sim_bind (P := fun v st' v' => W.invokeValidation e
      (buildValidationContext a history.getLast?) = .ok v ∧ v = v' ∧
      st'.At placement checkpoints finished orderIds)
    (sim_measured (fun r => Routine.sim_ofExcept (he _ (at_recorder hst r))
      (fun v hv r' => ⟨hv,rfl,at_recorder hst r'⟩))) ?_
  rintro v st1 _ ⟨hv,rfl,hst1⟩
  refine sim_recordCheckpoint hst1 hp (fun st2 hst2 => Routine.sim_pure (h _ _ ?_ hst2))
  simp only [WriteSide.candidateOf, ha, hb, hv, bind, Except.bind]

theorem sim_prepare {W : WriteSide} {orderId : String}
    {P : StreamAdmissionResult → WriteState → StreamAdmissionResult → Prop}
    (hst : st.At placement checkpoints finished [])
    (hp : Canonical placement (checkpoints ++ [.concurrencyPreparationReturned]))
    (he : ∀ st', st'.At placement checkpoints finished [] → E st')
    (h : ∀ prepared st' orderIds,
      st'.At placement (checkpoints ++ [.concurrencyPreparationReturned]) finished orderIds →
      (prepared.verdict = .admitted → W.gate = .pessimistic → orderId ∈ orderIds) →
      P prepared st' prepared) :
    Routine.Sim E P (W.prepare orderId) st (WriteSide.primaryPrepare W.gate orderId) := by
  have hmarked := at_recorder hst (st.recorder.map (fun r =>
    r.markApplicable .pessimisticAdvisoryTryLockCall (W.gate == .pessimistic)))
  change Routine.Sim E P (do
    let prepared ← measured .concurrencyPreparationCall (prepareStream W.gate orderId)
    recordCheckpoint .concurrencyPreparationReturned
    pure prepared) _ _
  refine sim_checkpointed finished (fun prepared st' prepared' =>
    prepared = prepared' ∧ ∃ orderIds, st'.At placement checkpoints finished orderIds ∧
      (prepared.verdict = .admitted → W.gate = .pessimistic → orderId ∈ orderIds)) hp ?_ ?_
  · refine sim_measured (fun r => ?_)
    have hst1 := at_recorder hmarked r
    cases W.gate with
    | optimistic =>
      exact Routine.sim_pure (fun r' => ⟨rfl,[],at_recorder hst1 r',fun _ hg => by cases hg⟩)
    | pessimistic =>
      refine Routine.sim_bind (P := fun b st' b' => b = b' ∧ st'.At placement checkpoints finished [])
        (sim_sql .autocommit (he _ hst1) (fun b => ⟨rfl,hst1⟩)) ?_
      rintro b st2 _ ⟨rfl,hst2⟩
      cases b with
      | true => exact Routine.sim_pure (fun r' => ⟨rfl,[],at_recorder hst2 r',fun ha => by cases ha⟩)
      | false =>
        refine Routine.sim_bind (P := fun b st' b' => b = b' ∧ st'.At placement checkpoints finished [])
          (sim_measured (fun r' => sim_sql (.tryAdvisoryXactLock "order_events_stream" orderId)
            (he _ (at_recorder hst2 r')) (fun b r'' => ⟨rfl,at_recorder hst2 r''⟩))) ?_
        rintro b st3 _ ⟨rfl,hst3⟩
        cases b with
        | true =>
          exact .done (fun r' => ⟨rfl,[orderId],⟨hst3.collector,hst3.finished,by simp⟩,by simp⟩)
        | false => exact Routine.sim_pure (fun r' => ⟨rfl,[],at_recorder hst3 r',fun ha => by cases ha⟩)
  · rintro prepared st' _ ⟨rfl,orderIds,hst',hin⟩
    exact ⟨orderIds,hst',fun st2 hst2 => h prepared st2 orderIds hst2 hin⟩

theorem sim_appendIfAdmitted {gate : Gate} {candidate : OrderEvent} {expected : ℤ}
    {P : AdmissionResult → WriteState → AdmissionResult → Prop}
    (hin : gate = .pessimistic → candidate.orderId ∈ st.preparedOrderIds) (he : E st)
    (h : ∀ a, P a st a) :
    Routine.Sim E P (appendIfAdmitted gate candidate expected) st
      (appendWithTranslation gate.name candidate expected) := by
  have hsame := (same_appendWithTranslation st gate.name candidate expected).sim he h
  cases gate with
  | optimistic => exact hsame
  | pessimistic =>
    have hstep : appendIfAdmitted .pessimistic candidate expected st =
        appendWithTranslation Gate.pessimistic.name candidate expected st := by
      change (if candidate.orderId ∈ st.preparedOrderIds then _ else _ : WriteRoutine _) st = _
      rw [if_pos (hin rfl)]
    rw [Routine.Sim, hstep]
    exact hsame

theorem sim_uowRollback {P : Unit → WriteState → Unit → Prop}
    (hst : st.At placement checkpoints finished orderIds)
    (he : ∀ st', st'.At placement checkpoints finished orderIds → E st')
    (h : ∀ st', st'.At placement checkpoints true orderIds → P () st' ()) :
    Routine.Sim E P PostgresWriteSideUnitOfWork.rollback st (sql .rollback) := by
  refine sim_measured (fun r => Routine.sim_then
    (P := fun _ st' _ => st'.At placement checkpoints finished orderIds)
    (sim_sql .rollback (he _ (at_recorder hst r)) (fun _ => at_recorder hst r)) ?_)
  intro _ st' _ hst'
  exact ⟨(),_,rfl,fun r' => h _ ⟨hst'.collector,rfl,hst'.preparedOrderIds⟩⟩

theorem sim_uowCommit {P : Unit → WriteState → Unit → Prop}
    (hst : st.At placement checkpoints finished orderIds)
    (he : ∀ st', st'.At placement checkpoints finished orderIds → E st')
    (h : ∀ st', st'.At placement checkpoints true orderIds → P () st' ()) :
    Routine.Sim E P PostgresWriteSideUnitOfWork.commit st (sql .commit) := by
  refine sim_measured (fun r => Routine.sim_then
    (P := fun _ st' _ => st'.At placement checkpoints finished orderIds)
    (sim_sql .commit (he _ (at_recorder hst r)) (fun _ => at_recorder hst r)) ?_)
  intro _ st' _ hst'
  exact ⟨(),_,rfl,fun r' => h _ ⟨hst'.collector,rfl,hst'.preparedOrderIds⟩⟩

/-- The exit ends an open unit of work, and leaves an ended one alone. -/
theorem sim_exit_open {raised : Bool} {f : Unit → WriteRoutine α} (hf : st.finished = false)
    (h : Routine.Sim E P ((if raised then PostgresWriteSideUnitOfWork.rollback
      else PostgresWriteSideUnitOfWork.commit) >>= f) st n) :
    Routine.Sim E P (PostgresWriteSideUnitOfWork.exit raised >>= f) st n := by
  obtain ⟨done,prepared,collector,recorder⟩ := st
  obtain rfl : done = false := hf
  exact h

theorem sim_exit_ended {raised : Bool} {f : Unit → WriteRoutine α} (hf : st.finished = true)
    (h : Routine.Sim E P (f ()) st n) :
    Routine.Sim E P (PostgresWriteSideUnitOfWork.exit raised >>= f) st n := by
  obtain ⟨done,prepared,collector,recorder⟩ := st
  obtain rfl : done = true := hf
  exact h

/-- The unit of work has not been ended. -/
def Unfinished (placement : ValidationPlacement) (st : WriteState) : Prop :=
  ∃ checkpoints orderIds, st.At placement checkpoints false orderIds

/-- A body leaves only an accepted result to be committed. -/
def BodyEnds (placement : ValidationPlacement) (v : CommandResult) (st : WriteState)
    (r : PostgresWriteSideResult) : Prop :=
  v.result = r ∧ ∃ checkpoints orderIds, st.At placement checkpoints (r.outcome != .accepted) orderIds

theorem sim_withUnitOfWork {body : WriteRoutine CommandResult}
    {primaryBody : PrimaryRoutine PostgresWriteSideResult}
    (hst : st.At placement checkpoints finished orderIds)
    (hbody : ∀ st', st'.At placement checkpoints false orderIds →
      Routine.Sim (Unfinished placement) (BodyEnds placement) body st' primaryBody) :
    Routine.Sim (fun _ => True) (fun v _ r => v.result = r) (withUnitOfWork body) st
      (primaryUnitOfWork primaryBody) := by
  have hstart : ({st with finished := false} : WriteState).At placement checkpoints false orderIds :=
    ⟨hst.collector,rfl,hst.preparedOrderIds⟩
  unfold withUnitOfWork
  refine Routine.sim_modify (sim_startPhase (fun started r => ?_))
  have hst1 := at_recorder hstart r
  refine Routine.sim_bind (P := fun b st' b' => b = b' ∧ st'.At placement checkpoints false orderIds)
    (sim_sql .autocommit trivial (fun b => ⟨rfl,hst1⟩)) ?_
  rintro b st2 _ ⟨rfl,hst2⟩
  cases b with
  | true => exact Routine.sim_raise trivial
  | false =>
    refine Routine.sim_bind (Routine.sim_attempt (hbody st2 hst2)) (fun outcome st3 outcome' ha => ?_)
    -- the exit ends what the body left open
    cases outcome with
    | error e =>
      cases outcome' with
      | ok r => exact ha.elim
      | error e' =>
        obtain ⟨⟨checkpoints',orderIds',hst3⟩,rfl⟩ := ha
        refine sim_exit_open hst3.finished (Routine.sim_bind (P := fun _ _ _ => True)
          (sim_uowRollback hst3 (fun _ _ => trivial) (fun _ _ => trivial)) (fun _ _ _ _ => ?_))
        exact .done ⟨trivial,rfl⟩
    | ok v =>
      cases outcome' with
      | error e => exact ha.elim
      | ok r =>
        obtain ⟨rfl,checkpoints',orderIds',hst3⟩ := ha
        by_cases hr : v.result.outcome = .accepted
        · simp only [hr, if_true]
          refine sim_exit_open (by rw [hst3.finished, hr]; rfl) (Routine.sim_bind
            (P := fun _ _ _ => True)
            (sim_uowCommit hst3 (fun _ _ => trivial) (fun _ _ => trivial)) (fun _ _ _ _ => ?_))
          exact .done rfl
        · simp only [hr, if_false]
          refine sim_exit_ended (by rw [hst3.finished]; simpa using hr) ?_
          exact .done rfl

/-- A result after the rollback that ends the unit of work. -/
theorem sim_rolledBack {m : WriteRoutine CommandResult} {result : PostgresWriteSideResult}
    (hst : st.At placement checkpoints false orderIds) (houtcome : result.outcome ≠ .accepted)
    (hm : ∀ st', st'.At placement checkpoints true orderIds →
      (∀ trace, BodyEnds placement ⟨result,trace⟩ st' result) →
      Routine.Sim (Unfinished placement) (BodyEnds placement) m st' (pure result)) :
    Routine.Sim (Unfinished placement) (BodyEnds placement) (do
      PostgresWriteSideUnitOfWork.rollback
      m) st (do
      sql .rollback
      pure result) := by
  refine Routine.sim_bind (P := fun _ st' _ => st'.At placement checkpoints true orderIds)
    (sim_uowRollback hst (fun st' h => ⟨_,_,h⟩) (fun st' h => h)) (fun _ st' _ hst' => hm st' hst' ?_)
  have hended : (result.outcome != .accepted) = true := by simpa using houtcome
  exact fun trace => ⟨rfl,checkpoints,orderIds,hended ▸ hst'⟩

theorem sim_appendAndRecord {W : WriteSide} {s : RequestSignature} {d : IdempotencyDecision}
    {prepared : StreamAdmissionResult} {c : Candidate}
    (hst : st.At placement checkpoints false orderIds)
    (hp1 : Canonical placement (checkpoints ++ [.appendAdmissionReturned]))
    (hp2 : Canonical placement (checkpoints ++ [.appendAdmissionReturned] ++
      [.idempotencyPersistenceReturned]))
    (hin : W.gate = .pessimistic → c.event.orderId ∈ orderIds) :
    Routine.Sim (Unfinished placement) (BodyEnds placement) (W.appendAndRecord s d prepared c) st
      (W.primaryAppend s d prepared c) := by
  refine Routine.sim_bind (P := fun a st' a' => a = a' ∧ st'.At placement checkpoints false orderIds)
    (sim_measured (fun r => sim_appendIfAdmitted (fun hg => hst.preparedOrderIds (hin hg))
      ⟨_,_,at_recorder hst r⟩ (fun a r' => ⟨rfl,at_recorder hst r'⟩))) ?_
  rintro admission st1 _ ⟨rfl,hst1⟩
  refine sim_recordCheckpoint hst1 hp1 (fun st2 hst2 => ?_)
  split
  · refine sim_rolledBack hst2 (by simp) (fun st3 hst3 hends => ?_)
    exact sim_finalizeResult _ .admissionRejected hst3 rfl (by cases placement <;> decide) hends
  · refine Routine.sim_bind (P := fun _ st' _ => st'.At placement
      (checkpoints ++ [.appendAdmissionReturned]) false orderIds)
      (sim_measured (fun r => (same_record s c.event).sim ⟨_,_,at_recorder hst2 r⟩
        (fun _ r' => at_recorder hst2 r'))) (fun _ st3 _ hst3 => ?_)
    refine sim_recordCheckpoint hst3 hp2 (fun st4 hst4 => ?_)
    exact sim_finalizeResult _ .accepted hst4 rfl (by cases placement <;> decide)
      (fun trace => ⟨rfl,_,_,hst4⟩)

theorem sim_authoritativeCheck {s : RequestSignature} {f : IdempotencyDecision → WriteRoutine α}
    {g : IdempotencyDecision → PrimaryRoutine β}
    (hst : st.At placement checkpoints false orderIds)
    (hp1 : Canonical placement (checkpoints ++ [.businessUowReached]))
    (hp2 : Canonical placement (checkpoints ++ [.businessUowReached] ++
      [.authoritativeIdempotencyCheckReturned]))
    (he : ∀ st', Unfinished placement st' → E st')
    (h : ∀ d st', (d.verdict ≠ .miss → ∃ r, d = .replay r ∨ d = .conflict r) →
      st'.At placement (checkpoints ++ [.businessUowReached] ++
        [.authoritativeIdempotencyCheckReturned]) false orderIds → Routine.Sim E P (f d) st' (g d)) :
    Routine.Sim E P (WriteSide.authoritativeCheck s >>= f) st (PostgresIdempotencyStore.check s >>= g) := by
  refine Routine.sim_bind (P := fun d st' d' => d = d' ∧
    (d.verdict ≠ .miss → ∃ r, d = .replay r ∨ d = .conflict r) ∧
    st'.At placement (checkpoints ++ [.businessUowReached] ++
      [.authoritativeIdempotencyCheckReturned]) false orderIds) ?_ ?_
  · refine sim_recordCheckpoint hst hp1 (fun st1 hst1 => ?_)
    refine sim_checkpointed false (fun d st' d' => d = d' ∧
      (d.verdict ≠ .miss → ∃ r, d = .replay r ∨ d = .conflict r) ∧
      st'.At placement (checkpoints ++ [.businessUowReached]) false orderIds) hp2 ?_ ?_
    · exact sim_measured (fun r => sim_check (he _ ⟨_,_,at_recorder hst1 r⟩)
        (fun d hd r' => ⟨rfl,hd,at_recorder hst1 r'⟩))
    · rintro d st2 _ ⟨rfl,hd,hst2⟩
      exact ⟨orderIds,hst2,fun st3 hst3 => ⟨rfl,hd,hst3⟩⟩
  · rintro d st' _ ⟨rfl,hd,hst'⟩
    exact h d st' hd hst'

/-- The candidate builder keeps the order of the aggregate. -/
def KeepsOrder (W : WriteSide) : Prop :=
  ∀ orderId history c, W.candidateOf orderId history = .ok c → c.event.orderId = orderId

theorem sim_executeInTransactionCommand {W : WriteSide} {s : RequestSignature} (hW : KeepsOrder W)
    (hst : st.At .inTransaction [] finished []) :
    Routine.Sim (fun _ => True) (fun v _ r => v.result = r) (W.executeInTransactionCommand s) st
      (W.primaryInTransaction s) := by
  refine sim_withUnitOfWork hst (fun st1 hst1 => ?_)
  refine sim_authoritativeCheck hst1 (by decide) (by decide) (fun _ h => h) (fun d st2 hd hst2 => ?_)
  split
  · rename_i hmiss
    refine sim_rolledBack hst2 PostgresWriteSideResult.decided_outcome_ne (fun st3 hst3 hends => ?_)
    exact sim_decided [.businessUowReached] hst3 (by decide) (hd hmiss) hends
  · refine Routine.sim_bind (P := fun a st' a' => a = a' ∧ ∃ orderIds, st'.At .inTransaction
      [.businessUowReached,.authoritativeIdempotencyCheckReturned,.concurrencyPreparationReturned] false
      orderIds ∧ (a.verdict = .admitted → W.gate = .pessimistic → s.orderId ∈ orderIds))
      (sim_prepare hst2 (by decide) (fun st' h => ⟨_,_,h⟩)
        (fun a st' orderIds hst' hin => ⟨rfl,orderIds,hst',hin⟩)) ?_
    rintro prepared st3 _ ⟨rfl,orderIds,hst3,hin⟩
    split
    · refine sim_rolledBack hst3 (by simp) (fun st4 hst4 hends => ?_)
      exact sim_finalizeResult [.businessUowReached,.authoritativeIdempotencyCheckReturned]
        .admissionRejected hst4 rfl (by decide) hends
    · rename_i hadmitted
      refine Routine.sim_bind (P := fun a st' a' => a = a' ∧ st'.At .inTransaction
        [.businessUowReached,.authoritativeIdempotencyCheckReturned,.concurrencyPreparationReturned] false
        orderIds)
        (sim_measured (fun r => (same_load s.orderId).sim ⟨_,_,at_recorder hst3 r⟩
          (fun a r' => ⟨rfl,at_recorder hst3 r'⟩))) ?_
      rintro history st4 _ ⟨rfl,hst4⟩
      refine sim_recordCheckpoint hst4 (by decide) (fun st5 hst5 => ?_)
      refine Routine.sim_bind (P := fun c st' c' => c = c' ∧ W.candidateOf s.orderId history = .ok c ∧
        st'.At .inTransaction ([.businessUowReached,.authoritativeIdempotencyCheckReturned,
          .concurrencyPreparationReturned] ++ [.acceptedHistoryObserved] ++ [.validationReturned]) false
          orderIds)
        (sim_validateCandidate hst5 (by decide) (fun st' h => ⟨_,_,h⟩)
          (fun c st' hc hst' => ⟨rfl,hc,hst'⟩)) ?_
      rintro c st6 _ ⟨rfl,hc,hst6⟩
      split
      · refine sim_rolledBack hst6 (by simp) (fun st7 hst7 hends => ?_)
        exact sim_finalizeResult _ .validationBlocked hst7 rfl (by decide) hends
      · exact sim_appendAndRecord hst6 (by decide) (by decide) (fun hg => by
          rw [hW _ _ _ hc]
          exact hin (not_not.mp hadmitted) hg)

/-- What the reads before the unit of work hand on. -/
def ReadsAgree (finished : Bool) : CommandResult ⊕ IdempotencyDecision × List OrderEvent →
    WriteState → PostgresWriteSideResult ⊕ IdempotencyDecision × List OrderEvent → Prop
  | .inl v, _, .inl r => v.result = r
  | .inr a, st, .inr b => a = b ∧ st.At .preTransaction
    [.preliminaryIdempotencyCheckReturned,.acceptedHistoryObserved] finished []
  | _, _, _ => False

theorem readsAgree_recorder {a : CommandResult ⊕ IdempotencyDecision × List OrderEvent}
    {b : PostgresWriteSideResult ⊕ IdempotencyDecision × List OrderEvent}
    (h : ReadsAgree finished a st b) (r : Option MeasurementRecorder) :
    ReadsAgree finished a {st with recorder := r} b := by
  rcases a with v | a <;> rcases b with r' | b
  · exact h
  · exact h
  · exact h
  · exact ⟨h.1,at_recorder h.2 r⟩

theorem sim_preliminaryReads {s : RequestSignature} (hst : st.At .preTransaction [] finished []) :
    Routine.Sim (fun _ => True) (ReadsAgree finished) (WriteSide.preliminaryReads s) st
      (WriteSide.primaryReads s) := by
  refine Routine.sim_tryFinally (E := fun _ => True) (P := ReadsAgree finished) ?_ ?_
  · refine Routine.sim_bind (P := fun d st' d' => d = d' ∧
      (d.verdict ≠ .miss → ∃ r, d = .replay r ∨ d = .conflict r) ∧
      st'.At .preTransaction [] finished [])
      (sim_measured (fun r => sim_check trivial (fun d hd r' => ⟨rfl,hd,at_recorder hst r'⟩))) ?_
    rintro d st1 _ ⟨rfl,hd,hst1⟩
    refine sim_recordCheckpoint hst1 (by decide) (fun st2 hst2 => ?_)
    split
    · rename_i hmiss
      have hdecided : Routine.Sim (fun _ => True) (fun v _ r => v.result = r)
          (WriteSide.decided d none) st2 (pure (.decided d none)) :=
        sim_decided [] hst2 (by decide) (hd hmiss) (fun _ => rfl)
      exact Routine.sim_bind hdecided (fun v _ r hv => Routine.sim_pure (b := Sum.inl r) hv)
    · refine Routine.sim_bind (P := fun a st' a' => a = a' ∧ st'.At .preTransaction
        [.preliminaryIdempotencyCheckReturned] finished [])
        (sim_measured (fun r => (same_load s.orderId).sim trivial
          (fun a r' => ⟨rfl,at_recorder hst2 r'⟩))) ?_
      rintro history st3 _ ⟨rfl,hst3⟩
      exact sim_recordCheckpoint hst3 (by decide) (fun st4 hst4 => Routine.sim_pure ⟨rfl,hst4⟩)
  · intro r st1 r' ha
    refine sim_measured (fun q => sim_sql .rollback trivial (fun _ q' => ?_))
    rcases r with e | a <;> rcases r' with e' | b
    · exact ha
    · exact ha
    · exact ha
    · exact readsAgree_recorder ha q'

theorem sim_admitCandidate {W : WriteSide} {s : RequestSignature} {c : Candidate}
    (hc : c.event.orderId = s.orderId)
    (hst : st.At .preTransaction
      [.preliminaryIdempotencyCheckReturned,.acceptedHistoryObserved,.validationReturned] finished []) :
    Routine.Sim (fun _ => True) (fun v _ r => v.result = r) (W.admitCandidate s c) st
      (W.primaryAdmission s c) := by
  refine sim_withUnitOfWork hst (fun st1 hst1 => ?_)
  refine sim_authoritativeCheck hst1 (by decide) (by decide) (fun _ h => h) (fun d st2 hd hst2 => ?_)
  split
  · rename_i hmiss
    refine sim_rolledBack hst2 PostgresWriteSideResult.decided_outcome_ne (fun st3 hst3 hends => ?_)
    exact sim_decided [.preliminaryIdempotencyCheckReturned,.acceptedHistoryObserved,
      .validationReturned,.businessUowReached] hst3 (by decide) (hd hmiss) hends
  · refine Routine.sim_bind (P := fun a st' a' => a = a' ∧ ∃ orderIds, st'.At .preTransaction
      [.preliminaryIdempotencyCheckReturned,.acceptedHistoryObserved,.validationReturned,
        .businessUowReached,.authoritativeIdempotencyCheckReturned,.concurrencyPreparationReturned] false
      orderIds ∧ (a.verdict = .admitted → W.gate = .pessimistic → s.orderId ∈ orderIds))
      (sim_prepare hst2 (by decide) (fun st' h => ⟨_,_,h⟩)
        (fun a st' orderIds hst' hin => ⟨rfl,orderIds,hst',hin⟩)) ?_
    rintro prepared st3 _ ⟨rfl,orderIds,hst3,hin⟩
    split
    · refine sim_rolledBack hst3 (by simp) (fun st4 hst4 hends => ?_)
      exact sim_finalizeResult [.preliminaryIdempotencyCheckReturned,
        .acceptedHistoryObserved,.validationReturned,.businessUowReached,
        .authoritativeIdempotencyCheckReturned] .admissionRejected hst4 rfl (by decide) hends
    · rename_i hadmitted
      exact sim_appendAndRecord hst3 (by decide) (by decide) (fun hg => by
        rw [hc]
        exact hin (not_not.mp hadmitted) hg)

theorem sim_executePreTransactionCommand {W : WriteSide} {s : RequestSignature} (hW : KeepsOrder W)
    (hst : st.At .preTransaction [] finished []) :
    Routine.Sim (fun _ => True) (fun v _ r => v.result = r) (W.executePreTransactionCommand s) st
      (W.primaryPreTransaction s) := by
  refine Routine.sim_bind (sim_preliminaryReads hst) (fun a st1 b hab => ?_)
  rcases a with v | ⟨preliminary,history⟩
  · rcases b with r | _
    · exact Routine.sim_pure hab
    · exact hab.elim
  · rcases b with _ | b
    · exact hab.elim
    · obtain ⟨rfl,hst1⟩ := hab
      refine Routine.sim_bind (P := fun c st' c' => c = c' ∧ W.candidateOf s.orderId history = .ok c ∧
        st'.At .preTransaction
          [.preliminaryIdempotencyCheckReturned,.acceptedHistoryObserved,.validationReturned] finished [])
        (sim_validateCandidate hst1 (by decide) (fun _ _ => trivial)
          (fun c st' hc hst' => ⟨rfl,hc,hst'⟩)) ?_
      rintro c st2 _ ⟨rfl,hc,hst2⟩
      split
      · exact sim_finalizeResult [.preliminaryIdempotencyCheckReturned,.acceptedHistoryObserved]
          .validationBlocked hst2 rfl (by decide) (fun _ => rfl)
      · exact sim_admitCandidate (hW _ _ _ hc) hst2

theorem sim_executeCommand {W : WriteSide} {s : RequestSignature} (hW : KeepsOrder W)
    (hst : st.At W.placement [] finished []) :
    Routine.Sim (fun _ => True) (fun v _ r => v.result = r) (W.executeCommand s) st (W.primary s) := by
  unfold WriteSide.executeCommand WriteSide.primary
  cases hp : W.placement with
  | inTransaction => exact sim_executeInTransactionCommand hW (hp ▸ hst)
  | preTransaction => exact sim_executePreTransactionCommand hW (hp ▸ hst)

end Observation

namespace WriteInvocation

theorem keepsOrder (v : WriteInvocation) : Observation.KeepsOrder v.writeSide := by
  intro orderId history c hc
  obtain ⟨a,ha,hb,-⟩ := WriteSide.candidateOf_eq_ok hc
  exact (handledEvent hb).orderId.trans (rehydrate_orderId ha)

/-- Every variant of an invocation issues the operations of the primary program and
returns its result or raises its exception. -/
theorem program_primary (v : WriteInvocation) :
    Program.Sim (fun r r' => r.map (fun d => d.producerValue.result) = r') v.program v.primary := by
  have hstart : v.initialState.At v.writeSide.placement [] false [] := by
    refine ⟨?_,rfl,List.nil_subset _⟩
    cases ht : v.traced with
    | false => exact .inl (by simp [initialState, ht])
    | true => exact .inr (by simp [initialState, ht, writeSide])
  have hroutine : Routine.Sim (fun _ => True) (fun d _ r => d.producerValue.result = r) v.routine
      v.initialState (v.writeSide.primary v.signature) := by
    refine Observation.sim_startPhase (fun started r => Routine.sim_then
      (Observation.sim_executeCommand v.keepsOrder (Observation.at_recorder hstart r)) ?_)
    intro value st r' hv
    obtain ⟨finished,orderIds,collector,recorder⟩ := st
    cases recorder with
    | none => exact ⟨_,_,rfl,hv⟩
    | some r => exact ⟨_,_,rfl,hv⟩
  refine hroutine.bind (fun x y ha => .done ?_)
  rcases x with ⟨e | d,st⟩ <;> rcases y with ⟨e' | r,_⟩
  · exact congrArg Except.error ha.2
  · exact ha.elim
  · exact ha.elim
  · exact congrArg Except.ok ha

end WriteInvocation
end StreamingCompass
