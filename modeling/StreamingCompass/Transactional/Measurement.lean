import StreamingCompass.Interleaving.Returns
import StreamingCompass.Storage.Serial
import StreamingCompass.Transactional.Observation

/-! # Measurements

Which phases an invocation has reached when it returns, whichever way it went and whatever
its clock read: always a combination the measurement admits. So a measurement is missing
only when the whole call could not be timed.
-/
namespace StreamingCompass
open Interleaving

abbrev MeasurementPhase : Type := PostgresWriteSideMeasurementPhase

/-! ## The recorder -/

/-- The readings of a recorder that has reached some phases. -/
structure MeasurementRecorder.Observed (r : MeasurementRecorder) (phases : List MeasurementPhase) :
    Prop where
  reached : ∀ phase, (r.readings phase).reached = true ↔ phase ∈ phases
  applicable : ∀ phase, (r.readings phase).reached = true → (r.readings phase).applicable = true
  elapsed : ∀ phase ns, (r.readings phase).elapsedNs = some ns → 0 ≤ ns

/-- A recorder before the whole call is timed. -/
structure MeasurementRecorder.Reached (r : MeasurementRecorder) (clock : ℕ → Option ℤ)
    (phases : List MeasurementPhase) : Prop extends r.Observed phases where
  clock : r.clock = clock
  whole : (r.readings .producerWriteInvocation).elapsedNs = none

namespace MeasurementRecorder
variable {r : MeasurementRecorder} {clock : ℕ → Option ℤ} {phases : List MeasurementPhase}
  {phase : MeasurementPhase}

theorem Reached.new (placement : ValidationPlacement) (clock : ℕ → Option ℤ) :
    (MeasurementRecorder.new placement clock).Reached clock [] :=
  ⟨⟨by simp [MeasurementRecorder.new],by simp [MeasurementRecorder.new],
    by simp [MeasurementRecorder.new]⟩,rfl,rfl⟩

theorem Reached.start (h : r.Reached clock phases) (phase : MeasurementPhase) :
    (r.start phase).2.Reached clock (phase :: phases) := by
  have hat (p : MeasurementPhase) : (r.start phase).2.readings p =
      if p = phase then ⟨true,true,none⟩ else r.readings p := by
    simp only [MeasurementRecorder.start, readClock, set, Function.update_apply]
  refine ⟨⟨fun p => ?_,fun p => ?_,fun p ns => ?_⟩,h.clock,?_⟩
  · rw [hat, List.mem_cons, ← h.reached]
    split <;> simp_all
  · rw [hat]
    split
    · exact fun _ => rfl
    · exact h.applicable p
  · rw [hat]
    split
    · exact fun hn => nomatch hn
    · exact h.elapsed p ns
  · rw [hat]
    split
    · rfl
    · exact h.whole

/-- Finishing a phase adds a reading that is not negative, or nothing. -/
theorem finish_readings (phase : MeasurementPhase) (started : Option ℤ) :
    (∃ ns, 0 ≤ ns ∧ (r.finish phase started).readings =
      Function.update r.readings phase {r.readings phase with elapsedNs := some ns}) ∨
    (r.finish phase started).readings = r.readings := by
  cases started with
  | none => exact .inr rfl
  | some started =>
    simp only [finish, readClock]
    split
    · rename_i heq
      obtain ⟨-,rfl⟩ := Prod.mk.inj heq
      exact .inr rfl
    · rename_i stopped r' heq
      obtain ⟨-,rfl⟩ := Prod.mk.inj heq
      split
      · exact .inr rfl
      · exact .inl ⟨stopped-started,by omega,rfl⟩

theorem finish_clock (phase : MeasurementPhase) (started : Option ℤ) :
    (r.finish phase started).clock = r.clock := by
  cases started with
  | none => rfl
  | some started =>
    simp only [finish, readClock]
    split
    · rename_i heq
      obtain ⟨-,rfl⟩ := Prod.mk.inj heq
      rfl
    · rename_i stopped r' heq
      obtain ⟨-,rfl⟩ := Prod.mk.inj heq
      split <;> rfl

theorem Observed.finish (h : r.Observed phases) (phase : MeasurementPhase) (started : Option ℤ) :
    (r.finish phase started).Observed phases := by
  rcases finish_readings (r := r) phase started with ⟨ns,hns,hr⟩ | hr
  · refine ⟨fun p => ?_,fun p => ?_,fun p ns' => ?_⟩
    · rw [hr, ← h.reached, Function.update_apply]
      split <;> simp_all
    · rw [hr, Function.update_apply]
      split
      · rename_i heq
        exact heq ▸ h.applicable p
      · exact h.applicable p
    · rw [hr, Function.update_apply]
      split
      · rintro hn
        obtain rfl := Option.some.inj hn
        exact hns
      · exact h.elapsed p ns'
  · refine ⟨?_,?_,?_⟩ <;> rw [hr]
    · exact h.reached
    · exact h.applicable
    · exact h.elapsed

theorem Reached.finish (h : r.Reached clock phases) (hphase : phase ≠ .producerWriteInvocation)
    (started : Option ℤ) : (r.finish phase started).Reached clock phases := by
  refine ⟨h.toObserved.finish phase started,(finish_clock phase started).trans h.clock,?_⟩
  rcases finish_readings (r := r) phase started with ⟨ns,-,hr⟩ | hr
  · rw [hr, Function.update_of_ne hphase.symm]
    exact h.whole
  · rw [hr]
    exact h.whole

theorem Reached.markApplicable (h : r.Reached clock phases) (phase : MeasurementPhase)
    (applicable : Bool) : (r.markApplicable phase applicable).Reached clock phases := by
  unfold MeasurementRecorder.markApplicable
  split
  · exact h
  · rename_i hnot
    have hat (p : MeasurementPhase) :
        (r.set phase {r.readings phase with applicable := applicable}).readings p =
        if p = phase then {r.readings phase with applicable := applicable} else r.readings p := by
      simp only [set, Function.update_apply]
    refine ⟨⟨fun p => ?_,fun p => ?_,fun p ns => ?_⟩,h.clock,?_⟩
    · rw [hat, ← h.reached]
      split <;> simp_all
    · rw [hat]
      split
      · exact fun hr => absurd hr hnot
      · exact h.applicable p
    · rw [hat]
      split
      · exact h.elapsed phase ns
      · exact h.elapsed p ns
    · rw [hat]
      split
      · rename_i heq
        exact heq ▸ h.whole
      · exact h.whole

end MeasurementRecorder

/-! ## The phases of each exit -/

/-- The constructor's rules on which phases were reached. -/
def consistentPhases (phases : List MeasurementPhase) : Bool :=
  let reached := fun phase => decide (phase ∈ phases)
  reached .producerWriteInvocation &&
  reached .preliminaryIdempotencyCheck == reached .preliminaryReadCleanup &&
  PostgresWriteSideMeasurement.parents.all (fun p => !reached p.1 || reached p.2) &&
  (if reached .businessUow then
    reached .commitFinalization != reached .rollbackFinalization
  else !reached .commitFinalization && !reached .rollbackFinalization)

/-- Readings of an admitted combination form a measurement exactly when the whole call was
timed. -/
theorem MeasurementRecorder.Observed.valid_iff {r : MeasurementRecorder} {phases : List MeasurementPhase}
    (h : r.Observed phases) (hp : consistentPhases phases = true) :
    PostgresWriteSideMeasurement.valid r.phaseMeasurement = true ↔
      (r.readings .producerWriteInvocation).elapsedNs.isSome = true := by
  have hreached (phase : MeasurementPhase) :
      (r.phaseMeasurement phase).wasReached = decide (phase ∈ phases) := by
    simp only [MeasurementRecorder.phaseMeasurement]
    by_cases hm : phase ∈ phases
    · have hr := (h.reached phase).mpr hm
      simp only [h.applicable phase hr, hr, hm, Bool.not_true, Bool.false_eq_true, if_false, decide_true]
      split <;> rfl
    · have hr : (r.readings phase).reached = false := by simpa [hm] using h.reached phase
      simp only [hr, hm, decide_false]
      split <;> rfl
  have hvalid (phase : MeasurementPhase) : (r.phaseMeasurement phase).valid = true := by
    simp only [MeasurementRecorder.phaseMeasurement]
    repeat' split
    all_goals try rfl
    exact decide_eq_true (h.elapsed phase _ ‹_›)
  simp only [consistentPhases, Bool.and_eq_true] at hp
  obtain ⟨⟨⟨hwhole,hsame⟩,hparents⟩,hfinal⟩ := hp
  have hr := (h.reached .producerWriteInvocation).mpr (of_decide_eq_true hwhole)
  simp only [PostgresWriteSideMeasurement.valid, hreached, hsame, hparents, hfinal,
    List.all_eq_true.mpr (fun phase _ => hvalid phase), Bool.and_true, Bool.true_and]
  cases he : (r.readings .producerWriteInvocation).elapsedNs with
  | none => simp [MeasurementRecorder.phaseMeasurement, h.applicable _ hr, hr, he]
  | some ns => simp [MeasurementRecorder.phaseMeasurement, h.applicable _ hr, hr, he]

/-- The state of an invocation's objects, apart from its trace and its prepared orders. -/
structure WriteState.Reached (st : WriteState) (clock : ℕ → Option ℤ) (phases : List MeasurementPhase)
    (finished : Bool) : Prop where
  finished : st.finished = finished
  recorder : ∃ r, st.recorder = some r ∧ r.Reached clock phases

/-- A return whose phases are an admitted combination. -/
def Measurable (clock : ℕ → Option ℤ) (st : WriteState) : Prop :=
  ∃ phases finished, st.Reached clock phases finished ∧ consistentPhases phases = true

/-- The end of a unit of work's body: rolled back, or still to be committed. -/
def Finalizable (clock : ℕ → Option ℤ) (st : WriteState) : Prop :=
  ∃ phases, st.Reached clock phases true ∧ consistentPhases phases = true ∨
    st.Reached clock phases false ∧ consistentPhases (.commitFinalization :: phases) = true

namespace Measurement
variable {α : Type} {clock : ℕ → Option ℤ} {phases : List MeasurementPhase} {finished : Bool}
  {phase : MeasurementPhase} {st : WriteState} {Q : α → WriteState → Prop}

theorem returns_startPhase {Q : Option ℤ → WriteState → Prop} (hst : st.Reached clock phases finished)
    (h : ∀ started st', st'.Reached clock (phase :: phases) finished → Q started st') :
    (startPhase phase).Returns st Q := by
  obtain ⟨done,prepared,collector,recorder⟩ := st
  obtain ⟨hf,r,rfl,hr⟩ := hst
  rw [startPhase, Routine.returns_bind, Routine.returns_get]
  simp only [Routine.returns_bind, Routine.returns_modify, Routine.returns_pure]
  exact h _ _ ⟨hf,_,rfl,hr.start phase⟩

theorem returns_finishPhase {Q : Unit → WriteState → Prop} {started : Option ℤ}
    (hphase : phase ≠ .producerWriteInvocation) (hst : st.Reached clock phases finished)
    (h : ∀ st', st'.Reached clock phases finished → Q () st') : (finishPhase phase started).Returns st Q := by
  obtain ⟨hf,r,hr,hreached⟩ := hst
  rw [finishPhase, Routine.returns_modify]
  exact h _ ⟨hf,_,by simp [hr],hreached.finish hphase started⟩

/-- A measured call reaches its phase, whatever the clock reads. -/
theorem returns_measured {operation : WriteRoutine α} (hphase : phase ≠ .producerWriteInvocation)
    (hst : st.Reached clock phases finished)
    (h : ∀ st', st'.Reached clock (phase :: phases) finished → operation.Returns st' (fun a st'' =>
      ∃ phases' finished', st''.Reached clock phases' finished' ∧
        ∀ st₃, st₃.Reached clock phases' finished' → Q a st₃)) : (measured phase operation).Returns st Q := by
  rw [measured, Routine.returns_bind]
  refine returns_startPhase hst (fun started st' hst' => ?_)
  rw [Routine.returns_bind]
  refine (h st' hst').mono (fun a st'' hpost => ?_)
  obtain ⟨phases',finished',hst'',hq⟩ := hpost
  rw [Routine.returns_bind]
  exact returns_finishPhase hphase hst'' (fun st₃ hst₃ => (Routine.returns_pure a).mpr (hq st₃ hst₃))

theorem returns_measured_same {operation : WriteRoutine α} {n : PrimaryRoutine α}
    (hphase : phase ≠ .producerWriteInvocation) (hst : st.Reached clock phases finished)
    (hsame : ∀ st, Routine.Same operation st n)
    (h : ∀ a st', st'.Reached clock (phase :: phases) finished → Q a st') :
    (measured phase operation).Returns st Q :=
  returns_measured hphase hst (fun st' hst' => (hsame st').returns
    (fun a => ⟨_,_,hst',h a⟩))

theorem returns_recordCheckpoint {p : PostgresWriteSideExecutionCheckpoint} {Q : Unit → WriteState → Prop}
    (hst : st.Reached clock phases finished) (h : ∀ st', st'.Reached clock phases finished → Q () st') :
    (recordCheckpoint p).Returns st Q := by
  obtain ⟨done,prepared,collector,recorder⟩ := st
  rw [recordCheckpoint, Routine.returns_bind, Routine.returns_get]
  cases collector with
  | none => exact (Routine.returns_pure _).mpr (h _ hst)
  | some c =>
    simp only [Routine.returns_bind, Routine.returns_ofExcept, Routine.returns_modify]
    exact fun c' _ => h _ ⟨hst.finished,hst.recorder⟩

theorem returns_finalizeResult {result : PostgresWriteSideResult} {Q : CommandResult → WriteState → Prop}
    (h : ∀ v, Q v st) : (finalizeResult result).Returns st Q := by
  rw [finalizeResult, Routine.returns_bind, Routine.returns_get]
  split
  · exact (Routine.returns_pure _).mpr (h _)
  · split
    · exact Routine.returns_raise _
    · exact (Routine.returns_ofExcept _).mpr (fun v _ => h v)

theorem returns_decided {d : IdempotencyDecision} {validation : Option Candidate}
    {Q : CommandResult → WriteState → Prop} (h : ∀ v, Q v st) :
    (WriteSide.decided d validation).Returns st Q := by
  unfold WriteSide.decided
  simp only
  split
  · rw [Routine.returns_bind, Routine.returns_ofExcept]
    exact fun _ _ => returns_finalizeResult h
  · exact returns_finalizeResult h

theorem returns_uowRollback {Q : Unit → WriteState → Prop} (hst : st.Reached clock phases finished)
    (h : ∀ st', st'.Reached clock (.rollbackFinalization :: phases) true → Q () st') :
    PostgresWriteSideUnitOfWork.rollback.Returns st Q := by
  refine returns_measured (by decide) hst (fun st' hst' => ?_)
  simp only [Routine.returns_bind, Routine.returns_perform, Routine.returns_modify]
  exact fun _ => ⟨_,true,⟨rfl,hst'.recorder⟩,h⟩

theorem returns_uowCommit {Q : Unit → WriteState → Prop} (hst : st.Reached clock phases finished)
    (h : ∀ st', st'.Reached clock (.commitFinalization :: phases) true → Q () st') :
    PostgresWriteSideUnitOfWork.commit.Returns st Q := by
  refine returns_measured (by decide) hst (fun st' hst' => ?_)
  simp only [Routine.returns_bind, Routine.returns_perform, Routine.returns_modify]
  exact fun _ => ⟨_,true,⟨rfl,hst'.recorder⟩,h⟩

theorem returns_withUnitOfWork {body : WriteRoutine α} (hst : st.Reached clock phases finished)
    (hbody : ∀ st', st'.Reached clock (.businessUow :: phases) false →
      body.Returns st' (fun _ st'' => Finalizable clock st'')) :
    (withUnitOfWork body).Returns st (fun _ st' => Measurable clock st') := by
  rw [withUnitOfWork, Routine.returns_bind, Routine.returns_modify, Routine.returns_bind]
  have hst0 : ({st with finished := false} : WriteState).Reached clock phases false := ⟨rfl,hst.recorder⟩
  refine returns_startPhase hst0 (fun started st1 hst1 => ?_)
  rw [Routine.returns_bind, Routine.returns_perform]
  intro autocommit
  cases autocommit with
  | true => exact Routine.returns_raise _
  | false =>
    simp only [Bool.false_eq_true, if_false]
    have hend (a : α) {st' : WriteState} {phases : List MeasurementPhase} {finished : Bool}
        (hst' : st'.Reached clock phases finished) (hp : consistentPhases phases = true) :
        ((finishPhase .businessUow started >>= fun _ => Routine.ofExcept (Except.ok a)) :
          WriteRoutine α).Returns st' (fun _ st' => Measurable clock st') := by
      rw [Routine.returns_bind]
      exact returns_finishPhase (by decide) hst' (fun st₃ hst₃ =>
        (Routine.returns_ofExcept _).mpr (fun _ _ => ⟨_,_,hst₃,hp⟩))
    refine Routine.returns_attempt_bind ((hbody st1 hst1).mono (fun a st2 hpost => ?_)) (fun e st2 => ?_)
    · simp only [Routine.returns_bind]
      rw [PostgresWriteSideUnitOfWork.exit, Routine.returns_bind, Routine.returns_get]
      obtain ⟨phases2,⟨hst2,hp⟩ | ⟨hst2,hp⟩⟩ := hpost
      · simp only [hst2.finished, if_true, Routine.returns_pure]
        have := hend a hst2 hp
        rwa [Routine.returns_bind] at this
      · simp only [hst2.finished, Bool.false_eq_true, if_false]
        refine returns_uowCommit hst2 (fun st3 hst3 => ?_)
        have := hend a hst3 hp
        rwa [Routine.returns_bind] at this
    · simp only [Routine.returns_bind]
      intro _ st3 _ _ st4 _ a st5 h5
      cases (Prod.mk.inj ((Program.ends_done _ _).mp h5)).1

/-! ## The stages -/

theorem same_check (s : RequestSignature) (st : WriteState) :
    Routine.Same (PostgresIdempotencyStore.check s : WriteRoutine _) st
      (PostgresIdempotencyStore.check s) :=
  Routine.same_bind (Routine.same_perform _) (fun _ => Routine.same_ofExcept _)

theorem returns_authoritativeCheck {s : RequestSignature} {Q : IdempotencyDecision → WriteState → Prop}
    (hst : st.Reached clock phases finished)
    (h : ∀ d st', st'.Reached clock (.authoritativeIdempotencyCheck :: phases) finished → Q d st') :
    (WriteSide.authoritativeCheck s).Returns st Q := by
  rw [WriteSide.authoritativeCheck, Routine.returns_bind]
  refine returns_recordCheckpoint hst (fun st1 hst1 => ?_)
  rw [Routine.returns_bind]
  refine returns_measured_same (by decide) hst1 (same_check s) (fun d st2 hst2 => ?_)
  rw [Routine.returns_bind]
  exact returns_recordCheckpoint hst2 (fun st3 hst3 => (Routine.returns_pure d).mpr (h d st3 hst3))

theorem returns_load (orderId : String) (Q : List OrderEvent → WriteState → Prop)
    (hst : st.Reached clock phases finished)
    (h : ∀ history st', st'.Reached clock (.acceptedHistoryLoad :: phases) finished → Q history st') :
    (do
      let history ← measured .acceptedHistoryLoad (PostgresEventStore.load orderId)
      recordCheckpoint .acceptedHistoryObserved
      pure history : WriteRoutine (List OrderEvent)).Returns st Q := by
  rw [Routine.returns_bind]
  refine returns_measured_same (by decide) hst (fun _ => Observation.same_load orderId)
    (fun history st1 hst1 => ?_)
  rw [Routine.returns_bind]
  exact returns_recordCheckpoint hst1 (fun st2 hst2 => (Routine.returns_pure _).mpr (h history st2 hst2))

theorem returns_validateCandidate {W : WriteSide} {orderId : String} {history : List OrderEvent}
    {Q : Candidate → WriteState → Prop} (hst : st.Reached clock phases finished)
    (h : ∀ c st', st'.Reached clock (.validationRuntimeCall :: phases) finished → Q c st') :
    (W.validateCandidate orderId history).Returns st Q := by
  simp only [WriteSide.validateCandidate, Routine.returns_bind, Routine.returns_ofExcept]
  intro aggregate _ candidate _
  refine returns_measured_same (by decide) hst (fun _ => Routine.same_ofExcept _)
    (fun validation st1 hst1 => ?_)
  exact returns_recordCheckpoint hst1 (fun st2 hst2 => (Routine.returns_pure _).mpr (h _ st2 hst2))

/-- The stream is prepared with or without asking for its lock. -/
theorem returns_prepare {W : WriteSide} {orderId : String} {Q : StreamAdmissionResult → WriteState → Prop}
    (hst : st.Reached clock phases finished)
    (h : ∀ prepared st', (∃ phases', (phases' = .concurrencyPreparationCall :: phases ∨
        phases' = .pessimisticAdvisoryTryLockCall :: .concurrencyPreparationCall :: phases) ∧
      st'.Reached clock phases' finished) → Q prepared st') : (W.prepare orderId).Returns st Q := by
  obtain ⟨hf,r,hr,hreached⟩ := hst
  simp only [WriteSide.prepare, Routine.returns_bind, Routine.returns_modify, Routine.returns_pure]
  have hst0 : ({st with recorder := st.recorder.map (fun r =>
      r.markApplicable .pessimisticAdvisoryTryLockCall (W.gate == .pessimistic))} :
      WriteState).Reached clock phases finished :=
    ⟨hf,_,by rw [hr, Option.map_some],hreached.markApplicable _ _⟩
  refine returns_measured (by decide) hst0 (fun st1 hst1 => ?_)
  have hend (phases' : List MeasurementPhase) (hp : phases' = .concurrencyPreparationCall :: phases ∨
      phases' = .pessimisticAdvisoryTryLockCall :: .concurrencyPreparationCall :: phases)
      (prepared : StreamAdmissionResult) (st' : WriteState) (hst' : st'.Reached clock phases' finished) :
      (recordCheckpoint .concurrencyPreparationReturned).Returns st' (fun _ st₃ => Q prepared st₃) :=
    returns_recordCheckpoint hst' (fun st₃ hst₃ => h _ _ ⟨phases',hp,hst₃⟩)
  cases W.gate with
  | optimistic => exact (Routine.returns_pure _).mpr ⟨_,_,hst1,hend _ (.inl rfl) _⟩
  | pessimistic =>
    rw [prepareStream, Routine.returns_bind, Routine.returns_perform]
    intro autocommit
    cases autocommit with
    | true => exact (Routine.returns_pure _).mpr ⟨_,_,hst1,hend _ (.inl rfl) _⟩
    | false =>
      simp only [Bool.false_eq_true, if_false, Routine.returns_bind]
      refine returns_measured_same (by decide) hst1 (fun _ => Routine.same_perform _)
        (fun locked st2 hst2 => ?_)
      cases locked with
      | true =>
        simp only [if_true, Routine.returns_bind, Routine.returns_modify, Routine.returns_pure]
        exact ⟨_,_,⟨hst2.finished,hst2.recorder⟩,hend _ (.inr rfl) _⟩
      | false => exact (Routine.returns_pure _).mpr ⟨_,_,hst2,hend _ (.inr rfl) _⟩

theorem returns_appendIfAdmitted {gate : Gate} {candidate : OrderEvent} {expected : ℤ}
    {Q : AdmissionResult → WriteState → Prop} (h : ∀ a, Q a st) :
    (appendIfAdmitted gate candidate expected).Returns st Q := by
  have happend := (Observation.same_appendWithTranslation st gate.name candidate expected).returns h
  cases gate with
  | optimistic => exact happend
  | pessimistic =>
    rw [appendIfAdmitted, Routine.returns_bind, Routine.returns_get]
    split
    · exact happend
    · exact (Routine.returns_pure _).mpr (h _)

theorem returns_appendAndRecord {W : WriteSide} {s : RequestSignature} {d : IdempotencyDecision}
    {prepared : StreamAdmissionResult} {c : Candidate} (hst : st.Reached clock phases false)
    (hrejected : consistentPhases (.rollbackFinalization :: .appendAdmissionCall :: phases) = true)
    (haccepted : consistentPhases (.commitFinalization :: .idempotencyRecordCall ::
      .appendAdmissionCall :: phases) = true) :
    (W.appendAndRecord s d prepared c).Returns st (fun _ st' => Finalizable clock st') := by
  rw [WriteSide.appendAndRecord, Routine.returns_bind]
  refine returns_measured (by decide) hst (fun st1 hst1 => returns_appendIfAdmitted (fun admission => ?_))
  refine ⟨_,_,hst1,fun st2 hst2 => ?_⟩
  rw [Routine.returns_bind]
  refine returns_recordCheckpoint hst2 (fun st3 hst3 => ?_)
  split
  · rw [Routine.returns_bind]
    exact returns_uowRollback hst3 (fun st4 hst4 =>
      returns_finalizeResult (fun _ => ⟨_,.inl ⟨hst4,hrejected⟩⟩))
  · rw [Routine.returns_bind]
    refine returns_measured_same (by decide) hst3 (fun _ => Observation.same_record s c.event)
      (fun _ st4 hst4 => ?_)
    rw [Routine.returns_bind]
    exact returns_recordCheckpoint hst4 (fun st5 hst5 =>
      returns_finalizeResult (fun _ => ⟨_,.inr ⟨hst5,haccepted⟩⟩))

/-! ## The flows -/

theorem returns_rolledBack {m : WriteRoutine CommandResult} (hst : st.Reached clock phases finished)
    (hp : consistentPhases (.rollbackFinalization :: phases) = true)
    (hm : ∀ st' (Q : CommandResult → WriteState → Prop), (∀ v, Q v st') → m.Returns st' Q) :
    (do
      PostgresWriteSideUnitOfWork.rollback
      m).Returns st (fun _ st' => Finalizable clock st') := by
  rw [Routine.returns_bind]
  exact returns_uowRollback hst (fun st1 hst1 => hm st1 _ (fun _ => ⟨_,.inl ⟨hst1,hp⟩⟩))

theorem returns_executeInTransactionCommand {W : WriteSide} {s : RequestSignature}
    (hst : st.Reached clock [.producerWriteInvocation] finished) :
    (W.executeInTransactionCommand s).Returns st (fun _ st' => Measurable clock st') := by
  refine returns_withUnitOfWork hst (fun st1 hst1 => ?_)
  rw [Routine.returns_bind]
  refine returns_authoritativeCheck hst1 (fun d st2 hst2 => ?_)
  split
  · exact returns_rolledBack hst2 (by decide) (fun _ _ => returns_decided)
  · rw [Routine.returns_bind]
    refine returns_prepare hst2 (fun prepared st3 h3 => ?_)
    obtain ⟨phases3,hp3,hst3⟩ := h3
    split
    · refine returns_rolledBack hst3 ?_ (fun _ _ => returns_finalizeResult)
      rcases hp3 with rfl | rfl <;> decide
    · have hload := returns_load s.orderId (fun history st' =>
        (do
          let c ← W.validateCandidate s.orderId history
          if c.validationDecision.action ≠ .allow then
            PostgresWriteSideUnitOfWork.rollback
            WriteSide.validationBlocked d (some prepared) c
          else W.appendAndRecord s d prepared c : WriteRoutine CommandResult).Returns st'
            (fun _ st'' => Finalizable clock st'')) hst3 (fun history st4 hst4 => ?_)
      · simpa only [Routine.returns_bind, Routine.returns_pure] using hload
      · rw [Routine.returns_bind]
        refine returns_validateCandidate hst4 (fun c st5 hst5 => ?_)
        split
        · refine returns_rolledBack hst5 ?_ (fun _ _ => returns_finalizeResult)
          rcases hp3 with rfl | rfl <;> decide
        · refine returns_appendAndRecord hst5 ?_ ?_ <;> rcases hp3 with rfl | rfl <;> decide

theorem returns_preliminaryReads {s : RequestSignature}
    {Q : CommandResult ⊕ IdempotencyDecision × List OrderEvent → WriteState → Prop}
    (hst : st.Reached clock [.producerWriteInvocation] finished)
    (hleft : ∀ v st', Measurable clock st' → Q (.inl v) st')
    (hright : ∀ d history st', st'.Reached clock [.preliminaryReadCleanup,.acceptedHistoryLoad,
      .preliminaryIdempotencyCheck,.producerWriteInvocation] finished → Q (.inr (d,history)) st') :
    (WriteSide.preliminaryReads s).Returns st Q := by
  refine Routine.returns_tryFinally ?_
  rw [Routine.returns_bind]
  refine returns_measured_same (by decide) hst (same_check s) (fun d st1 hst1 => ?_)
  rw [Routine.returns_bind]
  refine returns_recordCheckpoint hst1 (fun st2 hst2 => ?_)
  split
  · rw [Routine.returns_bind]
    refine returns_decided (fun v => (Routine.returns_pure _).mpr ?_)
    exact returns_measured_same (by decide) hst2 (fun _ => Routine.same_perform _)
      (fun _ st3 hst3 => hleft v st3 ⟨_,_,hst3,by decide⟩)
  · have hload := returns_load s.orderId (fun history st' =>
      (measured .preliminaryReadCleanup (sql .rollback)).Returns st'
        (fun _ st'' => Q (.inr (d,history)) st'')) hst2 (fun history st3 hst3 =>
      returns_measured_same (by decide) hst3 (fun _ => Routine.same_perform _)
        (fun _ st4 hst4 => hright d history st4 hst4))
    simpa only [Routine.returns_bind, Routine.returns_pure] using hload

theorem returns_admitCandidate {W : WriteSide} {s : RequestSignature} {c : Candidate}
    (hst : st.Reached clock [.validationRuntimeCall,.preliminaryReadCleanup,.acceptedHistoryLoad,
      .preliminaryIdempotencyCheck,.producerWriteInvocation] finished) :
    (W.admitCandidate s c).Returns st (fun _ st' => Measurable clock st') := by
  refine returns_withUnitOfWork hst (fun st1 hst1 => ?_)
  rw [Routine.returns_bind]
  refine returns_authoritativeCheck hst1 (fun d st2 hst2 => ?_)
  split
  · exact returns_rolledBack hst2 (by decide) (fun _ _ => returns_decided)
  · rw [Routine.returns_bind]
    refine returns_prepare hst2 (fun prepared st3 h3 => ?_)
    obtain ⟨phases3,hp3,hst3⟩ := h3
    split
    · refine returns_rolledBack hst3 ?_ (fun _ _ => returns_finalizeResult)
      rcases hp3 with rfl | rfl <;> decide
    · refine returns_appendAndRecord hst3 ?_ ?_ <;> rcases hp3 with rfl | rfl <;> decide

theorem returns_executePreTransactionCommand {W : WriteSide} {s : RequestSignature}
    (hst : st.Reached clock [.producerWriteInvocation] finished) :
    (W.executePreTransactionCommand s).Returns st (fun _ st' => Measurable clock st') := by
  rw [WriteSide.executePreTransactionCommand, Routine.returns_bind]
  refine returns_preliminaryReads hst (fun v st1 h1 => (Routine.returns_pure _).mpr h1)
    (fun d history st1 hst1 => ?_)
  simp only [Routine.returns_bind]
  refine returns_validateCandidate hst1 (fun c st2 hst2 => ?_)
  split
  · exact returns_finalizeResult (fun _ => ⟨_,_,hst2,by decide⟩)
  · exact returns_admitCandidate hst2

/-- Whichever way a command returns, its phases are an admitted combination. -/
theorem returns_executeCommand {W : WriteSide} {s : RequestSignature}
    (hst : st.Reached clock [.producerWriteInvocation] finished) :
    (W.executeCommand s).Returns st (fun _ st' => Measurable clock st') := by
  unfold WriteSide.executeCommand
  split
  · exact returns_executeInTransactionCommand hst
  · exact returns_executePreTransactionCommand hst

end Measurement

/-! ## The delivery -/

/-- Both readings around a call are valid, the second taken after `ticks` others. -/
def TimedCall (clock : ℕ → Option ℤ) (ticks : ℕ) : Prop :=
  ∃ started stopped, clock 0 = some started ∧ clock ticks = some stopped ∧ started ≤ stopped

theorem MeasurementRecorder.Reached.timed_iff {r : MeasurementRecorder} {clock : ℕ → Option ℤ}
    {phases : List MeasurementPhase} (h : r.Reached clock phases) :
    ((r.finish .producerWriteInvocation (clock 0)).readings .producerWriteInvocation).elapsedNs.isSome =
      true ↔ TimedCall clock r.ticks := by
  have hwhole := h.whole
  have hclock := h.clock
  cases h0 : clock 0 with
  | none => simp [MeasurementRecorder.finish, TimedCall, h0, hwhole]
  | some started =>
    simp only [MeasurementRecorder.finish, MeasurementRecorder.readClock, hclock, TimedCall, h0,
      Option.some.injEq]
    cases h1 : clock r.ticks with
    | none => simp [hwhole]
    | some stopped =>
      by_cases hlt : stopped < started
      · simp [hlt, hwhole]
      · simp [hlt, MeasurementRecorder.set, not_lt.mp hlt]

theorem MeasurementRecorder.buildDelivery_isSome (r : MeasurementRecorder) (value : CommandResult) :
    (r.buildDelivery value).measurement.isSome =
      PostgresWriteSideMeasurement.valid r.phaseMeasurement := by
  simp only [MeasurementRecorder.buildDelivery]
  split
  · rename_i hv
    exact hv.symm
  · rename_i hv
    exact (Bool.not_eq_true _ ▸ hv).symm

namespace WriteInvocation

/-- A measured invocation that returns delivers the producer's value, and a measurement exactly
when its whole call was timed; the phases it reached are then an admitted combination. -/
theorem measurement_available {v : WriteInvocation} {clock : ℕ → Option ℤ}
    (hclock : v.clock = some clock) : v.routine.Returns v.initialState (fun d st =>
      ∃ started called value, started.recorder = some
          ((MeasurementRecorder.new v.placement clock).start .producerWriteInvocation).2 ∧
        (v.writeSide.executeCommand v.signature started).Ends (.ok value,called) ∧
        d.producerValue = value ∧ ∃ r r', called.recorder = some r ∧ st.recorder = some r' ∧
          (d.measurement.isSome = true ↔ TimedCall clock r.ticks) ∧
          (TimedCall clock r.ticks → PostgresWriteSideMeasurement.valid r'.phaseMeasurement = true ∧
            d.measurement = some r'.phaseMeasurement)) := by
  have hstart : v.initialState.recorder = some (MeasurementRecorder.new v.placement clock) := by
    rw [initialState, hclock]
    rfl
  have hrecorder : ((MeasurementRecorder.new v.placement clock).start
      .producerWriteInvocation).2.Reached clock [.producerWriteInvocation] :=
    (MeasurementRecorder.Reached.new v.placement clock).start _
  simp only [routine, startPhase, Routine.returns_bind, Routine.returns_get, hstart,
    Routine.returns_modify, Routine.returns_pure]
  intro value called hcalled
  obtain ⟨phases,finished,hreached,hp⟩ :=
    Measurement.returns_executeCommand ⟨rfl,_,rfl,hrecorder⟩ value called hcalled
  obtain ⟨r,hr,hobserved⟩ := hreached.recorder
  have hobserved' := hobserved.toObserved.finish .producerWriteInvocation (clock 0)
  have hvalid := (hobserved'.valid_iff hp).trans hobserved.timed_iff
  simp only [finishPhase, Routine.returns_modify, hr, Option.map_some, Routine.returns_pure]
  refine ⟨_,called,value,rfl,hcalled,rfl,r,_,hr,rfl,?_,fun ht => ⟨hvalid.mpr ht,?_⟩⟩
  · rw [MeasurementRecorder.buildDelivery_isSome]
    exact hvalid
  · simp only [MeasurementRecorder.buildDelivery]
    exact if_pos (hvalid.mpr ht)

end WriteInvocation

/-- A creation measured by a clock that steps. -/
def timedCreation : WriteInvocation :=
  ⟨.preTransaction,.pessimistic,invokeValidation .strict,⟨"r",.create,"A",.int 10⟩,⟨0,0⟩,true,
    some (fun n => some n)⟩

theorem WriteInvocation.measurement_available_timed : ∃ d st,
    (timedCreation.routine timedCreation.initialState).Ends (.ok d,st) ∧
    d.measurement.isSome = true ∧ ∃ ticks, TimedCall (fun n => some n) ticks := by
  have hrun : (timedCreation.routine.run (Database.serve (ι := Fin 1) ⟨fun _ => false,fun _ => 0⟩ 0)
      timedCreation.initialState (.initial .empty)).map (fun out =>
        out.1.1.map (fun d => d.measurement.isSome)) = some (.ok true) := by
    decide +kernel
  obtain ⟨⟨⟨r,st⟩,w⟩,hout,hr⟩ := Option.map_eq_some_iff.mp hrun
  cases r with
  | error e => cases hr
  | ok d =>
    have hends := Program.ends_of_run hout
    obtain ⟨_,_,_,-,-,-,r,_,-,-,hiff,-⟩ := measurement_available (v := timedCreation) rfl d st hends
    exact ⟨d,st,hends,Except.ok.inj hr,r.ticks,hiff.mp (Except.ok.inj hr)⟩

end StreamingCompass
