import StreamingCompass.Interleaving.Run
import StreamingCompass.Projection.ReplayValidator

/-! # A reader beside a running system

A reading program takes its operations one at a time while the system goes on
committing. When all its queries lie in one REPEATABLE READ transaction, it returns what
it would return against one of the states committed while it ran.
-/
namespace StreamingCompass
open Interleaving

variable {State α : Type}

/-- The operations against one unchanging state. -/
def ReadSession.serve (t : Tables) :
    Semantics ReadSession ReadOperation ReadOperation.Answer PyException :=
  fun op x => some (x.exec t op)

/-- What a reading program returns against one unchanging state. -/
def ReadProgram.serial (t : Tables) (p : ReadProgram α) (x : ReadSession) : Option α :=
  (p.run (ReadSession.serve t) x).map (fun out => out.1)

/-- The states of a system, and of a reader that started at `s₀` on an idle connection. -/
inductive Observed (step : State → State → Prop) (committed : State → Tables) (s₀ : State)
    (p : ReadProgram α) : State → ReadSession → ReadProgram α → Prop where
  | start : Observed step committed s₀ p s₀ .idle p
  | system {s s' : State} {x : ReadSession} {q : ReadProgram α}
    (h : Observed step committed s₀ p s x q) (hs : step s s') : Observed step committed s₀ p s' x q
  | read {s : State} {x : ReadSession} {op : ReadOperation} {next : ReadReply op → ReadProgram α}
    (h : Observed step committed s₀ p s x (.call op next)) :
    Observed step committed s₀ p s (x.exec (committed s) op).2 (next (x.exec (committed s) op).1)

/-- How far a reader is with its one transaction. -/
inductive ReadPhase where | fresh | opened | reading | ended
deriving DecidableEq

namespace ReadPhase

/-- The phase after an operation, for the operations a phase admits. -/
def after : ReadPhase → ReadOperation → Option ReadPhase
  | phase, .transactionStatus => some phase
  | .fresh, .begin => some .opened
  | .opened, .setRepeatableReadReadOnly => some .reading
  | .reading, .selectHistory _ | .reading, .selectProjectionState _ => some .reading
  | .reading, .commit | .reading, .rollback | .opened, .commit | .opened, .rollback => some .ended
  | _, _ => none

/-- The session of a reader in a phase. -/
def Fits (x : ReadSession) : ReadPhase → Prop
  | .fresh => x = .idle
  | .opened => x = {ReadSession.idle with isOpen := true}
  | .reading => x.repeatable = true
  | .ended => True

end ReadPhase

/-- All queries of the program lie in one REPEATABLE READ transaction. -/
def Confined : ReadProgram α → ReadPhase → Prop
  | .done _, _ => True
  | .call op next, phase => ∃ phase', phase.after op = some phase' ∧ ∀ r, Confined (next r) phase'

abbrev ReadLog : Type := Log ReadOperation ReadOperation.Answer PyException

/-- The phase a reader's log leads to. -/
def ReadPhase.ofLog : ReadLog → Option ReadPhase
  | [] => some .fresh
  | e :: log => (ofLog log).bind (fun phase => phase.after e.1)

/-- Each operation is one its phase admits. -/
def readContract : Contract ReadOperation ReadOperation.Answer PyException where
  allowed _ _ _ := True
  guard log op := ((ReadPhase.ofLog log).bind (fun phase => phase.after op)).isSome = true

theorem confined_of_meets {p : ReadProgram α} {post : ReadLog → α → Prop} {log : ReadLog}
    {phase : ReadPhase} (h : p.Meets readContract post log) (hphase : ReadPhase.ofLog log = some phase) :
    Confined p phase := by
  induction p generalizing log phase with
  | done a => trivial
  | call op next ih =>
    obtain ⟨hg,hnext⟩ := h
    obtain ⟨phase',hafter⟩ := Option.isSome_iff_exists.mp hg
    rw [hphase, Option.bind_some] at hafter
    refine ⟨phase',hafter,fun r => ih r (hnext r trivial) ?_⟩
    rw [ReadPhase.ofLog, hphase, Option.bind_some, hafter]

/-- What an operation in a phase does, as far as it depends on the committed state. -/
inductive ReadStep (x : ReadSession) (phase : ReadPhase) (op : ReadOperation) (t : Tables) : Prop where
  | blind (same : ∀ t', x.exec t' op = x.exec t op) (kept : (x.exec t op).2.snapshot = x.snapshot)
  | ended (same : ∀ t', x.exec t' op = x.exec t op) (finished : phase.after op = some .ended)
  | queried (phased : phase.after op = some .reading) (repeatable : x.repeatable = true)
    (taken : (x.exec t op).2.snapshot = some (x.snapshot.getD t))
    (same : ∀ t', x.snapshot = some t' → x.exec t op = x.exec t' op)

theorem ReadSession.query_step {β : Type} (x : ReadSession) (t : Tables) (text : String)
    (f : Tables → β) (hr : x.repeatable = true) :
    ((∀ t', x.query t' text f = x.query t text f) ∧ (x.query t text f).2.snapshot = x.snapshot) ∨
      ((x.query t text f).2.snapshot = some (x.snapshot.getD t) ∧
        ∀ t', x.snapshot = some t' → x.query t text f = x.query t' text f) := by
  by_cases hn : hasNul text = true
  · exact .inl ⟨fun t' => by simp [query, hn],by simp [query, hn]⟩
  · by_cases hf : x.failed = true
    · exact .inl ⟨fun t' => by simp [query, hn, hf],by simp [query, hn, hf]⟩
    · refine .inr ⟨by simp [query, hn, hf, view, hr],fun t' ht' => ?_⟩
      simp [query, hn, hf, view, hr, ht']

theorem readStep {x : ReadSession} {phase phase' : ReadPhase} {op : ReadOperation} (t : Tables)
    (hx : phase.Fits x) (ha : phase.after op = some phase') :
    ReadStep x phase op t ∧ phase'.Fits (x.exec t op).2 := by
  cases op with
  | transactionStatus =>
    obtain rfl : phase = phase' := by cases phase <;> simpa [ReadPhase.after] using ha
    exact ⟨.blind (fun _ => rfl) rfl,hx⟩
  | begin =>
    cases phase with
    | fresh =>
      obtain rfl : ReadPhase.opened = phase' := by simpa [ReadPhase.after] using ha
      obtain rfl : x = .idle := hx
      exact ⟨.blind (fun _ => rfl) rfl,rfl⟩
    | _ => cases ha
  | setRepeatableReadReadOnly =>
    cases phase with
    | opened =>
      obtain rfl : ReadPhase.reading = phase' := by simpa [ReadPhase.after] using ha
      obtain rfl : x = {ReadSession.idle with isOpen := true} := hx
      exact ⟨.blind (fun _ => rfl) rfl,rfl⟩
    | _ => cases ha
  | selectHistory orderId =>
    cases phase with
    | reading =>
      obtain rfl : ReadPhase.reading = phase' := by simpa [ReadPhase.after] using ha
      have hfits : ReadPhase.Fits (x.exec t (.selectHistory orderId)).2 .reading := by
        simp only [ReadPhase.Fits, ReadSession.exec, ReadSession.query]
        split
        · exact hx
        · split
          · exact hx
          · exact hx
      rcases x.query_step t orderId (fun t => t.history orderId) hx with ⟨hs,hk⟩ | ⟨ht,hs⟩
      · exact ⟨.blind hs hk,hfits⟩
      · exact ⟨.queried ha hx ht hs,hfits⟩
    | _ => cases ha
  | selectProjectionState orderId =>
    cases phase with
    | reading =>
      obtain rfl : ReadPhase.reading = phase' := by simpa [ReadPhase.after] using ha
      have hfits : ReadPhase.Fits (x.exec t (.selectProjectionState orderId)).2 .reading := by
        simp only [ReadPhase.Fits, ReadSession.exec, ReadSession.query]
        split
        · exact hx
        · split
          · exact hx
          · exact hx
      rcases x.query_step t orderId (fun t => t.projectionStates orderId) hx with ⟨hs,hk⟩ | ⟨ht,hs⟩
      · exact ⟨.blind hs hk,hfits⟩
      · exact ⟨.queried ha hx ht hs,hfits⟩
    | _ => cases ha
  | commit =>
    obtain rfl : ReadPhase.ended = phase' := by
      cases phase <;> simp [ReadPhase.after] at ha <;> exact ha
    exact ⟨.ended (fun _ => rfl) ha,trivial⟩
  | rollback =>
    obtain rfl : ReadPhase.ended = phase' := by
      cases phase <;> simp [ReadPhase.after] at ha <;> exact ha
    exact ⟨.ended (fun _ => rfl) ha,trivial⟩

section Observing
variable {step : State → State → Prop} {committed : State → Tables} {s₀ s : State}
  {p q : ReadProgram α} {x : ReadSession}

/-- What is left of the program answers as the whole would, against every state while no
query has run, and against the state its first query saw from then on. -/
inductive SeesOneState (step : State → State → Prop) (committed : State → Tables) (s₀ : State)
    (p : ReadProgram α) (s : State) (x : ReadSession) (q : ReadProgram α) (phase : ReadPhase) :
    Prop where
  | unread (running : phase ≠ .ended) (none : x.snapshot = none)
    (serial : ∀ t, q.serial t x = p.serial t .idle)
  | seen {s₁ : State} (before : Relation.ReflTransGen step s₀ s₁)
    (after : Relation.ReflTransGen step s₁ s)
    (snapshot : phase ≠ .ended → x.snapshot = some (committed s₁))
    (serial : q.serial (committed s₁) x = p.serial (committed s₁) .idle)

theorem Observed.reached (h : Observed step committed s₀ p s x q) :
    Relation.ReflTransGen step s₀ s := by
  induction h with
  | start => exact .refl
  | system _ hs ih => exact ih.tail hs
  | read _ ih => exact ih

theorem ReadPhase.after_reading {phase : ReadPhase} {op : ReadOperation}
    (h : phase.after op = some .reading) : phase ≠ .ended := by
  rintro rfl
  cases op <;> cases h

theorem Observed.seesOneState (hp : Confined p .fresh) (h : Observed step committed s₀ p s x q) :
    ∃ phase, Confined q phase ∧ phase.Fits x ∧ SeesOneState step committed s₀ p s x q phase := by
  induction h with
  | start => exact ⟨.fresh,hp,rfl,.unread (by simp) rfl (fun _ => rfl)⟩
  | system h hs ih =>
    obtain ⟨phase,hc,hx,hsees⟩ := ih
    refine ⟨phase,hc,hx,?_⟩
    cases hsees with
    | unread running hnone hserial => exact .unread running hnone hserial
    | seen before after snapshot hserial => exact .seen before (after.tail hs) snapshot hserial
  | @read s x op next h ih =>
    obtain ⟨phase,⟨phase',ha,hnext⟩,hx,hsees⟩ := ih
    obtain ⟨hstep,hx'⟩ := readStep (committed s) hx ha
    refine ⟨phase',hnext _,hx',?_⟩
    -- against a state the operation answers alike, the rest answers as before
    have hrest {t : Tables} (he : x.exec (committed s) op = x.exec t op) :
        (next (x.exec (committed s) op).1).serial t (x.exec (committed s) op).2 =
          ReadProgram.serial t (.call op next) x := by
      rw [he]
      rfl
    cases hsees with
    | unread running hnone hserial =>
      have hnow : (phase' ≠ .ended → (x.exec (committed s) op).2.snapshot = some (committed s)) →
          ReadProgram.serial (committed s) (next (x.exec (committed s) op).1)
            (x.exec (committed s) op).2 = p.serial (committed s) .idle →
          SeesOneState step committed s₀ p s (x.exec (committed s) op).2
            (next (x.exec (committed s) op).1) phase' := .seen h.reached .refl
      cases hstep with
      | blind same kept =>
        by_cases hphase : phase' = .ended
        · exact hnow (fun hne => absurd hphase hne) ((hrest rfl).trans (hserial _))
        · exact .unread hphase (kept.trans hnone)
            (fun t => (hrest (same t).symm).trans (hserial t))
      | ended same finished =>
        obtain rfl : phase' = .ended := Option.some.inj (ha.symm.trans finished)
        exact hnow (fun hne => absurd rfl hne) ((hrest rfl).trans (hserial _))
      | queried phased repeatable taken same =>
        refine hnow (fun _ => ?_) ((hrest rfl).trans (hserial _))
        rw [taken, hnone]
        rfl
    | @seen s₁ before after snapshot hserial =>
      cases hstep with
      | blind same kept =>
        refine .seen before after (fun hne => ?_) ((hrest (same _).symm).trans hserial)
        rw [kept]
        refine snapshot (fun hended => hne ?_)
        subst hended
        cases op <;> cases ha
        rfl
      | ended same finished =>
        obtain rfl : phase' = .ended := Option.some.inj (ha.symm.trans finished)
        exact .seen before after (fun hne => absurd rfl hne) ((hrest (same _).symm).trans hserial)
      | queried phased repeatable taken same =>
        have hs := snapshot (ReadPhase.after_reading phased)
        refine .seen before after (fun _ => ?_) ((hrest (same _ hs)).trans hserial)
        rw [taken, hs]
        rfl

/-- A confined reader returns what it would return against one state committed while it ran. -/
theorem Observed.serial {a : α} (hp : Confined p .fresh)
    (h : Observed step committed s₀ p s x (.done a)) :
    ∃ s₁, Relation.ReflTransGen step s₀ s₁ ∧ Relation.ReflTransGen step s₁ s ∧
      p.serial (committed s₁) .idle = some a := by
  obtain ⟨phase,-,-,hsees⟩ := h.seesOneState hp
  cases hsees with
  | unread running hnone hserial => exact ⟨s,h.reached,.refl,(hserial _).symm⟩
  | seen before after snapshot hserial => exact ⟨_,before,after,hserial.symm⟩

theorem Observed.trans {s' : State} (h : Observed step committed s₀ p s x q)
    (hr : Relation.ReflTransGen step s s') : Observed step committed s₀ p s' x q := by
  induction hr with
  | refl => exact h
  | tail _ hs ih => exact ih.system hs

theorem Observed.finish {a : α} {x' : ReadSession} (h : Observed step committed s₀ p s x q)
    (hr : q.run (ReadSession.serve (committed s)) x = some (a,x')) :
    Observed step committed s₀ p s x' (.done a) := by
  induction q generalizing x with
  | done b =>
    obtain ⟨rfl,rfl⟩ := Prod.mk.inj (Option.some.inj hr)
    exact h
  | call op next ih => exact ih _ h.read hr

end Observing

/-! ## The durable validator -/

namespace DurableReplayValidator

/-- What `validate_order` answers against one state. -/
def answer (t : Tables) (orderId : String) : Except PyException ReplayValidationResult :=
  if hasNul orderId then .error nulInText
  else
    let acceptedEvents := t.events orderId
    let persisted := (t.projectionStates orderId).map PostgresProjectionWorker.stateOfRow
    if acceptedEvents.isEmpty then
      .ok ⟨orderId,.noAcceptedHistory,none,persisted,"No accepted history exists for order"⟩
    else (reduceHistory orderId acceptedEvents).map (fun expected => compare orderId expected persisted)

/-- The log of a reader in a phase; the postcondition of each part of the validator. -/
abbrev stands (phase : ReadPhase) : Routine.Post ReadOperation ReadOperation.Answer PyException Unit α :=
  fun log _ _ => ReadPhase.ofLog log = some phase

theorem meets_perform {log : ReadLog} {op : ReadOperation} {phase phase' : ReadPhase}
    (hlog : ReadPhase.ofLog log = some phase) (ha : phase.after op = some phase') :
    (perform op).Meets readContract () log (stands phase') := by
  have hafter : (ReadPhase.ofLog log).bind (fun p => p.after op) = some phase' := by
    rw [hlog, Option.bind_some, ha]
  refine ⟨?_,fun r _ => hafter⟩
  change ((ReadPhase.ofLog log).bind (fun p => p.after op)).isSome = true
  rw [hafter]
  rfl

theorem meets_load {log : ReadLog} (orderId : String) (hlog : ReadPhase.ofLog log = some .reading) :
    (load orderId).Meets readContract () log (stands .reading) := by
  rw [load, Routine.meets_bind]
  refine (meets_perform hlog rfl).mono (fun log r _ hr => ?_)
  cases r <;> exact hr

theorem meets_loadState {log : ReadLog} (orderId : String)
    (hlog : ReadPhase.ofLog log = some .reading) :
    (loadState orderId).Meets readContract () log (stands .reading) := by
  rw [loadState, Routine.meets_bind]
  refine (meets_perform hlog rfl).mono (fun log r _ hr => ?_)
  cases r <;> exact hr

theorem meets_validate {log : ReadLog} (orderId : String)
    (hlog : ReadPhase.ofLog log = some .reading) :
    (validate orderId).Meets readContract () log (stands .reading) := by
  rw [validate, Routine.meets_bind]
  refine (meets_load orderId hlog).mono (fun log r _ hr => ?_)
  cases r with
  | error e => exact hr
  | ok events =>
    dsimp only
    split
    · rw [Routine.meets_bind]
      refine (meets_loadState orderId hr).mono (fun log r _ hr => ?_)
      cases r <;> exact hr
    · rw [Routine.meets_bind, Routine.meets_ofExcept]
      cases reduceHistory orderId events with
      | error e => exact hr
      | ok expected =>
        dsimp only
        rw [Routine.meets_bind]
        refine (meets_loadState orderId hr).mono (fun log r _ hr => ?_)
        cases r <;> exact hr

/-- The transaction ends on every exit of its body. -/
theorem meets_withTransaction {log : ReadLog} {body : ReadRoutine α}
    (hlog : ReadPhase.ofLog log = some .fresh)
    (hbody : ∀ log, ReadPhase.ofLog log = some .opened →
      body.Meets readContract () log (stands .reading)) :
    (withTransaction body).Meets readContract () log (fun _ _ _ => True) := by
  rw [withTransaction, Routine.meets_bind]
  refine (meets_perform hlog rfl).mono (fun log r _ hr => ?_)
  cases r with
  | error e => trivial
  | ok u =>
    dsimp only
    rw [Routine.meets_bind, Routine.meets_attempt]
    refine (hbody log hr).mono (fun log r _ hr => ?_)
    cases r with
    | error e =>
      dsimp only
      rw [Routine.meets_bind]
      refine (meets_perform hr rfl).mono (fun log r _ _ => ?_)
      cases r <;> trivial
    | ok a =>
      dsimp only
      rw [Routine.meets_bind]
      refine (meets_perform hr rfl).mono (fun log r _ _ => ?_)
      cases r <;> trivial

theorem meets_validateOrder (orderId : String) :
    (validateOrder orderId).Meets readContract () [] (fun _ _ _ => True) := by
  rw [validateOrder, Routine.meets_bind]
  refine (meets_perform (show ReadPhase.ofLog [] = some .fresh from rfl) rfl).mono (fun log r _ hr => ?_)
  cases r with
  | error e => trivial
  | ok idle =>
    dsimp only
    split
    · refine meets_withTransaction hr (fun log hlog => ?_)
      rw [Routine.meets_bind]
      refine (meets_perform hlog rfl).mono (fun log r _ hr => ?_)
      cases r with
      | error e => exact hr
      | ok u => exact meets_validate orderId hr
    · trivial

theorem program_confined (orderId : String) : Confined (program orderId) .fresh := by
  have h : (program orderId).Meets readContract (fun _ _ => True) [] := by
    rw [program, Program.meets_bind]
    exact meets_validateOrder orderId
  exact confined_of_meets h rfl

/-- A session that sees the state `t`. -/
structure Sees (t : Tables) (x : ReadSession) : Prop where
  view : x.view t = t
  healthy : x.failed = false

theorem Sees.query {t : Tables} {x : ReadSession} (h : Sees t x) {β : Type} {text : String}
    (f : Tables → β) (hn : hasNul text = false) :
    x.query t text f = (.ok (f t),{x with snapshot := some t}) ∧
      Sees t {x with snapshot := some t} := by
  refine ⟨by simp [ReadSession.query, hn, h.healthy, h.view],?_,h.healthy⟩
  simp only [ReadSession.view]
  split <;> rfl

variable {t : Tables} {orderId : String} {x : ReadSession}

theorem run_load (h : Sees t x) (hn : hasNul orderId = false) :
    ∃ x', (load orderId).run (ReadSession.serve t) () x =
      some ((.ok (t.events orderId),()),x') ∧ Sees t x' := by
  obtain ⟨hq,hs⟩ := h.query (fun t => t.history orderId) hn
  have hp : (perform (.selectHistory orderId)).run (ReadSession.serve t) () x =
      some (((x.query t orderId (fun t => t.history orderId)).1,()),
        (x.query t orderId (fun t => t.history orderId)).2) := rfl
  refine ⟨_,?_,hs⟩
  rw [load, Routine.run_bind, hp, hq]
  rfl

theorem run_loadState (h : Sees t x) (hn : hasNul orderId = false) :
    ∃ x', (loadState orderId).run (ReadSession.serve t) () x =
      some ((.ok ((t.projectionStates orderId).map PostgresProjectionWorker.stateOfRow),()),x') := by
  obtain ⟨hq,hs⟩ := h.query (fun t => t.projectionStates orderId) hn
  have hp : (perform (.selectProjectionState orderId)).run (ReadSession.serve t) () x =
      some (((x.query t orderId (fun t => t.projectionStates orderId)).1,()),
        (x.query t orderId (fun t => t.projectionStates orderId)).2) := rfl
  refine ⟨{x with snapshot := some t},?_⟩
  rw [loadState, Routine.run_bind, hp, hq]
  rfl

/-- The two reads and their comparison, against one state. -/
theorem run_validate (h : Sees t x) : ∃ x', (validate orderId).run (ReadSession.serve t) () x =
    some ((answer t orderId,()),x') := by
  by_cases hn : hasNul orderId = true
  · have hp : (perform (.selectHistory orderId)).run (ReadSession.serve t) () x =
        some (((x.query t orderId (fun t => t.history orderId)).1,()),
          (x.query t orderId (fun t => t.history orderId)).2) := rfl
    have hq : x.query t orderId (fun t => t.history orderId) = (.error nulInText,x) := by
      simp [ReadSession.query, hn]
    refine ⟨x,?_⟩
    rw [validate, Routine.run_bind, load, Routine.run_bind, hp, hq, answer, if_pos hn]
    rfl
  · have hn' : hasNul orderId = false := by simpa using hn
    obtain ⟨x₁,hload,hs₁⟩ := run_load h hn'
    obtain ⟨x₂,hstate⟩ := run_loadState hs₁ hn'
    rw [validate, Routine.run_bind, hload, answer, if_neg hn]
    simp only [Option.bind_some]
    split
    · exact ⟨x₂,by rw [Routine.run_bind, hstate]; rfl⟩
    · cases hf : reduceHistory orderId (t.events orderId) with
      | error e => exact ⟨x₁,by simp [Except.map]⟩
      | ok expected =>
        refine ⟨x₂,?_⟩
        rw [Routine.run_bind, Routine.run_ofExcept]
        simp only [Option.bind_some]
        rw [Routine.run_bind, hstate]
        rfl

theorem program_serial (t : Tables) (orderId : String) :
    (program orderId).serial t .idle = some (answer t orderId) := by
  have hsees : Sees t ⟨true,true,false,none⟩ := ⟨rfl,rfl⟩
  obtain ⟨x',hv⟩ := @run_validate t orderId _ hsees
  have hset : (do
      perform .setRepeatableReadReadOnly
      validate orderId).run (ReadSession.serve t) () ⟨true,false,false,none⟩ =
      some ((answer t orderId,()),x') := by
    rw [Routine.run_bind]
    exact hv
  have htx : (withTransaction (do
      perform .setRepeatableReadReadOnly
      validate orderId)).run (ReadSession.serve t) () .idle = some ((answer t orderId,()),.idle) := by
    have hbegin : (perform .begin).run (ReadSession.serve t) () .idle =
      some ((.ok (),()),⟨true,false,false,none⟩) := rfl
    rw [withTransaction, Routine.run_bind, hbegin]
    simp only [Option.bind_some]
    rw [Routine.run_bind, Routine.run_attempt, hset]
    cases answer t orderId <;> rfl
  have hstatus : (perform .transactionStatus).run (ReadSession.serve t) () .idle =
    some ((.ok true,()),.idle) := rfl
  have hrun : (validateOrder orderId ()).run (ReadSession.serve t) .idle =
      some ((answer t orderId,()),.idle) := by
    change (validateOrder orderId).run (ReadSession.serve t) () .idle = _
    rw [validateOrder, Routine.run_bind, hstatus]
    exact htx
  rw [ReadProgram.serial, program, Program.run_bind, hrun]
  rfl

end DurableReplayValidator
end StreamingCompass
