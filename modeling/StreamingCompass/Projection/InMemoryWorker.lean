import StreamingCompass.Interleaving.Crash
import StreamingCompass.Projection.Consistency

/-! # The in-memory projection worker

`ProjectionWorker` over `InMemoryProjectionStore` and `InMemoryCheckpointStore`. The two
stores are saved one after the other, so a crash can leave a state without its checkpoint.
-/
namespace StreamingCompass
open Interleaving

structure ProjectionRecord where
  offset : ℤ
  event : OrderEvent
deriving DecidableEq, Repr

structure ProjectionProcessResult where
  offset : ℤ
  orderId : String
  eventSequence : ℤ
  action : String
  projectedVersion : ℤ
  reason : String
deriving DecidableEq, Repr

/-- `_states` and `_offsets` -/
structure ProjectionStores where
  states : String → Option OrderState
  offsets : String → Option ℤ

namespace ProjectionStores

def empty : ProjectionStores := ⟨fun _ => none,fun _ => none⟩

def loadState (w : ProjectionStores) (orderId : String) : Option OrderState := w.states orderId
def saveState (w : ProjectionStores) (s : OrderState) : ProjectionStores :=
  {w with states := Function.update w.states s.orderId (some s)}
def loadOffset (w : ProjectionStores) (workerName : String) : ℤ := (w.offsets workerName).getD (-1)
def saveOffset (w : ProjectionStores) (workerName : String) (offset : ℤ) : ProjectionStores :=
  {w with offsets := Function.update w.offsets workerName (some offset)}

@[simp] theorem loadOffset_saveState (w : ProjectionStores) (s : OrderState) (workerName : String) :
    (w.saveState s).loadOffset workerName = w.loadOffset workerName := rfl
@[simp] theorem loadOffset_saveOffset (w : ProjectionStores) (workerName : String) (offset : ℤ) :
    (w.saveOffset workerName offset).loadOffset workerName = offset := by
  simp [loadOffset, saveOffset]
@[simp] theorem states_saveState (w : ProjectionStores) (s : OrderState) :
    (w.saveState s).states = Function.update w.states s.orderId (some s) := rfl
@[simp] theorem states_saveOffset (w : ProjectionStores) (workerName : String) (offset : ℤ) :
    (w.saveOffset workerName offset).states = w.states := rfl

end ProjectionStores

inductive ProjectionOp where
  | loadOffset (workerName : String)
  | saveOffset (workerName : String) (offset : ℤ)
  | loadState (orderId : String)
  | saveState (s : OrderState)

def ProjectionOp.Answer : ProjectionOp → Type
  | .loadOffset _ => ℤ
  | .saveOffset _ _ => Unit
  | .loadState _ => Option OrderState
  | .saveState _ => Unit

/-- The two stores never refuse a call. -/
def serveStores : Semantics ProjectionStores ProjectionOp ProjectionOp.Answer PyException
  | .loadOffset workerName, w => some (.ok (w.loadOffset workerName),w)
  | .saveOffset workerName offset, w => some (.ok (),w.saveOffset workerName offset)
  | .loadState orderId, w => some (.ok (w.loadState orderId),w)
  | .saveState s, w => some (.ok (),w.saveState s)

abbrev ProjectionRoutine (α : Type) : Type :=
  Routine ProjectionOp ProjectionOp.Answer PyException Unit α

namespace ProjectionWorker

def loadOffset (workerName : String) : ProjectionRoutine ℤ :=
  Routine.perform (ProjectionOp.loadOffset workerName)
def saveOffset (workerName : String) (offset : ℤ) : ProjectionRoutine Unit :=
  Routine.perform (ProjectionOp.saveOffset workerName offset)
def loadState (orderId : String) : ProjectionRoutine (Option OrderState) :=
  Routine.perform (ProjectionOp.loadState orderId)
def saveState (s : OrderState) : ProjectionRoutine Unit :=
  Routine.perform (ProjectionOp.saveState s)

def gapError (expected got : ℤ) : PyException :=
  .other "ProjectionSequenceGapError" ("Projection worker sequence gap: expected " ++
    toString expected ++ ", got " ++ toString got)

/-- `_load_or_init_state` -/
def loadOrInitState (orderId : String) : ProjectionRoutine OrderState := do
  let state ← loadState orderId
  match state with
  | some s => pure s
  | none => pure (buildEmptyProjectionState orderId)

def processRecord (workerName : String) (record : ProjectionRecord) :
    ProjectionRoutine ProjectionProcessResult := do
  let currentOffset ← loadOffset workerName
  if record.offset ≤ currentOffset then
    let currentState ← loadOrInitState record.event.orderId
    pure ⟨record.offset,record.event.orderId,record.event.sequence,"skipped_already_consumed",
      currentState.version,"record offset already checkpointed"⟩
  else
    let currentState ← loadOrInitState record.event.orderId
    if record.event.sequence ≤ currentState.version then
      saveOffset workerName record.offset
      pure ⟨record.offset,record.event.orderId,record.event.sequence,"skipped_already_projected",
        currentState.version,"event sequence is already reflected in projected state"⟩
    else if currentState.version+1 < record.event.sequence then
      Routine.raise (gapError (currentState.version+1) record.event.sequence)
    else
      let nextState ← Routine.ofExcept (reduceOrderEvent currentState record.event)
      saveState nextState
      saveOffset workerName record.offset
      pure ⟨record.offset,record.event.orderId,record.event.sequence,"applied",nextState.version,
        "projection state advanced successfully"⟩

/-- `replay`: the same path for record after record. -/
def replay (workerName : String) :
    List ProjectionRecord → ProjectionRoutine (List ProjectionProcessResult)
  | [] => pure []
  | record :: records => do
    let result ← processRecord workerName record
    let results ← replay workerName records
    pure (result :: results)

end ProjectionWorker

/-! ## What one delivery does -/

/-- The state `_load_or_init_state` returns. -/
def ProjectionStores.current (w : ProjectionStores) (orderId : String) : OrderState :=
  (w.states orderId).getD (buildEmptyProjectionState orderId)

/-- The outcome of one delivery and the stores after it. -/
inductive Processed (workerName : String) (r : ProjectionRecord) (w : ProjectionStores) :
    Except PyException ProjectionProcessResult → ProjectionStores → Prop where
  | consumed {result : ProjectionProcessResult} (old : r.offset ≤ w.loadOffset workerName) :
    Processed workerName r w (.ok result) w
  | projected {result : ProjectionProcessResult} (new : w.loadOffset workerName < r.offset)
    (late : r.event.sequence ≤ (w.current r.event.orderId).version) :
    Processed workerName r w (.ok result) (w.saveOffset workerName r.offset)
  | refused {e : PyException} (new : w.loadOffset workerName < r.offset)
    (early : (w.current r.event.orderId).version < r.event.sequence)
    (none : ∀ next, reduceOrderEvent (w.current r.event.orderId) r.event ≠ .ok next) :
    Processed workerName r w (.error e) w
  | applied {result : ProjectionProcessResult} {next : OrderState}
    (new : w.loadOffset workerName < r.offset)
    (reduced : reduceOrderEvent (w.current r.event.orderId) r.event = .ok next) :
    Processed workerName r w (.ok result) ((w.saveState next).saveOffset workerName r.offset)

namespace ProjectionWorker
variable {workerName : String} {r : ProjectionRecord} {w w' : ProjectionStores}

@[simp] theorem run_loadOffset :
    (loadOffset workerName).run serveStores () w = some ((.ok (w.loadOffset workerName),()),w) := rfl
@[simp] theorem run_saveOffset (offset : ℤ) : (saveOffset workerName offset).run serveStores () w =
    some ((.ok (),()),w.saveOffset workerName offset) := rfl
@[simp] theorem run_saveState (s : OrderState) :
    (saveState s).run serveStores () w = some ((.ok (),()),w.saveState s) := rfl

@[simp] theorem run_loadOrInitState (orderId : String) :
    (loadOrInitState orderId).run serveStores () w = some ((.ok (w.current orderId),()),w) := by
  have hload : (loadState orderId).run serveStores () w = some ((.ok (w.states orderId),()),w) := rfl
  rw [loadOrInitState, Routine.run_bind, hload]
  unfold ProjectionStores.current
  cases w.states orderId <;> rfl

theorem visits_loadOffset {u : Unit} :
    Routine.Visits serveStores (loadOffset workerName) u w w' ↔ w' = w := by
  constructor
  · rintro (h | ⟨out,hout,h⟩)
    · exact h
    · obtain rfl := Option.some.inj hout
      exact h
  · exact .inl

theorem visits_saveOffset (offset : ℤ) {u : Unit} :
    Routine.Visits serveStores (saveOffset workerName offset) u w w' ↔
      w' = w ∨ w' = w.saveOffset workerName offset := by
  constructor
  · rintro (h | ⟨out,hout,h⟩)
    · exact .inl h
    · obtain rfl := Option.some.inj hout
      exact .inr h
  · rintro (h | h)
    · exact .inl h
    · exact .inr ⟨_,rfl,h⟩

theorem visits_saveState (s : OrderState) {u : Unit} :
    Routine.Visits serveStores (saveState s) u w w' ↔ w' = w ∨ w' = w.saveState s := by
  constructor
  · rintro (h | ⟨out,hout,h⟩)
    · exact .inl h
    · obtain rfl := Option.some.inj hout
      exact .inr h
  · rintro (h | h)
    · exact .inl h
    · exact .inr ⟨_,rfl,h⟩

theorem visits_loadOrInitState (orderId : String) {u : Unit} :
    Routine.Visits serveStores (loadOrInitState orderId) u w w' ↔ w' = w := by
  rw [loadOrInitState, Routine.visits_bind]
  constructor
  · rintro (h | ⟨state,_,w₁,hrun,h⟩)
    · rcases h with h | ⟨out,hout,h⟩
      · exact h
      · obtain rfl := Option.some.inj hout
        exact h
    · have hsame : w₁ = w := (Prod.mk.inj (Option.some.inj hrun)).2.symm
      cases state with
      | none => exact h.trans hsame
      | some s => exact h.trans hsame
  · rintro rfl
    exact .inl (.inl rfl)

/-- A delivery always ends, in one of four ways. -/
theorem run_processRecord (workerName : String) (r : ProjectionRecord) (w : ProjectionStores) :
    ∃ outcome w', (processRecord workerName r).run serveStores () w = some ((outcome,()),w') ∧
      Processed workerName r w outcome w' := by
  unfold processRecord
  simp only [Routine.run_bind, run_loadOffset, Option.bind_some]
  by_cases hold : r.offset ≤ w.loadOffset workerName
  · simp only [hold, if_true, Routine.run_bind, run_loadOrInitState, Option.bind_some, Routine.run_pure]
    exact ⟨_,_,rfl,.consumed hold⟩
  · have hnew := not_le.mp hold
    simp only [hold, if_false, Routine.run_bind, run_loadOrInitState, Option.bind_some]
    by_cases hlate : r.event.sequence ≤ (w.current r.event.orderId).version
    · simp only [hlate, if_true, Routine.run_bind, run_saveOffset, Option.bind_some, Routine.run_pure]
      exact ⟨_,_,rfl,.projected hnew hlate⟩
    · simp only [hlate, if_false]
      by_cases hgap : (w.current r.event.orderId).version+1 < r.event.sequence
      · simp only [hgap, if_true, Routine.run_raise]
        refine ⟨_,_,rfl,.refused hnew (not_le.mp hlate) fun next hnext => ?_⟩
        exact absurd (reduceOrderEvent_reduced hnext).sequence hgap.ne'
      · simp only [hgap, if_false, Routine.run_bind, Routine.run_ofExcept, Option.bind_some]
        cases hr : reduceOrderEvent (w.current r.event.orderId) r.event with
        | error e =>
          refine ⟨_,_,rfl,.refused hnew (not_le.mp hlate) fun next hnext => ?_⟩
          rw [hr] at hnext
          cases hnext
        | ok next =>
          simp only [run_saveState, run_saveOffset, Option.bind_some, Routine.run_pure]
          exact ⟨_,_,rfl,.applied hnew hr⟩

/-- A delivery that stops short leaves nothing, or a state without its checkpoint. -/
theorem visits_processRecord (h : Routine.Visits serveStores (processRecord workerName r) () w w') :
    w' = w ∨
      (∃ next, w.loadOffset workerName < r.offset ∧
        reduceOrderEvent (w.current r.event.orderId) r.event = .ok next ∧ w' = w.saveState next) ∨
      ∃ outcome, (processRecord workerName r).run serveStores () w = some ((outcome,()),w') := by
  unfold processRecord at h ⊢
  rw [Routine.visits_bind, visits_loadOffset] at h
  rcases h with h | ⟨_,⟨⟩,_,hload,h⟩
  · exact .inl h
  obtain ⟨⟨rfl⟩,rfl⟩ := Prod.mk.inj (Option.some.inj hload)
  simp only [Routine.run_bind, run_loadOffset, Option.bind_some]
  by_cases hold : r.offset ≤ w.loadOffset workerName
  · simp only [hold, if_true, Routine.visits_bind, visits_loadOrInitState, Routine.visits_pure] at h
    rcases h with h | ⟨_,⟨⟩,_,hinit,h⟩
    · exact .inl h
    · rw [run_loadOrInitState] at hinit
      obtain ⟨⟨rfl⟩,rfl⟩ := Prod.mk.inj (Option.some.inj hinit)
      exact .inl h
  simp only [hold, if_false, Routine.visits_bind, visits_loadOrInitState] at h
  rcases h with h | ⟨_,⟨⟩,_,hinit,h⟩
  · exact .inl h
  rw [run_loadOrInitState] at hinit
  obtain ⟨⟨rfl⟩,rfl⟩ := Prod.mk.inj (Option.some.inj hinit)
  simp only [hold, if_false, Routine.run_bind, run_loadOrInitState, Option.bind_some]
  by_cases hlate : r.event.sequence ≤ (w.current r.event.orderId).version
  · simp only [hlate, if_true, Routine.visits_bind, visits_saveOffset, Routine.visits_pure,
      run_saveOffset] at h
    simp only [hlate, if_true, Routine.run_bind, run_saveOffset, Option.bind_some, Routine.run_pure]
    rcases h with (h | rfl) | ⟨_,_,_,hsave,rfl⟩
    · exact .inl h
    · exact .inr (.inr ⟨_,rfl⟩)
    · obtain ⟨-,rfl⟩ := Prod.mk.inj (Option.some.inj hsave)
      exact .inr (.inr ⟨_,rfl⟩)
  by_cases hgap : (w.current r.event.orderId).version+1 < r.event.sequence
  · simp only [hlate, if_false, hgap, if_true, Routine.visits_raise] at h
    exact .inl h
  simp only [hlate, if_false, hgap, Routine.visits_bind, Routine.visits_ofExcept,
    Routine.run_ofExcept] at h
  rcases h with h | ⟨next,⟨⟩,_,hreduce,h⟩
  · exact .inl h
  obtain ⟨hpair,rfl⟩ := Prod.mk.inj (Option.some.inj hreduce)
  have hnext := (Prod.mk.inj hpair).1
  simp only [visits_saveState, run_saveState, visits_saveOffset, Routine.visits_pure] at h
  simp only [hlate, if_false, hgap, Routine.run_bind, Routine.run_ofExcept, hnext, Option.bind_some,
    run_saveState, run_saveOffset, Routine.run_pure]
  rcases h with (h | rfl) | ⟨_,⟨⟩,_,hsave,(rfl | rfl) | ⟨_,⟨⟩,_,hcheckpoint,rfl⟩⟩
  · exact .inl h
  · exact .inr (.inl ⟨_,not_le.mp hold,rfl,rfl⟩)
  · obtain ⟨-,rfl⟩ := Prod.mk.inj (Option.some.inj hsave)
    exact .inr (.inl ⟨_,not_le.mp hold,rfl,rfl⟩)
  · obtain ⟨-,rfl⟩ := Prod.mk.inj (Option.some.inj hsave)
    exact .inr (.inr ⟨_,rfl⟩)
  · obtain ⟨-,rfl⟩ := Prod.mk.inj (Option.some.inj hsave)
    obtain ⟨-,rfl⟩ := Prod.mk.inj (Option.some.inj hcheckpoint)
    exact .inr (.inr ⟨_,rfl⟩)

end ProjectionWorker
end StreamingCompass
