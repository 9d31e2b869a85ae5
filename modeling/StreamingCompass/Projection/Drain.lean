import StreamingCompass.Projection.Consistency
import StreamingCompass.Storage.Serial
import Mathlib.Algebra.BigOperators.Group.Finset.Basic

/-! # Draining the projection

One call of the worker while nobody else is in a transaction, statement by statement,
and what repeated calls return.
-/
namespace StreamingCompass
open Interleaving

/-! ## A statement of an open transaction -/

variable {ι : Type} [DecidableEq ι] [Fintype ι] {D : Database ι} {i : ι} {w : World ι} {x y : Transaction}

omit [Fintype ι] in
@[simp] theorem World.put_put : (w.put i x).put i y = w.put i y := by
  simp [World.put]

omit [Fintype ι] in
theorem World.visible_put : (w.put i x).visible i = w.tables.apply x := by
  simp [World.visible]

omit [Fintype ι] in
theorem settle_put (hx : x.isOpen = true) (hy : y.isOpen = true) :
    settle D (w.put i x) i y = w.put i y := by
  rw [settle_explicit (.inr (by rw [World.put_self, hx])), World.put_put]
  congr
  rw [← hy]

theorem serve_statement {op : Operation} {a : op.Answer} (hs : op.isStatement = true)
    (hx : x.isOpen = true) (hy : y.isOpen = true) (hok : x.failed = false)
    (ht : op.texts.any hasNul = false)
    (he : effect D (w.put i x).nextPosition i (w.put i x) op = some (.ok (a,y))) :
    D.serve i op (w.put i x) = some (.ok a,w.put i y) := by
  simp only [Database.serve, exec_statement hs, statement, ht, Bool.false_eq_true, if_false,
    World.put_self, hok, he, settle_put hx hy]

/-- An explicit transaction that holds nothing yet. -/
def Transaction.opened : Transaction := {Transaction.idle with isOpen := true}

/-- An explicit transaction that holds a state and maybe its progress. -/
def Transaction.saved (state : ProjectionStateRow) (progress : List ProgressRow) : Transaction :=
  {Transaction.opened with projectionStates := [state], progress := progress}

/-- No connection is in a transaction, and the tables are as runs leave them. -/
structure World.Quiet (w : World ι) : Prop where
  idle : ∀ j, w.transactions j = .idle
  sound : w.tables.Sound
  positions : ∀ r ∈ w.tables.orderEvents, 0 < r.globalPosition
  projected : ∀ orderId, ∃ k, w.tables.ProjectedTo orderId k

/-- The event a worker applies next, the `k`-th of its order. -/
structure NextEvent (t : Tables) (row : OrderEventRow) (k : ℕ) : Prop where
  committed : row ∈ t.orderEvents
  event : (t.history row.orderId)[k]? = some row
  sequence : row.sequence = k+1
  stands : t.ProjectedTo row.orderId k

namespace NextEvent
variable {t : Tables} {row : OrderEventRow} {k : ℕ}

theorem fold (h : NextEvent t row k) (hs : t.Sound) :
    reduceOrderEvent (t.projection row.orderId) (rowToOrderEvent row) =
      .ok (projectionOf row.orderId ((t.events row.orderId).take (k+1))) := by
  have hlegal := ((hs.legal_events row.orderId).take (k+1)).reduce
  have hlast : (t.events row.orderId)[k]? = some (rowToOrderEvent row) := by
    rw [Tables.events, List.getElem?_map, h.event]
    rfl
  rw [List.take_add_one, hlast, Option.toList_some, reduceHistory_append, h.stands.fold_eq] at hlegal
  rw [List.take_add_one, hlast, Option.toList_some]
  exact hlegal

theorem named (h : NextEvent t row k) (hs : t.Sound) : isBlank row.orderId = false := by
  apply (hs.legal_events row.orderId).named
  intro hnil
  have hmem : rowToOrderEvent row ∈ t.events row.orderId :=
    List.mem_map_of_mem (List.mem_of_getElem? h.event)
  simp [hnil] at hmem

theorem storable (hs : t.Sound) (orderId : String) (n : ℕ) :
    ∃ total paid, Numeric.ofDecimal (projectionOf orderId ((t.events orderId).take n)).totalAmount =
        .ok total ∧
      Numeric.ofDecimal (projectionOf orderId ((t.events orderId).take n)).paidAmount = .ok paid ∧
      Numeric.zero.le paid = true ∧ paid.le total = true ∧ Numeric.zero.le total = true := by
  have hlegal := (hs.legal_events orderId).take n
  have hzero : Numeric.ofDecimal .zero = .ok .zero := Numeric.ofDecimal_ofCents 0
  have htotal : ∃ total, Numeric.ofDecimal
      (projectionOf orderId ((t.events orderId).take n)).totalAmount = .ok total ∧
      Numeric.zero.le total = true := by
    rcases hlegal.totalAmount_cases with h0 | ⟨e,he,hamount⟩
    · exact ⟨_,h0 ▸ hzero,Numeric.le_refl _⟩
    · obtain ⟨r,-,rfl⟩ := List.mem_map.mp (List.mem_of_mem_take he)
      have hpos : Numeric.zero.le r.amount = true :=
        Numeric.zero_le_of_positiveAmount (hlegal.positive _ he)
      exact ⟨r.amount,hamount ▸ Numeric.ofDecimal_toDecimal hpos,hpos⟩
  obtain ⟨total,htotal,hnonneg⟩ := htotal
  rcases hlegal.canonical.paidAmount with h0 | hsame
  · exact ⟨total,.zero,htotal,h0 ▸ hzero,Numeric.le_refl _,hnonneg,hnonneg⟩
  · exact ⟨total,total,htotal,hsame ▸ htotal,hnonneg,Numeric.le_refl _,hnonneg⟩

end NextEvent

/-! ## One call -/

theorem Tables.apply_opened (t : Tables) : t.apply .opened = t := by
  simp [Tables.apply, Transaction.opened, Transaction.idle]

namespace World.Quiet
variable {row : OrderEventRow} {k : ℕ}

theorem others_put (h : w.Quiet) {p : Transaction → Bool} (hp : p .idle = false) :
    (w.put i x).others i p = false := by
  simp only [World.others, decide_eq_false_iff_not, not_exists, not_and, Bool.not_eq_true]
  intro j hj
  rw [World.put_ne _ hj, h.idle, hp]

theorem serve_read {op : Operation} {a : op.Answer} (hs : op.isStatement = true)
    (ht : op.texts.any hasNul = false)
    (he : ∀ v : World ι, v.visible i = w.tables → effect D v.nextPosition i v op = read v i a) :
    D.serve i op (w.put i .opened) = some (.ok a,w.put i .opened) := by
  refine serve_statement hs rfl rfl rfl ht ?_
  rw [he _ (by rw [World.visible_put, Tables.apply_opened]), read, World.put_self]

theorem serve_upsert (h : w.Quiet) (hn : NextEvent w.tables row k) :
    ∃ state, StoredState (stateParameters
        (projectionOf row.orderId ((w.tables.events row.orderId).take (k+1)))) state ∧
      D.serve i (.upsertProjectionState (stateParameters
          (projectionOf row.orderId ((w.tables.events row.orderId).take (k+1))))) (w.put i .opened) =
        some (.ok (),w.put i (.saved state [])) := by
  obtain ⟨total,paid,htotal,hpaid,hp0,hpt,ht0⟩ := NextEvent.storable h.sound row.orderId (k+1)
  obtain ⟨hid,hcount⟩ :=
    reduceHistory_version ((h.sound.legal_events row.orderId).take (k+1)).reduce
  have hversion : 0 ≤ (projectionOf row.orderId ((w.tables.events row.orderId).take (k+1))).version :=
    hcount ▸ Int.natCast_nonneg _
  generalize projectionOf row.orderId ((w.tables.events row.orderId).take (k+1)) = s at *
  refine ⟨⟨s.orderId,s.status,total,paid,s.version,s.version⟩,⟨total,paid,htotal,hpaid,rfl⟩,?_⟩
  refine serve_statement rfl rfl rfl rfl ?_ ?_
  · simpa [Operation.texts, stateParameters, hid] using (h.sound.texts row hn.committed).orderId
  · have hcheck : failedCheck "projection_states"
        [("ck_projection_states_last_sequence_non_negative",
            decide (0 ≤ (stateParameters s).lastSequence)),
         ("ck_projection_states_order_id_not_empty",trimNotEmpty (stateParameters s).orderId),
         ("ck_projection_states_paid_amount_non_negative",Numeric.zero.le paid),
         ("ck_projection_states_paid_amount_not_exceed_total_amount",paid.le total),
         ("ck_projection_states_total_amount_non_negative",Numeric.zero.le total),
         ("ck_projection_states_version_non_negative",
            decide (0 ≤ (stateParameters s).version))] = none := by
      apply failedCheck_pass
      simp [stateParameters, hid, trimNotEmpty_of_not_blank (hn.named h.sound), hp0, hpt, ht0, hversion]
    have htotal' : Numeric.ofDecimal (stateParameters s).totalAmount = .ok total := htotal
    have hpaid' : Numeric.ofDecimal (stateParameters s).paidAmount = .ok paid := hpaid
    simp only [effect, upsertProjectionState, htotal', hpaid', hcheck, World.put_self]
    rw [if_neg]
    · rfl
    · rw [h.others_put] <;> simp [Transaction.idle]

theorem serve_advance (h : w.Quiet) (hn : NextEvent w.tables row k) (state : ProjectionStateRow) :
    D.serve i (.advanceProgress (progressOf row))
        (w.put i (.saved state [])) =
      some (.ok (some (progressOf row)),w.put i (.saved state [progressOf row])) := by
  refine serve_statement rfl rfl rfl rfl ?_ ?_
  · have hname : hasNul orderStateProjectionName = false := by decide
    simpa [Operation.texts, progressOf, progressKey, hname] using
      (h.sound.texts row hn.committed).orderId
  · have hwrite : progressWrite (w.tables.apply (.saved state []))
        (progressOf row) = true := by
      simp only [progressWrite, Bool.and_eq_true, List.any_eq_true]
      refine ⟨⟨row,?_,by simp [progressOf, progressKey]⟩,?_⟩
      · simpa [Transaction.saved, Transaction.opened, Transaction.idle] using hn.committed
      · have hlast := hn.stands.lastSequence_eq
        have hsame : (w.tables.apply (.saved state [])).progress (progressOf row).key =
            w.tables.progress (progressKey row.orderId) := rfl
        have hsequence : (progressOf row).lastSequence = row.sequence := rfl
        unfold Tables.lastSequence at hlast
        rw [hsame, hsequence]
        cases hp : w.tables.progress (progressKey row.orderId) with
        | none =>
          simp only [hp, Option.map_none, Option.getD_none] at hlast
          simp [hn.sequence, ← hlast]
        | some r =>
          simp only [hp, Option.map_some, Option.getD_some] at hlast
          simp [hn.sequence, hlast]
    have hcheck : failedCheck "projection_order_progress"
        [("ck_projection_order_progress_epoch_positive",decide (0 < (progressOf row).key.projectionEpoch)),
         ("ck_projection_order_progress_global_position_positive",
           decide (0 < (progressOf row).lastGlobalPosition)),
         ("ck_projection_order_progress_name_not_empty",
           trimNotEmpty (progressOf row).key.projectionName),
         ("ck_projection_order_progress_order_id_not_empty",
           trimNotEmpty (progressOf row).key.orderId),
         ("ck_projection_order_progress_sequence_positive",
           decide (0 < (progressOf row).lastSequence))] = none := by
      apply failedCheck_pass
      have hsequence : 0 < row.sequence := by
        rw [hn.sequence]
        omega
      have hname : trimNotEmpty orderStateProjectionName = true := by decide
      simp [progressOf, progressKey, hname, trimNotEmpty_of_not_blank (hn.named h.sound),
        orderStateProjectionEpoch, h.positions row hn.committed, hsequence]
    have hothers : (w.put i (.saved state [])).others i
        (fun x => x.progress.any (fun r => r.key = (progressOf row).key)) = false :=
      h.others_put (by simp [Transaction.idle])
    simp only [effect, advanceProgress, World.visible_put, hwrite, if_true, hcheck, hothers,
      Bool.false_eq_true, if_false, World.put_self]
    rfl

omit [DecidableEq ι] [Fintype ι] in
theorem progress_ok (h : w.Quiet) (hn : NextEvent w.tables row k) :
    projectionOrderProgress (progressKey row.orderId) row.sequence row.acceptedEventId
      row.globalPosition = .ok (progressOf row) := by
  have hname : (strip orderStateProjectionName).isEmpty = false := by decide
  have hposition := h.positions row hn.committed
  simp [projectionOrderProgress, progressKey, progressOf, hname, orderStateProjectionEpoch,
    strip_not_empty (hn.named h.sound), hn.sequence,
    strip_not_empty (h.sound.texts row hn.committed).eventId, Nat.pos_iff_ne_zero.mp hposition]

theorem applyRecord_run (h : w.Quiet) (hn : NextEvent w.tables row k) {σ : Type} (st : σ)
    (workerName : String) :
    ∃ state, StoredState (stateParameters
        (projectionOf row.orderId ((w.tables.events row.orderId).take (k+1)))) state ∧
      (PostgresProjectionWorker.applyRecord workerName ⟨row.globalPosition,rowToOrderEvent row⟩).run
          (D.serve i) st (w.put i .opened) =
        some ((.ok ⟨workerName,.applied,some row.globalPosition,some row.orderId,some row.sequence,
            some (projectionOf row.orderId ((w.tables.events row.orderId).take (k+1))).version⟩,st),
          w.put i (.saved state [progressOf row])) := by
  have hread : D.serve i (.selectProjectionState (rowToOrderEvent row).orderId) (w.put i .opened) =
      some (.ok (w.tables.projectionStates row.orderId),w.put i .opened) := by
    have ht : hasNul (rowToOrderEvent row).orderId = false := (h.sound.texts row hn.committed).orderId
    exact serve_read rfl (by simp [Operation.texts, ht]) (fun v hv => by rw [effect, hv]; rfl)
  have hfold : reduceOrderEvent
      (((w.tables.projectionStates row.orderId).map PostgresProjectionWorker.stateOfRow).getD
        (buildEmptyProjectionState (rowToOrderEvent row).orderId)) (rowToOrderEvent row) =
      .ok (projectionOf row.orderId ((w.tables.events row.orderId).take (k+1))) := hn.fold h.sound
  obtain ⟨state,hstored,hupsert⟩ := h.serve_upsert (D := D) (i := i) hn
  have hadvance := h.serve_advance (D := D) (i := i) hn state
  refine ⟨state,hstored,?_⟩
  have hprogress : projectionOrderProgress (progressKey (rowToOrderEvent row).orderId)
      (rowToOrderEvent row).sequence (rowToOrderEvent row).eventId row.globalPosition =
        .ok (progressOf row) := h.progress_ok hn
  simp only [PostgresProjectionWorker.applyRecord, PostgresProjectionWorker.loadState,
    PostgresProjectionWorker.saveState, PostgresProjectionWorker.advanceProgress,
    Routine.run_bind, Routine.run_perform, Routine.run_pure, Routine.run_ofExcept, hread,
    Option.map_some, Option.bind_some, hfold, hprogress]
  rw [stateParameters] at hupsert
  simp only [hupsert, hadvance, Option.map_some, Option.bind_some, Routine.run_pure]
  rfl

omit [Fintype ι] in
theorem commit_put (h : w.Quiet) (hx : x.failed = false) :
    (w.put i x).commit i = ⟨w.tables.apply x,w.transactions⟩ := by
  have hself : Function.update w.transactions i .idle = w.transactions := by
    rw [Function.update_eq_self_iff, h.idle]
  simp [World.commit, World.put, World.visible, hx, hself]

theorem serve_begin (h : w.Quiet) : D.serve i .begin w = some (.ok (),w.put i .opened) := by
  rw [Database.serve_begin, h.idle]
  rfl

theorem processNext_noEvent (h : w.Quiet) {σ : Type} (st : σ) (workerName : String)
    (he : w.tables.eligible orderStateProjectionName orderStateProjectionEpoch 1 = []) :
    (PostgresProjectionWorker.processNext workerName).run (D.serve i) st w =
      some ((.ok ⟨workerName,.noEvent,none,none,none,none⟩,st),w) := by
  have hstatus : D.serve i .transactionStatus w = some (.ok true,w) := by
    rw [Database.serve_transactionStatus, h.idle]
    rfl
  have hselect : D.serve i (.selectEligible orderStateProjectionName orderStateProjectionEpoch 1)
      (w.put i .opened) = some (.ok [],w.put i .opened) :=
    serve_read rfl (by decide) (fun v hv => by rw [effect, hv, he])
  have hcommit : D.serve i .commit (w.put i .opened) = some (.ok (),w) := by
    rw [Database.serve_commit, h.commit_put rfl, Tables.apply_opened]
  simp only [PostgresProjectionWorker.processNext, PostgresProjectionWorker.withTransaction,
    PostgresProjectionWorker.loadEligible, Routine.run_bind, Routine.run_perform, hstatus,
    Option.map_some, Option.bind_some, if_true, h.serve_begin, Routine.run_attempt, hselect,
    Routine.run_pure, List.map_nil, hcommit]

theorem processNext_applied (h : w.Quiet) {σ : Type} (st : σ) (workerName : String)
    {rest : List OrderEventRow}
    (he : w.tables.eligible orderStateProjectionName orderStateProjectionEpoch 1 = row :: rest)
    (hn : NextEvent w.tables row k) :
    ∃ state result, StoredState (stateParameters
        (projectionOf row.orderId ((w.tables.events row.orderId).take (k+1)))) state ∧
      result.action = .applied ∧
      (PostgresProjectionWorker.processNext workerName).run (D.serve i) st w =
        some ((.ok result,st),⟨w.tables.project state (progressOf row),w.transactions⟩) := by
  have hstatus : D.serve i .transactionStatus w = some (.ok true,w) := by
    rw [Database.serve_transactionStatus, h.idle]
    rfl
  have hselect : D.serve i (.selectEligible orderStateProjectionName orderStateProjectionEpoch 1)
      (w.put i .opened) = some (.ok (row :: rest),w.put i .opened) :=
    serve_read rfl (by decide) (fun v hv => by rw [effect, hv, he])
  obtain ⟨state,hstored,hrun⟩ := h.applyRecord_run (D := D) (i := i) hn st workerName
  have hcommit : D.serve i .commit (w.put i (.saved state [progressOf row])) =
      some (.ok (),⟨w.tables.project state (progressOf row),w.transactions⟩) := by
    rw [Database.serve_commit, h.commit_put rfl]
    simp [Tables.apply, Transaction.saved, Transaction.opened, Transaction.idle, Tables.project]
  refine ⟨state,⟨workerName,.applied,some row.globalPosition,some row.orderId,some row.sequence,
    some (projectionOf row.orderId ((w.tables.events row.orderId).take (k+1))).version⟩,hstored,rfl,?_⟩
  simp only [PostgresProjectionWorker.processNext, PostgresProjectionWorker.withTransaction,
    PostgresProjectionWorker.loadEligible, Routine.run_bind, Routine.run_perform, hstatus,
    Option.map_some, Option.bind_some, if_true, h.serve_begin, Routine.run_attempt, hselect,
    Routine.run_pure, List.map_cons, hrun, hcommit]

end World.Quiet

/-! ## Repeated calls -/

namespace World.Quiet
variable {row : OrderEventRow} {k : ℕ}

omit [DecidableEq ι] [Fintype ι] in
theorem nextEvent (h : w.Quiet) {limit : ℕ} {rest : List OrderEventRow}
    (he : w.tables.eligible orderStateProjectionName orderStateProjectionEpoch limit = row :: rest) :
    ∃ k, NextEvent w.tables row k := by
  have hmem : row ∈ w.tables.eligible orderStateProjectionName orderStateProjectionEpoch limit := by
    rw [he]
    exact List.mem_cons_self ..
  have hsorted := List.mem_of_mem_take hmem
  rw [List.mem_insertionSort, List.mem_filter, decide_eq_true_eq] at hsorted
  obtain ⟨hcommitted,hnext⟩ := hsorted
  obtain ⟨k,hk⟩ := h.projected row.orderId
  obtain ⟨n,hn,hsequence⟩ := h.sound.getElem_history hcommitted
  have hlast := hk.lastSequence_eq
  change row.sequence = w.tables.lastSequence (progressKey row.orderId)+1 at hnext
  obtain rfl : n = k := by omega
  exact ⟨n,hcommitted,hn,hsequence,hk⟩

omit [DecidableEq ι] [Fintype ι] in
theorem eligible_ne_nil (h : w.Quiet) {orderId : String} (hk : w.tables.ProjectedTo orderId k)
    (hlt : k < (w.tables.history orderId).length) :
    w.tables.eligible orderStateProjectionName orderStateProjectionEpoch 1 ≠ [] := by
  rw [h.sound.history_eq] at hlt
  obtain ⟨r,hr,horder,hsequence⟩ := h.sound.sequence_mem (Nat.le_add_left 1 k) hlt
  have hmem : r ∈ (w.tables.orderEvents.filter (fun e => e.sequence =
      w.tables.lastSequence ⟨orderStateProjectionName,orderStateProjectionEpoch,e.orderId⟩+1)).insertionSort
      (fun a b => a.globalPosition ≤ b.globalPosition) := by
    rw [List.mem_insertionSort, List.mem_filter, decide_eq_true_eq]
    refine ⟨hr,?_⟩
    change r.sequence = w.tables.lastSequence (progressKey r.orderId)+1
    rw [horder, hsequence, hk.lastSequence_eq, Nat.cast_succ]
  intro hnil
  rw [Tables.eligible, List.take_eq_nil_iff] at hnil
  rcases hnil with h0 | hnil
  · exact absurd h0 one_ne_zero
  · rw [hnil] at hmem
    simp at hmem

omit [DecidableEq ι] [Fintype ι] in
/-- The worker finds nothing exactly when every projection is the whole fold. -/
theorem eligible_eq_nil_iff (h : w.Quiet) :
    w.tables.eligible orderStateProjectionName orderStateProjectionEpoch 1 = [] ↔
      ∀ orderId, reduceHistory orderId (w.tables.events orderId) = .ok (w.tables.projection orderId) := by
  constructor
  · intro hnil orderId
    obtain ⟨k,hk⟩ := h.projected orderId
    have hge : ¬k < (w.tables.history orderId).length := fun hlt => h.eligible_ne_nil hk hlt hnil
    have htake : (w.tables.events orderId).take k = w.tables.events orderId := by
      apply List.take_of_length_le
      rw [Tables.events, List.length_map]
      exact not_lt.mp hge
    rw [← hk.fold_eq, htake]
  · intro hall
    cases he : w.tables.eligible orderStateProjectionName orderStateProjectionEpoch 1 with
    | nil => rfl
    | cons row rest =>
      obtain ⟨k,hn⟩ := h.nextEvent he
      have hlt := (List.getElem?_eq_some_iff.mp hn.event).1
      have hwhole := (reduceHistory_version (hall row.orderId)).2
      have hpart := (reduceHistory_version hn.stands.fold_eq).2
      rw [List.length_take, Tables.events, List.length_map] at hpart
      rw [Tables.events, List.length_map] at hwhole
      omega

end World.Quiet

namespace Tables

/-- How many committed events are not projected yet. -/
def lag (t : Tables) : ℕ :=
  ∑ orderId ∈ (t.orderEvents.map (fun r => r.orderId)).toFinset,
    ((t.history orderId).length-(t.lastSequence (progressKey orderId)).toNat)

theorem lag_project {t : Tables} {row : OrderEventRow} {k : ℕ} (hn : NextEvent t row k)
    (state : ProjectionStateRow) : (t.project state (progressOf row)).lag+1 = t.lag := by
  have hmem : row.orderId ∈ (t.orderEvents.map (fun r => r.orderId)).toFinset :=
    List.mem_toFinset.mpr (List.mem_map_of_mem hn.committed)
  have hlt := (List.getElem?_eq_some_iff.mp hn.event).1
  have hsame : ∀ o ∈ (t.orderEvents.map (fun r => r.orderId)).toFinset.erase row.orderId,
      (t.history o).length-((t.project state (progressOf row)).lastSequence (progressKey o)).toNat =
        (t.history o).length-(t.lastSequence (progressKey o)).toNat := by
    intro o ho
    have hne : progressKey o ≠ (progressOf row).key :=
      fun hk => (Finset.mem_erase.mp ho).1 (congrArg ProgressKey.orderId hk)
    simp [Tables.project, lastSequence, hne]
  have hlast : (t.project state (progressOf row)).lastSequence (progressKey row.orderId) = k+1 := by
    simp [Tables.project, lastSequence, progressOf, hn.sequence]
  have hsum := Finset.add_sum_erase _
    (fun o => (t.history o).length-(t.lastSequence (progressKey o)).toNat) hmem
  have hsum' := Finset.add_sum_erase _ (fun o => (t.history o).length-
    ((t.project state (progressOf row)).lastSequence (progressKey o)).toNat) hmem
  have hlag : (t.project state (progressOf row)).lag =
      ∑ o ∈ (t.orderEvents.map (fun r => r.orderId)).toFinset, ((t.history o).length-
        ((t.project state (progressOf row)).lastSequence (progressKey o)).toNat) := rfl
  rw [hlag, ← hsum', lag, ← hsum, Finset.sum_congr rfl hsame, hlast, hn.stands.lastSequence_eq]
  omega

end Tables

namespace World.Quiet

omit [DecidableEq ι] [Fintype ι] in
theorem lag_eq_zero (h : w.Quiet)
    (he : w.tables.eligible orderStateProjectionName orderStateProjectionEpoch 1 = []) :
    w.tables.lag = 0 := by
  apply Finset.sum_eq_zero
  intro orderId _
  obtain ⟨k,hk⟩ := h.projected orderId
  have hge : ¬k < (w.tables.history orderId).length := fun hlt => h.eligible_ne_nil hk hlt he
  rw [hk.lastSequence_eq]
  omega

omit [DecidableEq ι] [Fintype ι] in
theorem project (h : w.Quiet) {row : OrderEventRow} {k : ℕ} (hn : NextEvent w.tables row k)
    {state : ProjectionStateRow} (hstored : StoredState (stateParameters
      (projectionOf row.orderId ((w.tables.events row.orderId).take (k+1)))) state) :
    World.Quiet ⟨w.tables.project state (progressOf row),w.transactions⟩ := by
  have hlegal := (h.sound.legal_events row.orderId).take (k+1)
  have hstate := hstored.stateOfRow_eq hlegal.canonical
  refine ⟨h.idle,⟨h.sound.legal,h.sound.recorded,h.sound.texts⟩,h.positions,fun orderId => ?_⟩
  by_cases ho : row.orderId = orderId
  · subst ho
    exact ⟨k+1,.project hn.event hn.sequence rfl hlegal.reduce hstate⟩
  · obtain ⟨n,hn'⟩ := h.projected orderId
    refine ⟨n,hn'.project_ne ho ?_⟩
    have hid : state.orderId = row.orderId := by
      have := (reduceHistory_version hlegal.reduce).1
      rw [← hstate] at this
      exact this
    rwa [hid]

end World.Quiet

/-- Calls of the worker one after another, each on some connection. -/
def processCalls (D : Database ι) : List (ι × String) → World ι →
    Option (List (Except PyException PostgresProjectionWorkerResult) × World ι)
  | [], w => some ([],w)
  | call :: calls, w => do
    let (result,w) ← (PostgresProjectionWorker.program call.2).run (D.serve call.1) w
    let (results,w) ← processCalls D calls w
    some (result :: results,w)

theorem PostgresProjectionWorker.program_run {workerName : String}
    {result : Except PyException PostgresProjectionWorkerResult} {w' : World ι}
    (h : (processNext (σ := Unit) workerName).run (D.serve i) () w = some ((result,()),w')) :
    (program workerName).run (D.serve i) w = some (result,w') := by
  rw [program, Program.run_bind]
  change ((processNext (σ := Unit) workerName).run (D.serve i) () w).bind _ = _
  rw [h]
  rfl

/-- Calls apply one event each until none is left, and find nothing from then on. -/
theorem World.Quiet.calls_drain (h : w.Quiet) (calls : List (ι × String)) :
    ∃ (results : List PostgresProjectionWorkerResult) (w' : World ι),
      processCalls D calls w = some (results.map .ok,w') ∧
      results.map (fun r => r.action) = List.replicate (min calls.length w.tables.lag) .applied ++
        List.replicate (calls.length-w.tables.lag) .noEvent := by
  induction calls generalizing w with
  | nil => exact ⟨[],w,rfl,by simp⟩
  | cons call calls ih =>
    cases he : w.tables.eligible orderStateProjectionName orderStateProjectionEpoch 1 with
    | nil =>
      obtain ⟨results,w',hrun,hactions⟩ := ih h
      have hcall := PostgresProjectionWorker.program_run
        (h.processNext_noEvent (D := D) (i := call.1) () call.2 he)
      refine ⟨⟨call.2,.noEvent,none,none,none,none⟩ :: results,w',?_,?_⟩
      · simp [processCalls, hcall, hrun]
      · rw [h.lag_eq_zero he] at hactions ⊢
        simp [hactions, List.replicate_succ]
    | cons row rest =>
      obtain ⟨k,hn⟩ := h.nextEvent he
      obtain ⟨state,result,hstored,happlied,hrun⟩ :=
        h.processNext_applied (D := D) (i := call.1) () call.2 he hn
      have hcall := PostgresProjectionWorker.program_run hrun
      obtain ⟨results,w',hrest,hactions⟩ := ih (h.project hn hstored)
      refine ⟨result :: results,w',?_,?_⟩
      · simp [processCalls, hcall, hrest]
      · rw [← Tables.lag_project hn state]
        simp [hactions, happlied, List.replicate_succ]

end StreamingCompass
