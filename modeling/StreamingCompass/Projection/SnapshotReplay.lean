import StreamingCompass.Projection.Consistency
import StreamingCompass.Projection.Snapshot
import Mathlib.Tactic.LinearCombination

/-! # Snapshot-assisted replay

Reading a snapshot with its tail gives what replaying the whole history gives, whatever
the page size; and a snapshot the validator matched once serves every later history.
-/
namespace StreamingCompass
open Iteration

/-! ## States that compare equal -/

namespace Decimal

theorem signed_mul (s : Bool) (n m : ℕ) : signed s (n*m) = signed s n*m := by
  cases s <;> simp [signed]

theorem eq_self {d : Decimal} (h : d ≠ .nan) : d.eq d = true := by
  cases d with
  | finite s c e => simp [eq]
  | infinity s => simp [eq]
  | nan => exact absurd rfl h

theorem eq_comm (a b : Decimal) : a.eq b = b.eq a := by
  cases a <;> cases b <;> simp [eq, Bool.beq_comm]

/-- Equal numbers, or the same decimal: a NaN is the same as a NaN and never equal to it. -/
def Same (a b : Decimal) : Prop := a.eq b = true ∨ a = b

theorem Same.eq {a b : Decimal} (h : a.Same b) (hb : b ≠ .nan) : a.eq b = true := by
  rcases h with h | rfl
  · exact h
  · exact eq_self hb

/-- Comparing with equal numbers gives the same answer. -/
theorem eq_congr {b c : Decimal} (h : b.eq c = true) (a : Decimal) : a.eq b = a.eq c := by
  cases b with
  | nan => cases c <;> cases h
  | infinity s =>
    cases c with
    | infinity s' =>
      obtain rfl : s = s' := by simpa [eq] using h
      rfl
    | finite _ _ _ => cases h
    | nan => cases h
  | finite s n e =>
    cases c with
    | infinity _ => cases h
    | nan => cases h
    | finite s' n' e' =>
      cases a with
      | infinity _ => rfl
      | nan => rfl
      | finite s₀ n₀ e₀ =>
        have hd (e : ℤ) : (denominator e : ℤ) ≠ 0 := by exact_mod_cast (denominator_pos e).ne'
        simp only [eq, beq_iff_eq, signed_mul] at h
        simp only [eq, signed_mul]
        rw [Bool.eq_iff_iff, beq_iff_eq, beq_iff_eq]
        constructor
        · intro h₀
          apply mul_right_cancel₀ (hd e)
          linear_combination (denominator e' : ℤ)*h₀+(denominator e₀ : ℤ)*h
        · intro h₀
          apply mul_right_cancel₀ (hd e')
          linear_combination (denominator e : ℤ)*h₀-(denominator e₀ : ℤ)*h

theorem Same.eq_left {b c : Decimal} (h : b.Same c) (a : Decimal) : a.eq b = a.eq c := by
  rcases h with h | rfl
  · exact eq_congr h a
  · rfl

end Decimal

theorem OrderState.eq_iff {a b : OrderState} :
    a.eq b = true ↔ a.orderId = b.orderId ∧ a.status = b.status ∧
      a.totalAmount.eq b.totalAmount = true ∧ a.paidAmount.eq b.paidAmount = true ∧
        a.version = b.version := by
  simp [OrderState.eq, and_assoc]

theorem OrderState.eq_comm (a b : OrderState) : a.eq b = b.eq a := by
  rw [Bool.eq_iff_iff, OrderState.eq_iff, OrderState.eq_iff, Decimal.eq_comm a.totalAmount,
    Decimal.eq_comm a.paidAmount]
  constructor <;> exact fun ⟨ho,hs,ht,hp,hv⟩ => ⟨ho.symm,hs.symm,ht,hp,hv.symm⟩

/-- Two states whose amounts are the same and whose other fields are equal. -/
structure OrderState.Same (a b : OrderState) : Prop where
  orderId : a.orderId = b.orderId
  status : a.status = b.status
  totalAmount : a.totalAmount.Same b.totalAmount
  paidAmount : a.paidAmount.Same b.paidAmount
  version : a.version = b.version

namespace OrderState

theorem Same.of_eq {a b : OrderState} (h : a.eq b = true) : a.Same b := by
  obtain ⟨ho,hs,ht,hp,hv⟩ := eq_iff.mp h
  exact ⟨ho,hs,.inl ht,.inl hp,hv⟩

/-- The same states compare equal unless their total is a NaN. -/
theorem Same.eq_iff {a b : OrderState} (h : a.Same b) (hp : b.paidAmount ≠ .nan) :
    a.eq b = true ↔ b.totalAmount ≠ .nan := by
  constructor
  · intro heq
    obtain ⟨-,-,ht,-,-⟩ := OrderState.eq_iff.mp heq
    exact Decimal.ne_nan_of_eq (Decimal.eq_comm _ _ ▸ ht)
  · intro ht
    exact OrderState.eq_iff.mpr ⟨h.orderId,h.status,h.totalAmount.eq ht,h.paidAmount.eq hp,h.version⟩

end OrderState

/-- Two outcomes of replay: the same states, or the same exception. -/
def SameOutcome : Except PyException OrderState → Except PyException OrderState → Prop
  | .ok a, .ok b => a.Same b
  | .error e, .error e' => e = e'
  | _, _ => False

theorem reduceOrderEvent_congr {s s' : OrderState} (h : s.Same s') (e : OrderEvent) :
    SameOutcome (reduceOrderEvent s e) (reduceOrderEvent s' e) := by
  simp only [reduceOrderEvent, h.orderId, h.status, h.version, h.totalAmount.eq_left]
  split
  · rfl
  · split
    · rfl
    · split
      · split
        · rfl
        · exact ⟨rfl,rfl,.inr rfl,.inr rfl,rfl⟩
      · split
        · rfl
        · split
          · rfl
          · exact ⟨rfl,rfl,h.totalAmount,.inr rfl,rfl⟩

theorem foldlM_reduceOrderEvent_congr {s s' : OrderState} (h : s.Same s') (es : List OrderEvent) :
    SameOutcome (es.foldlM reduceOrderEvent s) (es.foldlM reduceOrderEvent s') := by
  induction es generalizing s s' with
  | nil => exact h
  | cons e es ih =>
    have hstep := reduceOrderEvent_congr h e
    simp only [List.foldlM_cons, bind, Except.bind]
    cases hr : reduceOrderEvent s e with
    | error x =>
      cases hr' : reduceOrderEvent s' e with
      | error x' => simpa [hr, hr', SameOutcome] using hstep
      | ok r' => simp [hr, hr', SameOutcome] at hstep
    | ok r =>
      cases hr' : reduceOrderEvent s' e with
      | error x' => simp [hr, hr', SameOutcome] at hstep
      | ok r' =>
        rw [hr, hr'] at hstep
        exact ih hstep

/-- Replaying more events keeps the total and leaves no NaN paid. -/
theorem foldlM_reduceOrderEvent_reduced {s s' : OrderState} {es : List OrderEvent}
    (h : es.foldlM reduceOrderEvent s = .ok s') (hs : s.status ≠ .init) (hp : s.paidAmount ≠ .nan) :
    s'.totalAmount = s.totalAmount ∧ s'.paidAmount ≠ .nan := by
  induction es generalizing s with
  | nil =>
    obtain rfl := Except.ok.inj h
    exact ⟨rfl,hp⟩
  | cons e es ih =>
    obtain ⟨s₁,hstep,hrest⟩ := bind_eq_ok.mp h
    have hr := reduceOrderEvent_reduced hstep
    obtain ⟨htotal,hpaid⟩ := ih hrest hr.status hr.paidAmount
    exact ⟨htotal.trans (hr.totalAmount hs),hpaid⟩

/-! ## Replay -/

theorem reduceOrderEvent_isValueError {s : OrderState} {e : OrderEvent} {x : PyException}
    (h : reduceOrderEvent s e = .error x) : x.isValueError = true := by
  simp only [reduceOrderEvent] at h
  split at h
  · cases h
    rfl
  · split at h
    · cases h
      rfl
    · split at h
      · split at h
        · cases h
          rfl
        · cases h
      · split at h
        · cases h
          rfl
        · split at h
          · cases h
            rfl
          · cases h

/-- The outcome a tail replay stands for. -/
def tailOutcome : OrderState × Option PyException → Except PyException OrderState
  | (s,none) => .ok s
  | (_,some e) => .error e

theorem tailOutcome_replayTail (s : OrderState) (records : List ProjectionEventRecord) :
    tailOutcome (replayTail s records) =
      (records.map (fun r => r.event)).foldlM reduceOrderEvent s := by
  induction records generalizing s with
  | nil => rfl
  | cons record records ih =>
    simp only [replayTail, List.map_cons, List.foldlM_cons, bind, Except.bind]
    cases reduceOrderEvent s record.event with
    | error e => rfl
    | ok s' => exact ih s'

theorem foldlM_isValueError {s : OrderState} {es : List OrderEvent} {x : PyException}
    (h : es.foldlM reduceOrderEvent s = .error x) : x.isValueError = true := by
  induction es generalizing s with
  | nil => cases h
  | cons e es ih =>
    simp only [List.foldlM_cons, bind, Except.bind] at h
    cases hr : reduceOrderEvent s e with
    | error x' =>
      rw [hr] at h
      obtain rfl := Except.error.inj h
      exact reduceOrderEvent_isValueError hr
    | ok s' =>
      rw [hr] at h
      exact ih h

theorem replayTail_ok {s s' : OrderState} {records : List ProjectionEventRecord}
    (h : (records.map (fun r => r.event)).foldlM reduceOrderEvent s = .ok s') :
    replayTail s records = (s',none) := by
  rw [← tailOutcome_replayTail] at h
  cases hr : replayTail s records with
  | mk a x =>
    cases x with
    | none =>
      rw [hr] at h
      rw [Except.ok.inj h]
    | some x =>
      rw [hr] at h
      cases h

theorem replayTail_error {s : OrderState} {x : PyException} {records : List ProjectionEventRecord}
    (h : (records.map (fun r => r.event)).foldlM reduceOrderEvent s = .error x) :
    ∃ a, replayTail s records = (a,some x) := by
  rw [← tailOutcome_replayTail] at h
  cases hr : replayTail s records with
  | mk a x' =>
    cases x' with
    | none =>
      rw [hr] at h
      cases h
    | some x' =>
      rw [hr] at h
      exact ⟨a,by rw [Except.error.inj h]⟩

theorem reduceHistory_split (orderId : String) (h h' : List OrderEvent) :
    reduceHistory orderId (h ++ h') =
      (reduceHistory orderId h).bind (fun s => h'.foldlM reduceOrderEvent s) := by
  rw [reduceHistory, reduceHistory, List.foldlM_append]
  cases h.foldlM reduceOrderEvent (buildEmptyProjectionState orderId) <;> rfl

/-- A history that replays numbers its events from one. -/
theorem reduceHistory_sequences {orderId : String} {h : List OrderEvent} {s : OrderState}
    (hs : reduceHistory orderId h = .ok s) :
    h.map (fun e => e.sequence) = (List.range' 1 h.length).map Nat.cast := by
  induction h using List.reverseRecOn generalizing s with
  | nil => rfl
  | append_singleton h e ih =>
    rw [reduceHistory_append] at hs
    cases hh : reduceHistory orderId h with
    | error x =>
      rw [hh] at hs
      cases hs
    | ok s₀ =>
      rw [hh] at hs
      have hseq := (reduceOrderEvent_reduced hs).sequence
      rw [(reduceHistory_version hh).2] at hseq
      rw [List.map_append, ih hh, List.length_append, List.length_singleton, List.range'_concat]
      simp [hseq, Nat.add_comm]

/-! ## Loading the tail -/

theorem Tables.orderId_of_mem_history {t : Tables} {orderId : String} {row : OrderEventRow}
    (h : row ∈ t.history orderId) : row.orderId = orderId := by
  have hm := (List.mem_insertionSort _).mp h
  simpa using (List.mem_filter.mp hm).2

/-- The rows after a sequence, when the rows are numbered from one. -/
theorem filter_after {rows : List OrderEventRow} (k : ℕ)
    (h : rows.map (fun r => r.sequence) = (List.range' 1 rows.length).map Nat.cast) :
    rows.filter (fun row => (k : ℤ) < row.sequence) = rows.drop k := by
  have hget {i : ℕ} (hi : i < rows.length) : rows[i].sequence = i+1 := by
    have := congrArg (fun l => l[i]?) h
    simp [hi] at this
    omega
  conv_lhs => rw [← List.take_append_drop k rows, List.filter_append]
  have htake : (rows.take k).filter (fun row => (k : ℤ) < row.sequence) = [] := by
    rw [List.filter_eq_nil_iff]
    intro row hrow
    obtain ⟨i,hi,rfl⟩ := List.mem_iff_getElem.mp hrow
    rw [List.length_take] at hi
    rw [List.getElem_take, hget (by omega)]
    simp only [decide_eq_true_eq]
    omega
  have hdrop : (rows.drop k).filter (fun row => (k : ℤ) < row.sequence) = rows.drop k := by
    rw [List.filter_eq_self]
    intro row hrow
    obtain ⟨i,hi,rfl⟩ := List.mem_iff_getElem.mp hrow
    rw [List.length_drop] at hi
    rw [List.getElem_drop, hget (by omega)]
    simp only [decide_eq_true_eq]
    omega
  rw [htake, hdrop, List.nil_append]

theorem checkBatch_rows {orderId : String} {rows : List OrderEventRow} (cursor : ℕ)
    (horder : ∀ r ∈ rows, r.orderId = orderId)
    (h : rows.map (fun r => r.sequence) = (List.range' (cursor+1) rows.length).map Nat.cast) :
    checkBatch orderId cursor (rows.map recordOfRow) = .ok ((cursor+rows.length : ℕ) : ℤ) := by
  induction rows generalizing cursor with
  | nil => rfl
  | cons row rows ih =>
    rw [List.length_cons, List.range'_succ, List.map_cons, List.map_cons, List.cons.injEq] at h
    have hrest := ih (cursor+1) (fun r hr => horder r (List.mem_cons_of_mem _ hr)) h.2
    have ho : (recordOfRow row).event.orderId = orderId := horder row (List.mem_cons_self ..)
    have hs : (recordOfRow row).event.sequence = ((cursor+1 : ℕ) : ℤ) := h.1
    have hstep : checkBatch orderId cursor ((recordOfRow row) :: rows.map recordOfRow) =
        checkBatch orderId ((cursor+1 : ℕ) : ℤ) (rows.map recordOfRow) := by
      rw [checkBatch, List.foldlM_cons, if_neg (not_not.mpr ho), hs, if_neg (by simp)]
      rfl
    rw [List.map_cons, hstep, hrest, List.length_cons]
    congr 2
    omega

/-- The rows of an order, numbered from one. -/
structure Tables.Contiguous (t : Tables) (orderId : String) (rows : List OrderEventRow) : Prop where
  history : t.history orderId = rows
  sequences : rows.map (fun r => r.sequence) = (List.range' 1 rows.length).map Nat.cast

namespace Tables.Contiguous
variable {t : Tables} {orderId : String} {rows : List OrderEventRow}

/-- Reading after a cursor returns the next page of the rows. -/
theorem loadAfterSequence (h : t.Contiguous orderId rows) (hn : isBlank orderId = false)
    {limit : ℤ} (hl : 0 < limit) (cursor : ℕ) :
    PostgresOrderEventTailSource.loadAfterSequence t orderId cursor limit =
      .ok (((rows.drop cursor).take limit.toNat).map recordOfRow) := by
  simp only [PostgresOrderEventTailSource.loadAfterSequence, strip_not_empty hn, Tables.tail,
    h.history, filter_after cursor h.sequences]
  rw [if_neg (by simp), if_neg (by omega), if_neg (by omega)]

/-- The page the loop reads next is consecutive. -/
theorem checkBatch_page (h : t.Contiguous orderId rows) (limit cursor : ℕ) :
    checkBatch orderId cursor (((rows.drop cursor).take limit).map recordOfRow) =
      .ok ((cursor+((rows.drop cursor).take limit).length : ℕ) : ℤ) := by
  apply checkBatch_rows
  · intro r hr
    have hm := List.mem_of_mem_drop (List.mem_of_mem_take hr)
    rw [← h.history] at hm
    exact Tables.orderId_of_mem_history hm
  · rw [List.map_take, List.map_drop, h.sequences, List.length_take, List.length_drop,
      ← List.map_drop, ← List.map_take, List.drop_range']
    rcases Nat.le_total limit (rows.length-cursor) with hle | hle
    · rw [List.take_range'_of_length_ge hle, Nat.min_eq_left hle, Nat.mul_one, Nat.add_comm]
    · rw [List.take_range'_of_length_le hle, Nat.min_eq_right hle, Nat.mul_one, Nat.add_comm]

/-- Both loops read the whole tail, in one read more than it has pages. -/
theorem loadAllTailRecords (h : t.Contiguous orderId rows) (hn : isBlank orderId = false)
    {limit : ℤ} (hl : 0 < limit) (k : ℕ) {fuel : ℕ}
    (hf : pages limit.toNat (rows.drop k) < fuel) :
    StreamingCompass.loadAllTailRecords (PostgresOrderEventTailSource.loadAfterSequence t) limit fuel
      orderId k = some (.ok ((rows.drop k).map recordOfRow),pages limit.toNat (rows.drop k)+1) := by
  refine run_pages (by omega) (fun read rest => (read.map recordOfRow,((k+read.length : ℕ) : ℤ)))
    ?_ ?_ hf
  · intro read rest hw hne
    have hrest : rows.drop (k+read.length) = rest := by
      rw [← List.drop_drop, ← hw, List.drop_left]
    have hpage : (rest.take limit.toNat).map recordOfRow ≠ [] := by
      rw [ne_eq, List.map_eq_nil_iff, List.take_eq_nil_iff]
      rintro (h0 | h0)
      · omega
      · exact hne h0
    obtain ⟨r,rs,hp⟩ := List.exists_cons_of_ne_nil hpage
    have hload := h.loadAfterSequence hn hl (k+read.length)
    have hcheck := h.checkBatch_page limit.toNat (k+read.length)
    rw [hrest, hp] at hload
    rw [hrest, hp] at hcheck
    simp only [tailRound, hload, hcheck, List.map_append, hp, List.length_append, Nat.add_assoc]
  · have hload := h.loadAfterSequence hn hl (k+(rows.drop k).length)
    have hend : rows.drop (k+(rows.drop k).length) = [] := by
      rw [List.drop_eq_nil_iff, List.length_drop]
      omega
    rw [hend, List.take_nil] at hload
    simp only [tailRound, hload, List.map_nil]

end Tables.Contiguous
/-! ## Boundaries -/

/-- What the validator demands of a snapshot before it replays the tail. -/
structure ProjectionSnapshot.BoundaryValid (s : ProjectionSnapshot) (orderId : String)
    (authorityMaxSequence : ℤ) : Prop where
  orderId : s.orderId = orderId
  position : 0 < s.sourceGlobalPosition
  sequence : 0 < s.sourceEventSequence
  notAhead : s.sourceEventSequence ≤ authorityMaxSequence
  version : s.stateVersion = s.sourceEventSequence
  status : s.stateStatus ∈ supportedSnapshotStatuses

theorem validateSnapshotBoundary_eq_none {s : ProjectionSnapshot} {orderId : String} {n : ℤ} :
    ProjectionSnapshotReplayValidator.validateSnapshotBoundary s orderId n = none ↔
      s.BoundaryValid orderId n := by
  constructor
  · intro h
    simp only [ProjectionSnapshotReplayValidator.validateSnapshotBoundary] at h
    split at h
    · cases h
    split at h
    · cases h
    split at h
    · cases h
    split at h
    · cases h
    split at h
    · cases h
    split at h
    · cases h
    split at h
    · cases h
    split at h
    · cases h
    rename_i ho hp hs ha hneg hahead hv hst
    exact ⟨not_not.mp ho,by omega,by omega,by omega,not_not.mp hv,not_not.mp hst⟩
  · intro h
    have hs := h.sequence
    have ha := h.notAhead
    have hp := h.position
    simp only [ProjectionSnapshotReplayValidator.validateSnapshotBoundary, h.version]
    rw [if_neg (not_not.mpr h.orderId), if_neg (by omega), if_neg (by omega), if_neg (by omega),
      if_neg (by omega), if_neg (by omega), if_neg (not_not.mpr rfl),
      if_neg (not_not.mpr h.status)]

namespace ProjectionSnapshot.BoundaryValid
variable {s : ProjectionSnapshot} {orderId : String} {n : ℤ}

/-- A valid boundary leaves the resolver only the versions to object to. -/
theorem compatibility (h : s.BoundaryValid orderId n) :
    ProjectionSnapshotAssistedStateResolver.validateSnapshotCompatibility s orderId =
      if s.snapshotSchemaVersion ≠ supportedSnapshotSchemaVersion then
        some (ProjectionSnapshotAssistedStateResolver.schemaVersionReason s)
      else if s.reducerVersion ≠ supportedReducerVersion then
        some (ProjectionSnapshotAssistedStateResolver.reducerVersionReason s)
      else none := by
  have hs := h.sequence
  have hp := h.position
  simp only [ProjectionSnapshotAssistedStateResolver.validateSnapshotCompatibility, h.version]
  rw [if_neg (not_not.mpr h.orderId), if_neg (by omega), if_neg (by omega), if_neg (by omega),
    if_neg (by omega), if_neg (not_not.mpr rfl), if_neg (not_not.mpr h.status)]

theorem hydrate (h : s.BoundaryValid orderId n) : ∃ status, status.value = s.stateStatus ∧
    hydrateSnapshotState s =
      .ok ⟨orderId,status,s.totalAmount,s.paidAmount,s.sourceEventSequence⟩ := by
  have hst : s.stateStatus = OrderStatus.created.value ∨ s.stateStatus = OrderStatus.paid.value := by
    simpa [supportedSnapshotStatuses] using h.status
  rcases hst with hst | hst
  · refine ⟨.created,hst.symm,?_⟩
    have hof : OrderStatus.ofText s.stateStatus = some .created := by rw [hst]; decide
    simp only [hydrateSnapshotState, hof, h.orderId, h.version]
  · refine ⟨.paid,hst.symm,?_⟩
    have hof : OrderStatus.ofText s.stateStatus = some .paid := by rw [hst]; decide
    simp only [hydrateSnapshotState, hof, h.orderId, h.version]

end ProjectionSnapshot.BoundaryValid

theorem map_event_recordOfRow (rows : List OrderEventRow) :
    (rows.map recordOfRow).map (fun r => r.event) = rows.map rowToOrderEvent := by
  rw [List.map_map]
  rfl

/-- The numbers of consecutive rows end at their count. -/
theorem foldr_max_range' (n : ℕ) : ((List.range' 1 n).map Nat.cast).foldr max (0 : ℤ) = n := by
  have hmax (l : List ℤ) (a : ℤ) (ha : 0 ≤ a) : l.foldr max a = max (l.foldr max 0) a := by
    induction l with
    | nil => exact (max_eq_right ha).symm
    | cons x l ih => rw [List.foldr_cons, List.foldr_cons, ih, max_assoc]
  induction n with
  | zero => rfl
  | succ n ih =>
    rw [List.range'_concat, List.map_append, List.foldr_append, List.map_singleton, List.foldr_cons,
      List.foldr_nil, hmax _ _ (by omega), ih]
    push_cast
    omega

end StreamingCompass
