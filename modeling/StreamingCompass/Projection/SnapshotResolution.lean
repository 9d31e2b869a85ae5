import StreamingCompass.Projection.SnapshotReplay
import Mathlib.GroupTheory.GroupAction.Ring

/-! # What validator and resolver answer about a snapshot

A snapshot taken at an event resolves to the state of the full replay, and a snapshot
that once matched keeps resolving to it as the history grows.
-/
namespace StreamingCompass
open Iteration

/-- A snapshot whose boundary is event `k` of the rows and whose state is `st`, under the
versions the resolver supports. -/
structure ProjectionSnapshot.Captures (s : ProjectionSnapshot) (orderId : String)
    (rows : List OrderEventRow) (k : ℕ) (st : OrderState) : Prop where
  orderId : s.orderId = orderId
  event : rows[k-1]?.map (fun row => row.acceptedEventId) = some s.sourceEventId
  sequence : s.sourceEventSequence = k
  position : 0 < s.sourceGlobalPosition
  status : s.stateStatus = st.status.value
  totalAmount : s.totalAmount.Same st.totalAmount
  paidAmount : s.paidAmount.Same st.paidAmount
  version : s.stateVersion = st.version
  schemaVersion : s.snapshotSchemaVersion = supportedSnapshotSchemaVersion
  reducerVersion : s.reducerVersion = supportedReducerVersion

/-- A fold over at least one event ends with a step of the reducer. -/
theorem reduceHistory_reduced {orderId : String} {h : List OrderEvent} {st : OrderState}
    (hst : reduceHistory orderId h = .ok st) (hne : h ≠ []) : ∃ st₀ e, Reduced st₀ e st := by
  induction h using List.reverseRecOn with
  | nil => exact absurd rfl hne
  | append_singleton es e ih =>
    rw [reduceHistory_append] at hst
    cases hes : reduceHistory orderId es with
    | error x =>
      rw [hes] at hst
      cases hst
    | ok st₀ =>
      rw [hes] at hst
      exact ⟨st₀,e,reduceOrderEvent_reduced hst⟩

theorem ProjectionSnapshot.Captures.hydrate {s : ProjectionSnapshot} {orderId : String}
    {rows : List OrderEventRow} {k : ℕ} {st : OrderState} (hs : s.Captures orderId rows k st)
    (hst : st.orderId = orderId) : ∃ state, hydrateSnapshotState s = .ok state ∧ state.Same st ∧
      (s.totalAmount = st.totalAmount → s.paidAmount = st.paidAmount → state = st) := by
  have hof : OrderStatus.ofText s.stateStatus = some st.status := by
    rw [hs.status]
    cases st.status <;> decide
  have ho : s.orderId = st.orderId := hs.orderId.trans hst.symm
  refine ⟨⟨s.orderId,st.status,s.totalAmount,s.paidAmount,s.stateVersion⟩,
    by simp only [hydrateSnapshotState, hof],⟨ho,rfl,hs.totalAmount,hs.paidAmount,hs.version⟩,
    fun ht hp => ?_⟩
  rw [ho, ht, hp, hs.version]

theorem ProjectionSnapshot.Captures.boundary {s : ProjectionSnapshot} {orderId : String}
    {rows : List OrderEventRow} {k : ℕ} {st : OrderState} (hs : s.Captures orderId rows k st)
    (hk : 1 ≤ k) (hkn : k ≤ rows.length)
    (hst : reduceHistory orderId ((rows.take k).map rowToOrderEvent) = .ok st) :
    s.BoundaryValid orderId rows.length where
  orderId := hs.orderId
  position := hs.position
  sequence := by rw [hs.sequence]; omega
  notAhead := by rw [hs.sequence]; omega
  version := by
    have hv := (reduceHistory_version hst).2
    rw [List.length_map, List.length_take] at hv
    rw [hs.version, hs.sequence, hv]
    omega
  status := by
    have hne : (rows.take k).map rowToOrderEvent ≠ [] := by
      rw [ne_eq, ← List.length_eq_zero_iff, List.length_map, List.length_take]
      omega
    obtain ⟨_,_,hreduced⟩ := reduceHistory_reduced hst hne
    rw [hs.status]
    cases hc : st.status with
    | init => exact absurd hc hreduced.status
    | created => decide
    | paid => decide

/-! ## Resolving a snapshot of a prefix -/

namespace ProjectionSnapshotAssistedStateResolver
variable {R : ProjectionSnapshotAssistedStateResolver} {fuel reads : ℕ} {orderId : String}
    {s : ProjectionSnapshot} {state : OrderState} {records : List ProjectionEventRecord}

theorem resolveTail_resolved {resolved : OrderState} (hstate : hydrateSnapshotState s = .ok state)
    (hload : loadAllTailRecords R.tailEventSource R.tailEventLimit fuel orderId
      s.sourceEventSequence = some (.ok records,reads))
    (hreplay : replayTail state records = (resolved,none)) :
    R.resolveTail fuel orderId s = some (.ok ⟨orderId,.resolvedFromSnapshot,some resolved,
      some s.snapshotId,some s.sourceGlobalPosition,
      "Projection state resolved from snapshot and tail replay."⟩,reads) := by
  simp [resolveTail, hstate, hload, hreplay]

theorem resolveTail_failed {a : OrderState} {x : PyException}
    (hstate : hydrateSnapshotState s = .ok state)
    (hload : loadAllTailRecords R.tailEventSource R.tailEventLimit fuel orderId
      s.sourceEventSequence = some (.ok records,reads))
    (hreplay : replayTail state records = (a,some x)) (hx : x.isValueError = true) :
    R.resolveTail fuel orderId s = some (.ok ⟨orderId,.tailReplayFailed,none,some s.snapshotId,
      some s.sourceGlobalPosition,"Snapshot-assisted tail replay failed: " ++ x.str⟩,reads) := by
  simp [resolveTail, hstate, hload, hreplay, hx]

end ProjectionSnapshotAssistedStateResolver

/-- The validator's answer once the tail is replayed. -/
def ProjectionSnapshotReplayValidator.compared (orderId : String) (s : ProjectionSnapshot)
    (assisted authority : OrderState) : ProjectionSnapshotReplayValidationResult :=
  if assisted.eq authority then
    ⟨.match,orderId,some s.snapshotId,some s.sourceGlobalPosition,some assisted,some authority,
      "Snapshot-assisted replay matches accepted-history replay."⟩
  else
    ⟨.snapshotAssistedDrift,orderId,some s.snapshotId,some s.sourceGlobalPosition,some assisted,
      some authority,"Snapshot-assisted replay differs from accepted-history replay."⟩

theorem ProjectionSnapshotReplayValidator.compared_status (orderId : String) (s : ProjectionSnapshot)
    (assisted authority : OrderState) :
    (compared orderId s assisted authority).status = .match ↔ assisted.eq authority = true := by
  unfold compared
  split
  · simpa
  · simpa using eq_false_of_ne_true ‹_›

theorem ProjectionSnapshotReplayValidator.compareTail_eq
    {V : ProjectionSnapshotReplayValidator} {fuel reads : ℕ} {orderId : String}
    {s : ProjectionSnapshot} {state authority assisted : OrderState}
    {records : List ProjectionEventRecord} (hstate : hydrateSnapshotState s = .ok state)
    (hload : loadAllTailRecords V.tailEventSource V.tailEventLimit fuel orderId
      s.sourceEventSequence = some (.ok records,reads))
    (hreplay : replayTail state records = (assisted,none)) :
    V.compareTail fuel orderId s authority = some (.ok (compared orderId s assisted authority),reads) := by
  simp only [compareTail, compared, hstate, hload, hreplay, Option.map_some]
  cases assisted.eq authority <;> rfl

theorem map_drop_recordOfRow (rows : List OrderEventRow) (k : ℕ) :
    ((rows.drop k).map recordOfRow).map (fun r => r.event) = (rows.map rowToOrderEvent).drop k := by
  rw [map_event_recordOfRow, List.map_drop]

/-- A snapshot of the first `k` events resolves to the state of the full replay, or fails in
the tail exactly when the full replay fails; when it is the latest it matches unless the total
amount is NaN; the pages read are those of the tail and an empty one. -/
theorem snapshot_resolution_equals_replay {t : Tables} {orderId : String} {rows : List OrderEventRow}
    {k : ℕ} {st : OrderState} {s : ProjectionSnapshot} (hn : isBlank orderId = false)
    (h : t.Contiguous orderId rows) (hk : 1 ≤ k) (hkn : k ≤ rows.length)
    (hst : reduceHistory orderId ((rows.take k).map rowToOrderEvent) = .ok st)
    (hs : s.Captures orderId rows k st) :
    (∃ resolution : ProjectionSnapshotAssistedResolutionResult,
      (match reduceHistory orderId (rows.map rowToOrderEvent) with
        | .ok full => resolution.status = .resolvedFromSnapshot ∧
          ∃ state, resolution.resolvedState = some state ∧ state.Same full ∧
            (full.totalAmount ≠ .nan → state.eq full = true) ∧
            (s.totalAmount = st.totalAmount → s.paidAmount = st.paidAmount → state = full)
        | .error _ => resolution.status = .tailReplayFailed) ∧
      ∀ R : ProjectionSnapshotAssistedStateResolver, R.loadSnapshot s.snapshotId = some s →
        R.tailEventSource = PostgresOrderEventTailSource.loadAfterSequence t → ∀ fuel,
          (rows.length-k) ⌈/⌉ R.tailEventLimit.toNat < fuel →
          R.resolveOrder fuel orderId (some s.snapshotId) =
            some (.ok resolution,(rows.length-k) ⌈/⌉ R.tailEventLimit.toNat+1)) ∧
    ∀ full, reduceHistory orderId (rows.map rowToOrderEvent) = .ok full →
      ∃ validation : ProjectionSnapshotReplayValidationResult,
        (validation.status = .match ↔ full.totalAmount ≠ .nan) ∧
        ∀ V : ProjectionSnapshotReplayValidator, V.loadLatestSnapshot orderId = some s →
          V.load = t.events →
          V.tailEventSource = PostgresOrderEventTailSource.loadAfterSequence t → ∀ fuel,
            (rows.length-k) ⌈/⌉ V.tailEventLimit.toNat < fuel →
            V.validateOrder fuel orderId =
              some (.ok validation,(rows.length-k) ⌈/⌉ V.tailEventLimit.toNat+1) := by
  have hb := hs.boundary hk hkn hst
  have hne : rows.map rowToOrderEvent ≠ [] := by
    rw [ne_eq, ← List.length_eq_zero_iff, List.length_map]
    omega
  obtain ⟨state,hstate,heq,hsame⟩ := hs.hydrate (reduceHistory_version hst).1
  have hpages (limit : ℕ) : pages limit (rows.drop k) = (rows.length-k) ⌈/⌉ limit := by
    rw [pages, List.length_drop]
  -- the tail replay from the snapshot runs in step with the rest of the full replay
  have hfull : reduceHistory orderId (rows.map rowToOrderEvent) =
      ((rows.map rowToOrderEvent).drop k).foldlM reduceOrderEvent st := by
    conv_lhs => rw [← List.take_append_drop k (rows.map rowToOrderEvent), reduceHistory_split,
      ← List.map_take, hst]
    rfl
  have hcongr := foldlM_reduceOrderEvent_congr heq ((rows.map rowToOrderEvent).drop k)
  rw [← hfull] at hcongr
  have hload {limit : ℤ} (hl : 0 < limit) {fuel : ℕ}
      (hf : (rows.length-k) ⌈/⌉ limit.toNat < fuel) :
      loadAllTailRecords (PostgresOrderEventTailSource.loadAfterSequence t) limit fuel orderId
        s.sourceEventSequence = some (.ok ((rows.drop k).map recordOfRow),
          (rows.length-k) ⌈/⌉ limit.toNat+1) := by
    rw [hs.sequence, h.loadAllTailRecords hn hl k (by rwa [hpages]), hpages]
  have hcompat : ProjectionSnapshotAssistedStateResolver.validateSnapshotCompatibility s orderId =
      none := by
    rw [hb.compatibility, if_neg (not_not.mpr hs.schemaVersion),
      if_neg (not_not.mpr hs.reducerVersion)]
  constructor
  · cases hr : ((rows.map rowToOrderEvent).drop k).foldlM reduceOrderEvent state with
    | error x =>
      have hv := foldlM_isValueError hr
      rw [← map_drop_recordOfRow] at hr
      obtain ⟨a,ha⟩ := replayTail_error hr
      refine ⟨⟨orderId,.tailReplayFailed,none,some s.snapshotId,some s.sourceGlobalPosition,
        "Snapshot-assisted tail replay failed: " ++ x.str⟩,?_,?_⟩
      · rw [map_drop_recordOfRow] at hr
        rw [hr] at hcongr
        cases hf : reduceHistory orderId (rows.map rowToOrderEvent) with
        | error y => rfl
        | ok full => simp [hf, SameOutcome] at hcongr
      · intro R hR hRs fuel hfuel
        have hl := hload R.positive hfuel
        rw [← hRs] at hl
        simp only [ProjectionSnapshotAssistedStateResolver.resolveOrder, hR, hcompat,
          ProjectionSnapshotAssistedStateResolver.resolveTail_failed hstate hl ha hv]
    | ok resolved =>
      have hrep : replayTail state ((rows.drop k).map recordOfRow) = (resolved,none) :=
        replayTail_ok (by rw [map_drop_recordOfRow]; exact hr)
      refine ⟨⟨orderId,.resolvedFromSnapshot,some resolved,some s.snapshotId,
        some s.sourceGlobalPosition,"Projection state resolved from snapshot and tail replay."⟩,
        ?_,?_⟩
      · rw [hr] at hcongr
        cases hf : reduceHistory orderId (rows.map rowToOrderEvent) with
        | error y => simp [hf, SameOutcome] at hcongr
        | ok full =>
          rw [hf] at hcongr
          obtain ⟨_,_,hreduced⟩ := reduceHistory_reduced hf hne
          refine ⟨rfl,resolved,rfl,hcongr,(hcongr.eq_iff hreduced.paidAmount).mpr,fun ht hp => ?_⟩
          rw [hsame ht hp, ← hfull, hf] at hr
          exact (Except.ok.inj hr).symm
      · intro R hR hRs fuel hfuel
        have hl := hload R.positive hfuel
        rw [← hRs] at hl
        simp only [ProjectionSnapshotAssistedStateResolver.resolveOrder, hR, hcompat,
          ProjectionSnapshotAssistedStateResolver.resolveTail_resolved hstate hl hrep]
  · intro full hf
    rw [hf] at hcongr
    cases hr : ((rows.map rowToOrderEvent).drop k).foldlM reduceOrderEvent state with
    | error x => simp [hr, SameOutcome] at hcongr
    | ok assisted =>
      rw [hr] at hcongr
      have hrep : replayTail state ((rows.drop k).map recordOfRow) = (assisted,none) :=
        replayTail_ok (by rw [map_drop_recordOfRow]; exact hr)
      obtain ⟨_,_,hreduced⟩ := reduceHistory_reduced hf hne
      refine ⟨ProjectionSnapshotReplayValidator.compared orderId s assisted full,?_,?_⟩
      · rw [ProjectionSnapshotReplayValidator.compared_status]
        exact hcongr.eq_iff hreduced.paidAmount
      intro V hV hVl hVs fuel hfuel
      have hl := hload V.positive hfuel
      rw [← hVs] at hl
      have hloaded : V.load orderId = rows.map rowToOrderEvent := by
        rw [hVl, Tables.events, h.history]
      have hsome := List.isEmpty_eq_false_iff.mpr hne
      have hmax : ((rows.map rowToOrderEvent).map (fun e => e.sequence)).foldr max 0 = rows.length := by
        rw [reduceHistory_sequences hf, List.length_map, foldr_max_range']
      simp only [ProjectionSnapshotReplayValidator.validateOrder, hV, hloaded, hsome, hf, hmax,
        validateSnapshotBoundary_eq_none.mpr hb, Bool.false_eq_true, if_false]
      exact ProjectionSnapshotReplayValidator.compareTail_eq hstate hl hrep

/-! A creation and its payment, with a snapshot taken at the creation. -/
namespace PaidOrder

def amount : Numeric := .cents 1000 Numeric.ten_inRange
def created (orderId : String) : OrderEventRow :=
  ⟨"e1",orderId,1,.created,"r1",amount,0,none,0,.init,1⟩
def paid (orderId : String) : OrderEventRow :=
  ⟨"e2",orderId,2,.paid,"r2",amount,0,some "e1",1,.created,2⟩
def rows (orderId : String) : List OrderEventRow := [created orderId,paid orderId]
def tables (orderId : String) : Tables := {Tables.empty with orderEvents := rows orderId}
def atCreation (orderId : String) : OrderState :=
  ⟨orderId,.created,amount.toDecimal,.zero,1⟩
def snapshot (orderId : String) : ProjectionSnapshot :=
  ⟨7,orderId,"e1",1,1,"CREATED",amount.toDecimal,.zero,1,1,"order_projection_reducer:v1"⟩

theorem contiguous (orderId : String) : (tables orderId).Contiguous orderId (rows orderId) where
  history := by simp [Tables.history, tables, rows, created, paid]
  sequences := by rfl

theorem captures (orderId : String) :
    (snapshot orderId).Captures orderId (rows orderId) 1 (atCreation orderId) where
  orderId := rfl
  event := rfl
  sequence := rfl
  position := by simp [snapshot]
  status := rfl
  totalAmount := .inr rfl
  paidAmount := .inr rfl
  version := rfl
  schemaVersion := rfl
  reducerVersion := rfl

theorem reduce_created (orderId : String) :
    reduceHistory orderId (((rows orderId).take 1).map rowToOrderEvent) = .ok (atCreation orderId) := by
  simp [reduceHistory, rows, rowToOrderEvent, created, reduceOrderEvent, buildEmptyProjectionState,
    atCreation, bind, Except.bind, pure, Except.pure]

def resolver (orderId : String) : ProjectionSnapshotAssistedStateResolver where
  loadSnapshot := fun _ => some (snapshot orderId)
  tailEventSource := PostgresOrderEventTailSource.loadAfterSequence (tables orderId)
  tailEventLimit := 1
  positive := Int.one_pos

end PaidOrder

theorem snapshot_resolution_equals_replay_paid :
    ∃ resolution, ∀ R : ProjectionSnapshotAssistedStateResolver,
      R.loadSnapshot 7 = some (PaidOrder.snapshot "o") →
      R.tailEventSource = PostgresOrderEventTailSource.loadAfterSequence (PaidOrder.tables "o") →
      ∀ fuel, (2-1) ⌈/⌉ R.tailEventLimit.toNat < fuel → R.resolveOrder fuel "o" (some 7) =
        some (.ok resolution,(2-1) ⌈/⌉ R.tailEventLimit.toNat+1) := by
  obtain ⟨⟨resolution,-,h⟩,-⟩ := snapshot_resolution_equals_replay (by decide)
    (PaidOrder.contiguous "o") (le_refl 1) (by decide) (PaidOrder.reduce_created "o")
    (PaidOrder.captures "o")
  exact ⟨resolution,h⟩

/-! A creation whose amount is NaN, with a snapshot taken at it. -/
namespace NanOrder

def rows : List OrderEventRow := [{PaidOrder.created "o" with amount := .nan}]
def tables : Tables := {Tables.empty with orderEvents := rows}
def state : OrderState := ⟨"o",.created,.nan,.zero,1⟩
def snapshot : ProjectionSnapshot := {PaidOrder.snapshot "o" with totalAmount := .nan}

theorem captures : snapshot.Captures "o" rows 1 state where
  orderId := rfl
  event := rfl
  sequence := rfl
  position := Int.one_pos
  status := rfl
  totalAmount := .inr rfl
  paidAmount := .inr rfl
  version := rfl
  schemaVersion := rfl
  reducerVersion := rfl

def validator : ProjectionSnapshotReplayValidator where
  loadLatestSnapshot := fun _ => some snapshot
  load := tables.events
  tailEventSource := PostgresOrderEventTailSource.loadAfterSequence tables
  tailEventLimit := 1
  positive := Int.one_pos

end NanOrder

/-- The tail source refuses an order whose id is blank, whatever its events are; and a NaN total
differs from itself, so the latest snapshot of such an order is reported as drifted. -/
theorem blank_or_nan_order_not_equal :
    ((PaidOrder.tables " ").Contiguous " " (PaidOrder.rows " ") ∧
      reduceHistory " " (((PaidOrder.rows " ").take 1).map rowToOrderEvent) =
        .ok (PaidOrder.atCreation " ") ∧
      (PaidOrder.snapshot " ").Captures " " (PaidOrder.rows " ") 1 (PaidOrder.atCreation " ") ∧
      (PaidOrder.resolver " ").resolveOrder 2 " " (some 7) =
        some (.ok ⟨" ",.tailEventSourceContractViolation,none,some 7,some 1,
          "order_id must not be empty"⟩,1)) ∧
    NanOrder.tables.Contiguous "o" NanOrder.rows ∧
      reduceHistory "o" (NanOrder.rows.map rowToOrderEvent) = .ok NanOrder.state ∧
      NanOrder.snapshot.Captures "o" NanOrder.rows 1 NanOrder.state ∧
      NanOrder.validator.loadLatestSnapshot "o" = some NanOrder.snapshot ∧
      NanOrder.validator.validateOrder 1 "o" =
        some (.ok ⟨.snapshotAssistedDrift,"o",some 7,some 1,some NanOrder.state,some NanOrder.state,
          "Snapshot-assisted replay differs from accepted-history replay."⟩,1) :=
  ⟨⟨PaidOrder.contiguous " ",PaidOrder.reduce_created " ",PaidOrder.captures " ",by decide +kernel⟩,
    ⟨by decide +kernel,rfl⟩,by decide +kernel,NanOrder.captures,rfl,by decide +kernel⟩

/-! ## What a match is worth -/

/-- The evidence behind a match. -/
structure ProjectionSnapshotReplayValidator.Matched (V : ProjectionSnapshotReplayValidator)
    (orderId : String) (s : ProjectionSnapshot) (state assisted authority : OrderState)
    (records : List ProjectionEventRecord) : Prop where
  folded : reduceHistory orderId (V.load orderId) = .ok authority
  boundary : s.BoundaryValid orderId (((V.load orderId).map (fun e => e.sequence)).foldr max 0)
  hydrated : hydrateSnapshotState s = .ok state
  loaded : ∃ fuel reads, loadAllTailRecords V.tailEventSource V.tailEventLimit fuel orderId
    s.sourceEventSequence = some (.ok records,reads)
  replayed : replayTail state records = (assisted,none)
  equal : assisted.eq authority = true

/-- What the validator found, by the answer it gives. -/
inductive ProjectionSnapshotReplayValidator.Answer (V : ProjectionSnapshotReplayValidator)
    (orderId : String) : ProjectionSnapshotReplayValidationResult → Prop where
  | noHistory : V.Answer orderId ⟨.noAcceptedHistoryForOrder,orderId,
      (V.loadLatestSnapshot orderId).map (fun s => s.snapshotId),
      (V.loadLatestSnapshot orderId).map (fun s => s.sourceGlobalPosition),none,none,
      "No accepted history exists for order."⟩
  | missing {authority : OrderState} (latest : V.loadLatestSnapshot orderId = none)
    (folded : reduceHistory orderId (V.load orderId) = .ok authority) :
    V.Answer orderId ⟨.missingSnapshot,orderId,none,none,none,some authority,
      "No projection snapshot exists for order; authority state was reconstructed from " ++
        "accepted history."⟩
  | invalid {s : ProjectionSnapshot} {authority : OrderState} {reason : String}
    (latest : V.loadLatestSnapshot orderId = some s)
    (folded : reduceHistory orderId (V.load orderId) = .ok authority) :
    V.Answer orderId ⟨.invalidSnapshotBoundary,orderId,some s.snapshotId,
      some s.sourceGlobalPosition,none,some authority,reason⟩
  | violated {s : ProjectionSnapshot} {state authority : OrderState} {reason : String}
    (latest : V.loadLatestSnapshot orderId = some s)
    (folded : reduceHistory orderId (V.load orderId) = .ok authority)
    (boundary : s.BoundaryValid orderId (((V.load orderId).map (fun e => e.sequence)).foldr max 0))
    (hydrated : hydrateSnapshotState s = .ok state) :
    V.Answer orderId ⟨.tailEventSourceContractViolation,orderId,some s.snapshotId,
      some s.sourceGlobalPosition,some state,some authority,reason⟩
  | drifted {s : ProjectionSnapshot} {state authority : OrderState} {reason : String}
    {records : List ProjectionEventRecord} (latest : V.loadLatestSnapshot orderId = some s)
    (folded : reduceHistory orderId (V.load orderId) = .ok authority)
    (boundary : s.BoundaryValid orderId (((V.load orderId).map (fun e => e.sequence)).foldr max 0))
    (hydrated : hydrateSnapshotState s = .ok state) :
    V.Answer orderId ⟨.snapshotAssistedDrift,orderId,some s.snapshotId,some s.sourceGlobalPosition,
      some (replayTail state records).1,some authority,reason⟩
  | matched {s : ProjectionSnapshot} {state assisted authority : OrderState} {reason : String}
    {records : List ProjectionEventRecord} (latest : V.loadLatestSnapshot orderId = some s)
    (evidence : V.Matched orderId s state assisted authority records) :
    V.Answer orderId ⟨.match,orderId,some s.snapshotId,some s.sourceGlobalPosition,some assisted,
      some authority,reason⟩

theorem ProjectionSnapshotReplayValidator.answer {V : ProjectionSnapshotReplayValidator}
    {fuel n : ℕ} {orderId : String} {r : ProjectionSnapshotReplayValidationResult}
    (h : V.validateOrder fuel orderId = some (.ok r,n)) : V.Answer orderId r := by
  simp only [validateOrder] at h
  split at h
  · cases h
    exact .noHistory
  cases ha : reduceHistory orderId (V.load orderId) with
  | error x => simp [ha] at h
  | ok authority =>
    rw [ha] at h
    cases hs : V.loadLatestSnapshot orderId with
    | none =>
      simp only [hs] at h
      cases h
      exact .missing hs ha
    | some s =>
      simp only [hs] at h
      cases hb : validateSnapshotBoundary s orderId
        (((V.load orderId).map (fun e => e.sequence)).foldr max 0) with
      | some reason =>
        simp only [hb] at h
        cases h
        exact .invalid hs ha
      | none =>
        have hvalid := validateSnapshotBoundary_eq_none.mp hb
        obtain ⟨status,-,hh⟩ := hvalid.hydrate
        simp only [hb, compareTail, hh] at h
        obtain ⟨⟨out,reads⟩,hload,hout⟩ := Option.map_eq_some_iff.mp h
        obtain ⟨hout,-⟩ := Prod.mk.inj hout
        cases out with
        | error x =>
          simp only at hout
          split at hout
          · cases hout
            exact .violated hs ha hvalid hh
          · cases hout
        | ok records =>
          simp only at hout
          split at hout
          · rename_i assisted x hrep
            split at hout
            · cases hout
              have hd : V.Answer orderId ⟨_,_,_,_,some (replayTail _ records).1,_,
                "Snapshot-assisted tail replay failed: " ++ x.str⟩ := .drifted hs ha hvalid hh
              rw [hrep] at hd
              exact hd
            · cases hout
          · rename_i assisted hrep
            split at hout
            · cases hout
              have hd : V.Answer orderId ⟨_,_,_,_,some (replayTail _ records).1,_,
                "Snapshot-assisted replay differs from accepted-history replay."⟩ :=
                .drifted hs ha hvalid hh
              rw [hrep] at hd
              exact hd
            · rename_i heq
              cases hout
              exact .matched hs ⟨ha,hvalid,hh,⟨fuel,reads,hload⟩,hrep,by simpa using heq⟩

theorem ProjectionSnapshotReplayValidator.matched {V : ProjectionSnapshotReplayValidator}
    {fuel n : ℕ} {orderId : String} {s : ProjectionSnapshot}
    {r : ProjectionSnapshotReplayValidationResult} (hs : V.loadLatestSnapshot orderId = some s)
    (h : V.validateOrder fuel orderId = some (.ok r,n)) (hr : r.status = .match) :
    ∃ state assisted authority records, V.Matched orderId s state assisted authority records := by
  cases V.answer h with
  | matched latest evidence =>
    obtain rfl : s = _ := Option.some.inj (hs.symm.trans latest)
    exact ⟨_,_,_,_,evidence⟩
  | noHistory => cases hr
  | missing => cases hr
  | invalid => cases hr
  | violated => cases hr
  | drifted => cases hr

theorem loadAllTailRecords_named {t : Tables} {limit : ℤ} {fuel reads : ℕ} {orderId : String}
    {cursor : ℤ} {records : List ProjectionEventRecord}
    (h : loadAllTailRecords (PostgresOrderEventTailSource.loadAfterSequence t) limit fuel orderId
      cursor = some (.ok records,reads)) : isBlank orderId = false := by
  cases hb : isBlank orderId with
  | false => rfl
  | true =>
    have hstrip : (strip orderId).isEmpty = true := by
      rw [isBlank, Bool.or_eq_true, List.isEmpty_iff] at hb
      rcases hb with hb | hb
      · simp [strip, hb]
      · exact hb
    cases fuel with
    | zero => cases h
    | succ fuel =>
      have hround : tailRound (PostgresOrderEventTailSource.loadAfterSequence t) orderId limit
          ([],cursor) = .inr (.error (.valueError "order_id must not be empty")) := by
        simp [tailRound, PostgresOrderEventTailSource.loadAfterSequence, hstrip]
      rw [loadAllTailRecords, run_exit hround] at h
      cases h

theorem Tables.contiguous_of_reduce {t : Tables} {orderId : String} {st : OrderState}
    (h : reduceHistory orderId ((t.history orderId).map rowToOrderEvent) = .ok st) :
    t.Contiguous orderId (t.history orderId) where
  history := rfl
  sequences := by
    have hseq := reduceHistory_sequences h
    rw [List.map_map, List.length_map] at hseq
    exact hseq

theorem ProjectionSnapshotReplayValidator.Matched.rows {V : ProjectionSnapshotReplayValidator}
    {t : Tables} {orderId : String} {s : ProjectionSnapshot} {state assisted authority : OrderState}
    {records : List ProjectionEventRecord} (h : V.Matched orderId s state assisted authority records)
    (hload : V.load = t.events)
    (hsource : V.tailEventSource = PostgresOrderEventTailSource.loadAfterSequence t) :
    isBlank orderId = false ∧ s.sourceEventSequence.toNat ≤ (t.history orderId).length ∧
      (((t.history orderId).map rowToOrderEvent).drop s.sourceEventSequence.toNat).foldlM
        reduceOrderEvent state = .ok assisted := by
  obtain ⟨fuel,reads,hl⟩ := h.loaded
  rw [hsource] at hl
  have hn := loadAllTailRecords_named hl
  have hfold := h.folded
  have hle := h.boundary.notAhead
  rw [hload, Tables.events] at hfold hle
  have hc := Tables.contiguous_of_reduce hfold
  rw [reduceHistory_sequences hfold, List.length_map, foldr_max_range'] at hle
  have hpos := h.boundary.sequence
  refine ⟨hn,by omega,?_⟩
  have hl' := hc.loadAllTailRecords hn V.positive s.sourceEventSequence.toNat (Nat.lt_succ_self _)
  rw [Int.toNat_of_nonneg (by omega)] at hl'
  have hrecords := (Prod.mk.inj (run_unique hl hl')).1
  rw [Except.ok.injEq] at hrecords
  rw [← map_drop_recordOfRow, ← hrecords, ← tailOutcome_replayTail, h.replayed]
  rfl

/-- A snapshot that matched a history resolves, over every legal extension of it, to the state
of the full replay, unless the resolver does not support its versions. -/
theorem match_certifies_snapshot {V : ProjectionSnapshotReplayValidator} {t t' : Tables}
    {orderId : String} {s : ProjectionSnapshot} {fuel n : ℕ}
    {r : ProjectionSnapshotReplayValidationResult} {extension : List OrderEventRow} {full : OrderState}
    {R : ProjectionSnapshotAssistedStateResolver} (hlatest : V.loadLatestSnapshot orderId = some s)
    (hload : V.load = t.events)
    (hsource : V.tailEventSource = PostgresOrderEventTailSource.loadAfterSequence t)
    (hmatch : V.validateOrder fuel orderId = some (.ok r,n)) (hr : r.status = .match)
    (hext : t'.history orderId = t.history orderId ++ extension)
    (hlegal : reduceHistory orderId (t'.events orderId) = .ok full)
    (hR : R.loadSnapshot s.snapshotId = some s)
    (hRs : R.tailEventSource = PostgresOrderEventTailSource.loadAfterSequence t') :
    ∃ enough, ∀ fuel, enough ≤ fuel → ∃ resolution reads,
      R.resolveOrder fuel orderId (some s.snapshotId) = some (.ok resolution,reads) ∧
      ((resolution.status = .resolvedFromSnapshot ∧
          ∃ state, resolution.resolvedState = some state ∧ state.eq full = true) ∨
        (resolution.status = .invalidSnapshotCompatibility ∧
          ((s.snapshotSchemaVersion ≠ supportedSnapshotSchemaVersion ∧ resolution.reason =
              ProjectionSnapshotAssistedStateResolver.schemaVersionReason s) ∨
            (s.reducerVersion ≠ supportedReducerVersion ∧ resolution.reason =
              ProjectionSnapshotAssistedStateResolver.reducerVersionReason s)) ∧
          ProjectionSnapshotAssistedStateResolver.validateSnapshotCompatibility
            {s with
              snapshotSchemaVersion := supportedSnapshotSchemaVersion
              reducerVersion := supportedReducerVersion} orderId = none)) := by
  obtain ⟨state,assisted,authority,records,hm⟩ := V.matched hlatest hmatch hr
  obtain ⟨hn,hle,hfold⟩ := hm.rows hload hsource
  have hb := hm.boundary
  have hpos := hb.sequence
  have hsolely : ProjectionSnapshotAssistedStateResolver.validateSnapshotCompatibility
      {s with
        snapshotSchemaVersion := supportedSnapshotSchemaVersion
        reducerVersion := supportedReducerVersion} orderId = none := by
    have hb' : ProjectionSnapshot.BoundaryValid {s with
        snapshotSchemaVersion := supportedSnapshotSchemaVersion
        reducerVersion := supportedReducerVersion} orderId _ :=
      ⟨hb.orderId,hb.position,hb.sequence,hb.notAhead,hb.version,hb.status⟩
    rw [hb'.compatibility, if_neg (not_not.mpr rfl), if_neg (not_not.mpr rfl)]
  have hcompat := hb.compatibility
  by_cases hschema : s.snapshotSchemaVersion ≠ supportedSnapshotSchemaVersion
  · rw [if_pos hschema] at hcompat
    refine ⟨0,fun fuel _ => ⟨_,_,by
      simp only [ProjectionSnapshotAssistedStateResolver.resolveOrder, hR, hcompat]
      rfl,.inr ⟨rfl,.inl ⟨hschema,rfl⟩,hsolely⟩⟩⟩
  rw [if_neg hschema] at hcompat
  by_cases hreducer : s.reducerVersion ≠ supportedReducerVersion
  · rw [if_pos hreducer] at hcompat
    refine ⟨0,fun fuel _ => ⟨_,_,by
      simp only [ProjectionSnapshotAssistedStateResolver.resolveOrder, hR, hcompat]
      rfl,.inr ⟨rfl,.inr ⟨hreducer,rfl⟩,hsolely⟩⟩⟩
  rw [if_neg hreducer] at hcompat
  -- the tail over the longer history: the part the match has seen, then the extension
  have hfolded := hm.folded
  rw [hload, Tables.events] at hfolded
  rw [Tables.events] at hlegal
  have hc' := Tables.contiguous_of_reduce hlegal
  have hrest : (extension.map rowToOrderEvent).foldlM reduceOrderEvent authority = .ok full := by
    rw [hext, List.map_append, reduceHistory_split, hfolded] at hlegal
    exact hlegal
  have hne : (t.history orderId).map rowToOrderEvent ≠ [] := by
    rw [ne_eq, ← List.length_eq_zero_iff, List.length_map]
    omega
  obtain ⟨_,_,hreduced⟩ := reduceHistory_reduced hfolded hne
  obtain ⟨htotal,hpaid⟩ := foldlM_reduceOrderEvent_reduced hrest hreduced.status hreduced.paidAmount
  have hnumber : full.totalAmount ≠ .nan := by
    rw [htotal]
    exact ((OrderState.Same.of_eq hm.equal).eq_iff hreduced.paidAmount).mp hm.equal
  have hcongr := foldlM_reduceOrderEvent_congr (.of_eq hm.equal) (extension.map rowToOrderEvent)
  rw [hrest] at hcongr
  cases hres : (extension.map rowToOrderEvent).foldlM reduceOrderEvent assisted with
  | error x => simp [hres, SameOutcome] at hcongr
  | ok resolved =>
    rw [hres] at hcongr
    have htail : (((t'.history orderId).map rowToOrderEvent).drop
        s.sourceEventSequence.toNat).foldlM reduceOrderEvent state = .ok resolved := by
      rw [hext, List.map_append, List.drop_append_of_le_length (by rwa [List.length_map]),
        List.foldlM_append, hfold]
      exact hres
    refine ⟨pages R.tailEventLimit.toNat ((t'.history orderId).drop s.sourceEventSequence.toNat)+1,
      fun fuel hfuel => ?_⟩
    have hl := hc'.loadAllTailRecords hn R.positive s.sourceEventSequence.toNat hfuel
    rw [Int.toNat_of_nonneg (by omega), ← hRs] at hl
    refine ⟨_,_,by
      simp only [ProjectionSnapshotAssistedStateResolver.resolveOrder, hR, hcompat]
      exact ProjectionSnapshotAssistedStateResolver.resolveTail_resolved hm.hydrated hl
        (replayTail_ok (by rw [map_drop_recordOfRow]; exact htail)),
      .inl ⟨rfl,resolved,rfl,(OrderState.Same.eq_iff hcongr hpaid).mpr hnumber⟩⟩

namespace PaidOrder

def createdTables (orderId : String) : Tables :=
  {Tables.empty with orderEvents := [created orderId]}
def validator (orderId : String) : ProjectionSnapshotReplayValidator where
  loadLatestSnapshot := fun _ => some (snapshot orderId)
  load := (createdTables orderId).events
  tailEventSource := PostgresOrderEventTailSource.loadAfterSequence (createdTables orderId)
  tailEventLimit := 3
  positive := by decide

end PaidOrder

theorem match_certifies_snapshot_paid : ∃ enough, ∀ fuel, enough ≤ fuel → ∃ resolution reads,
    (PaidOrder.resolver "o").resolveOrder fuel "o" (some 7) = some (.ok resolution,reads) := by
  have hmatch : (PaidOrder.validator "o").validateOrder 1 "o" = some (.ok ⟨.match,"o",some 7,some 1,
      some (PaidOrder.atCreation "o"),some (PaidOrder.atCreation "o"),
      "Snapshot-assisted replay matches accepted-history replay."⟩,1) := by decide +kernel
  have hext : (PaidOrder.tables "o").history "o" =
      (PaidOrder.createdTables "o").history "o" ++ [PaidOrder.paid "o"] := by decide +kernel
  have hlegal : reduceHistory "o" ((PaidOrder.tables "o").events "o") =
      .ok ⟨"o",.paid,PaidOrder.amount.toDecimal,PaidOrder.amount.toDecimal,2⟩ := by decide +kernel
  have hR : (PaidOrder.resolver "o").loadSnapshot (PaidOrder.snapshot "o").snapshotId =
    some (PaidOrder.snapshot "o") := rfl
  have hlatest : (PaidOrder.validator "o").loadLatestSnapshot "o" = some (PaidOrder.snapshot "o") :=
    rfl
  obtain ⟨enough,h⟩ := match_certifies_snapshot hlatest rfl rfl hmatch rfl hext hlegal hR rfl
  refine ⟨enough,fun fuel hf => ?_⟩
  obtain ⟨resolution,reads,hr,-⟩ := h fuel hf
  exact ⟨resolution,reads,hr⟩

/-! ## What the resolver answers -/

/-- What a snapshot that passed the resolver's checks guarantees. -/
theorem validateSnapshotCompatibility_eq_none {s : ProjectionSnapshot} {orderId : String}
    (h : ProjectionSnapshotAssistedStateResolver.validateSnapshotCompatibility s orderId = none) :
    s.orderId = orderId ∧ 0 < s.sourceGlobalPosition := by
  simp only [ProjectionSnapshotAssistedStateResolver.validateSnapshotCompatibility] at h
  split at h
  · cases h
  split at h
  · cases h
  rename_i ho hp
  exact ⟨not_not.mp ho,by omega⟩

theorem hydrateSnapshotState_orderId {s : ProjectionSnapshot} {state : OrderState}
    (h : hydrateSnapshotState s = .ok state) : state.orderId = s.orderId := by
  simp only [hydrateSnapshotState] at h
  split at h
  · cases h
  · cases h
    rfl

theorem replayTail_orderId (s : OrderState) (records : List ProjectionEventRecord) :
    (replayTail s records).1.orderId = s.orderId := by
  induction records generalizing s with
  | nil => rfl
  | cons record records ih =>
    simp only [replayTail]
    cases hr : reduceOrderEvent s record.event with
    | error x => rfl
    | ok s' => exact (ih s').trans (reduceOrderEvent_reduced hr).orderId

/-- The resolver's answers about a snapshot it has loaded. -/
inductive ProjectionSnapshotAssistedStateResolver.Answer (orderId : String) (s : ProjectionSnapshot) :
    ProjectionSnapshotAssistedResolutionResult → Prop where
  | incompatible {reason : String} : Answer orderId s ⟨orderId,.invalidSnapshotCompatibility,none,
      some s.snapshotId,some s.sourceGlobalPosition,reason⟩
  | violated {reason : String} (position : 0 < s.sourceGlobalPosition) : Answer orderId s
      ⟨orderId,.tailEventSourceContractViolation,none,some s.snapshotId,
        some s.sourceGlobalPosition,reason⟩
  | failed {reason : String} (position : 0 < s.sourceGlobalPosition) : Answer orderId s
      ⟨orderId,.tailReplayFailed,none,some s.snapshotId,some s.sourceGlobalPosition,reason⟩
  | resolved {state : OrderState} {reason : String} (position : 0 < s.sourceGlobalPosition)
      (order : state.orderId = orderId) : Answer orderId s
      ⟨orderId,.resolvedFromSnapshot,some state,some s.snapshotId,some s.sourceGlobalPosition,
        reason⟩

theorem ProjectionSnapshotAssistedStateResolver.answer {R : ProjectionSnapshotAssistedStateResolver}
    {fuel n : ℕ} {orderId : String} {snapshotId : Uuid} {s : ProjectionSnapshot}
    {r : ProjectionSnapshotAssistedResolutionResult} (hs : R.loadSnapshot snapshotId = some s)
    (h : R.resolveOrder fuel orderId (some snapshotId) = some (.ok r,n)) : Answer orderId s r := by
  simp only [resolveOrder, hs] at h
  cases hc : validateSnapshotCompatibility s orderId with
  | some reason =>
    simp only [hc] at h
    cases h
    exact .incompatible
  | none =>
    obtain ⟨ho,hp⟩ := validateSnapshotCompatibility_eq_none hc
    simp only [hc, resolveTail] at h
    cases hh : hydrateSnapshotState s with
    | error x =>
      simp only [hh, Option.some.injEq, Prod.mk.injEq] at h
      obtain ⟨h,-⟩ := h
      split at h
      · cases h
        exact .incompatible
      · cases h
    | ok state =>
      simp only [hh] at h
      obtain ⟨⟨out,reads⟩,hload,hout⟩ := Option.map_eq_some_iff.mp h
      obtain ⟨hout,-⟩ := Prod.mk.inj hout
      cases out with
      | error x =>
        simp only at hout
        split at hout
        · cases hout
          exact .violated hp
        · cases hout
      | ok records =>
        simp only at hout
        split at hout
        · split at hout
          · cases hout
            exact .failed hp
          · cases hout
        · rename_i resolved hrep
          cases hout
          have hor := replayTail_orderId state records
          rw [hrep] at hor
          exact .resolved hp (hor.trans ((hydrateSnapshotState_orderId hh).trans ho))

end StreamingCompass
