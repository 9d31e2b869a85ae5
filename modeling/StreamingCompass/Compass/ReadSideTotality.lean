import StreamingCompass.Compass.ReadSideReceipt
import StreamingCompass.Projection.RepeatableRead
import StreamingCompass.Projection.SnapshotResolution

/-! # Every read-side result has a receipt

What the three read-side producers return passes the checks of its receipt mapper. The
one field they hand on unchecked is the source position of a snapshot they refused.
-/
namespace StreamingCompass
open Interleaving

/-- Projection states lie under the order they are about. -/
def Tables.Keyed (t : Tables) : Prop :=
  ∀ orderId row, t.projectionStates orderId = some row → row.orderId = orderId

/-- A receipt correlated to an order and to the snapshot that took part. -/
structure DecisionReceipt.Correlates (receipt : DecisionReceipt) (orderId : String)
    (snapshot : Option ProjectionSnapshot) : Prop where
  orderId : receipt.correlation.orderId = some orderId
  snapshotId : ∀ s, snapshot = some s → receipt.correlation.snapshotId = some s.snapshotId
  position : ∀ s, snapshot = some s →
    receipt.correlation.sourceGlobalPosition = some s.sourceGlobalPosition

theorem validateOrderId_ok {orderId : String} (hn : isBlank orderId = false) (resultType : String) :
    validateOrderId orderId resultType = .ok () := by
  rw [validateOrderId, strip_not_empty hn]
  rfl

@[simp] theorem validatePresentOrderState_none (orderId resultType field : String) :
    validatePresentOrderState none orderId resultType field = .ok () := rfl

theorem forall_some {s : OrderState} {orderId : String} (h : s.orderId = orderId) :
    ∀ s', some s = some s' → s'.orderId = orderId := fun _ hs => Option.some.inj hs ▸ h

theorem validatePresentOrderState_ok {state : Option OrderState} {orderId : String}
    (h : ∀ s, state = some s → s.orderId = orderId) (resultType field : String) :
    validatePresentOrderState state orderId resultType field = .ok () := by
  cases state with
  | none => rfl
  | some s => simp [validatePresentOrderState, h s rfl]

theorem requirePositiveSnapshotPosition_ok {n : ℤ} (h : 0 < n) (resultType status : String) :
    requirePositiveSnapshotPosition (some n) resultType status = .ok () := by
  have hne : (some n == some (0 : ℤ)) = false := by simp [h.ne']
  rw [requirePositiveSnapshotPosition, hne]
  rfl

/-! ## Durable replay validation -/

section Replay
variable {t : Tables} {orderId : String} {r : ReplayValidationResult}

/-- What the validator found, by the answer it gives. -/
inductive DurableReplayValidator.Answer (t : Tables) (orderId : String) :
    ReplayValidationResult → Prop where
  | noHistory {persisted : Option OrderState} {reason : String}
    (about : ∀ s, persisted = some s → s.orderId = orderId) :
    Answer t orderId ⟨orderId,.noAcceptedHistory,none,persisted,reason⟩
  | missing {expected : OrderState} {reason : String} (about : expected.orderId = orderId) :
    Answer t orderId ⟨orderId,.missingProjection,some expected,none,reason⟩
  | drifted {expected persisted : OrderState} {reason : String}
    (about : expected.orderId = orderId) (aboutPersisted : persisted.orderId = orderId)
    (differ : expected.eq persisted = false) :
    Answer t orderId ⟨orderId,.drift,some expected,some persisted,reason⟩
  | matched {expected persisted : OrderState} {reason : String}
    (about : expected.orderId = orderId) (aboutPersisted : persisted.orderId = orderId)
    (equal : expected.eq persisted = true) :
    Answer t orderId ⟨orderId,.match,some expected,some persisted,reason⟩

theorem DurableReplayValidator.answer_cases (ht : t.Keyed) (h : answer t orderId = .ok r) :
    Answer t orderId r := by
  have hpersisted : ∀ s, (t.projectionStates orderId).map PostgresProjectionWorker.stateOfRow = some s →
      s.orderId = orderId := by
    intro s hs
    obtain ⟨row,hrow,rfl⟩ := Option.map_eq_some_iff.mp hs
    exact ht orderId row hrow
  simp only [answer] at h
  split at h
  · cases h
  split at h
  · cases h
    exact .noHistory hpersisted
  · cases he : reduceHistory orderId (t.events orderId) with
    | error e => simp [he, Except.map] at h
    | ok expected =>
      rw [he] at h
      obtain rfl := Except.ok.inj h
      have hexpected := (reduceHistory_version he).1
      cases hp : (t.projectionStates orderId).map PostgresProjectionWorker.stateOfRow with
      | none => exact .missing hexpected
      | some persisted =>
        have hstate := hpersisted persisted hp
        simp only [compare]
        split
        · rename_i hne
          exact .drifted hexpected hstate (by rw [OrderState.eq_comm]; simpa using hne)
        · rename_i heq
          exact .matched hexpected hstate (by rw [OrderState.eq_comm]; simpa using heq)

theorem DurableReplayValidator.Answer.shape (hn : isBlank orderId = false)
    (h : DurableReplayValidator.Answer t orderId r) :
    r.orderId = orderId ∧ validateReplayResultShape r = .ok () := by
  have horder := validateOrderId_ok hn "ReplayValidationResult"
  cases h with
  | noHistory about =>
    exact ⟨rfl,by simp [validateReplayResultShape, horder, validatePresentOrderState_ok about]⟩
  | missing about =>
    have hexpected := validatePresentOrderState_ok (forall_some about)
    exact ⟨rfl,by simp [validateReplayResultShape, horder, hexpected]⟩
  | drifted about aboutPersisted differ =>
    have hexpected := validatePresentOrderState_ok (forall_some about)
    have hpersisted := validatePresentOrderState_ok (forall_some aboutPersisted)
    exact ⟨rfl,by simp [validateReplayResultShape, horder, hexpected, hpersisted, statesDiffer, differ]⟩
  | matched about aboutPersisted equal =>
    have hexpected := validatePresentOrderState_ok (forall_some about)
    have hpersisted := validatePresentOrderState_ok (forall_some aboutPersisted)
    exact ⟨rfl,by simp [validateReplayResultShape, horder, hexpected, hpersisted, statesDiffer, equal]⟩

theorem replaySubject_ok (hn : isBlank r.orderId = false) : ∃ subject, replaySubject r = .ok subject := by
  unfold replaySubject
  split <;> exact ⟨_,DecisionReceiptSubject.make_ok (nonEmpty_some hn)⟩

theorem mapReplayValidationResultToDecisionReceipt_ok (receiptId outcomeId : Uuid)
    (hn : isBlank orderId = false) (h : DurableReplayValidator.Answer t orderId r) :
    ∃ receipt, mapReplayValidationResultToDecisionReceipt receiptId outcomeId r = .ok receipt ∧
      receipt.Correlates orderId none := by
  obtain ⟨rfl,hshape⟩ := h.shape hn
  obtain ⟨m,hm⟩ : ∃ m, mappingForStatus r.status.value = .ok m := by
    cases r.status <;> exact ⟨_,rfl⟩
  obtain ⟨receipt,hmade,hcites,-⟩ : ∃ receipt,
      mapReplayValidationResultToDecisionReceipt receiptId outcomeId r = .ok receipt ∧
        receipt.Cites (some r.orderId) none none none none none ∧ receipt.admissionEvidence = none := by
    rw [mapReplayValidationResultToDecisionReceipt, hshape, ok_bind]
    exact receipt_made hm rfl (requireReason_not_blank ..) (replaySubject_ok hn) (nonEmpty_some hn)
      nonEmpty_none nonNegative_none (fun _ h => nomatch h) rfl
  exact ⟨receipt,hmade,hcites.orderId,fun _ h => (nomatch h),fun _ h => (nomatch h)⟩

end Replay

/-! ## Snapshot validation -/

section SnapshotReplay
variable {V : ProjectionSnapshotReplayValidator} {orderId : String}
  {r : ProjectionSnapshotReplayValidationResult}

theorem ProjectionSnapshotReplayValidator.Answer.lineage (h : V.Answer orderId r) :
    r.orderId = orderId ∧ r.snapshotId = (V.loadLatestSnapshot orderId).map (fun s => s.snapshotId) ∧
      r.sourceGlobalPosition =
        (V.loadLatestSnapshot orderId).map (fun s => s.sourceGlobalPosition) := by
  cases h with
  | noHistory => exact ⟨rfl,rfl,rfl⟩
  | missing latest => simp [latest]
  | invalid latest => simp [latest]
  | violated latest => simp [latest]
  | drifted latest => simp [latest]
  | matched latest => simp [latest]

theorem ProjectionSnapshotReplayValidator.Answer.shape (hn : isBlank orderId = false)
    (h : V.Answer orderId r) : validateSnapshotReplayResultShape r = .ok () := by
  have horder := validateOrderId_ok hn "ProjectionSnapshotReplayValidationResult"
  have habout {authority : OrderState} (hf : reduceHistory orderId (V.load orderId) = .ok authority) :=
    validatePresentOrderState_ok (forall_some (reduceHistory_version hf).1)
      "ProjectionSnapshotReplayValidationResult" "authority_state"
  cases h with
  | noHistory =>
    cases V.loadLatestSnapshot orderId <;>
      simp [validateSnapshotReplayResultShape, horder, validatePairedSnapshotLineage]
  | missing latest folded =>
    simp [validateSnapshotReplayResultShape, horder, habout folded, validatePairedSnapshotLineage]
  | invalid latest folded =>
    simp [validateSnapshotReplayResultShape, horder, habout folded, validatePairedSnapshotLineage,
      requireLoadedSnapshotLineage]
  | violated latest folded boundary hydrated =>
    have hassisted := validatePresentOrderState_ok
      (forall_some ((hydrateSnapshotState_orderId hydrated).trans boundary.orderId))
      "ProjectionSnapshotReplayValidationResult" "snapshot_assisted_state"
    have hposition := requirePositiveSnapshotPosition_ok boundary.position
    simp [validateSnapshotReplayResultShape, horder, habout folded, hassisted,
      validatePairedSnapshotLineage, requireLoadedSnapshotLineage, hposition]
  | @drifted s state authority reason records latest folded boundary hydrated =>
    have hstate := (replayTail_orderId state records).trans
      ((hydrateSnapshotState_orderId hydrated).trans boundary.orderId)
    have hassisted := validatePresentOrderState_ok (forall_some hstate)
      "ProjectionSnapshotReplayValidationResult" "snapshot_assisted_state"
    have hposition := requirePositiveSnapshotPosition_ok boundary.position
    simp [validateSnapshotReplayResultShape, horder, habout folded, hassisted,
      validatePairedSnapshotLineage, requireLoadedSnapshotLineage, hposition]
  | @matched s state assisted authority reason records latest evidence =>
    have hstate : assisted.orderId = orderId := by
      have := replayTail_orderId state records
      rw [evidence.replayed] at this
      exact this.trans ((hydrateSnapshotState_orderId evidence.hydrated).trans
        evidence.boundary.orderId)
    have hassisted := validatePresentOrderState_ok (forall_some hstate)
      "ProjectionSnapshotReplayValidationResult" "snapshot_assisted_state"
    have hposition := requirePositiveSnapshotPosition_ok evidence.boundary.position
    simp [validateSnapshotReplayResultShape, horder, habout evidence.folded, hassisted,
      validatePairedSnapshotLineage, requireLoadedSnapshotLineage, hposition, statesDiffer,
      evidence.equal]

theorem snapshotIdText_not_blank (snapshotId : Option Uuid) :
    isBlank (snapshotIdText snapshotId) = false := by
  cases snapshotId with
  | none => decide
  | some u => exact generateEventId_not_blank ⟨u,0⟩

theorem snapshotReplaySubject_ok (hn : isBlank r.orderId = false) :
    ∃ subject, snapshotReplaySubject r = .ok subject := by
  unfold snapshotReplaySubject
  have hid := nonEmpty_some (snapshotIdText_not_blank r.snapshotId)
  split
  · exact ⟨_,DecisionReceiptSubject.make_ok nonEmpty_none⟩
  · exact ⟨_,DecisionReceiptSubject.make_ok hid⟩
  · exact ⟨_,DecisionReceiptSubject.make_ok hid⟩
  · exact ⟨_,DecisionReceiptSubject.make_ok nonEmpty_none⟩
  · exact ⟨_,DecisionReceiptSubject.make_ok (nonEmpty_some hn)⟩
  · exact ⟨_,DecisionReceiptSubject.make_ok (nonEmpty_some hn)⟩

theorem mapProjectionSnapshotReplayValidationResultToDecisionReceipt_ok
    (receiptId outcomeId : Uuid) (hn : isBlank orderId = false)
    (hp : ∀ s, V.loadLatestSnapshot orderId = some s → 0 ≤ s.sourceGlobalPosition)
    (h : V.Answer orderId r) :
    ∃ receipt, mapProjectionSnapshotReplayValidationResultToDecisionReceipt receiptId outcomeId r =
      .ok receipt ∧ receipt.Correlates orderId (V.loadLatestSnapshot orderId) := by
  obtain ⟨horder,hid,hposition⟩ := h.lineage
  have hshape := h.shape hn
  rw [← horder] at hn
  obtain ⟨m,hm⟩ : ∃ m, mappingForStatus r.status.value = .ok m := by
    cases r.status <;> exact ⟨_,rfl⟩
  have hpositioned : NonNegativeIfPresent r.sourceGlobalPosition := by
    intro n hn
    obtain ⟨s,hs,rfl⟩ := Option.map_eq_some_iff.mp (hposition.symm.trans hn)
    exact hp s hs
  obtain ⟨receipt,hmade,hcites,-⟩ : ∃ receipt,
      mapProjectionSnapshotReplayValidationResultToDecisionReceipt receiptId outcomeId r =
        .ok receipt ∧ receipt.Cites (some r.orderId) none none none r.snapshotId
          r.sourceGlobalPosition ∧ receipt.admissionEvidence = none := by
    rw [mapProjectionSnapshotReplayValidationResultToDecisionReceipt, hshape, ok_bind]
    exact receipt_made hm rfl (requireReason_not_blank ..) (snapshotReplaySubject_ok hn)
      (nonEmpty_some hn) nonEmpty_none hpositioned (fun _ h => nomatch h) rfl
  refine ⟨receipt,hmade,hcites.orderId.trans (congrArg some horder),fun s hs => ?_,fun s hs => ?_⟩
  · rw [hcites.snapshotId, hid, hs, Option.map_some]
  · rw [hcites.sourceGlobalPosition, hposition, hs, Option.map_some]

end SnapshotReplay

/-! ## Snapshot-assisted resolution -/

section Resolution
variable {R : ProjectionSnapshotAssistedStateResolver} {orderId : String} {trusted : Option Uuid}
  {r : ProjectionSnapshotAssistedResolutionResult}

namespace ProjectionSnapshotAssistedStateResolver

/-- The snapshot a resolution reads. -/
def trustedSnapshot (R : ProjectionSnapshotAssistedStateResolver) (trusted : Option Uuid) :
    Option ProjectionSnapshot := trusted.bind R.loadSnapshot

/-- What is known of a resolution that its mapper checks. -/
structure Shaped (R : ProjectionSnapshotAssistedStateResolver) (orderId : String)
    (trusted : Option Uuid) (r : ProjectionSnapshotAssistedResolutionResult) : Prop where
  about : r.orderId = orderId
  snapshotId : ∀ s, R.trustedSnapshot trusted = some s → r.snapshotId = some s.snapshotId
  position : r.sourceGlobalPosition = (R.trustedSnapshot trusted).map (fun s => s.sourceGlobalPosition)
  shape : isBlank orderId = false → validateSnapshotAssistedResultShape r = .ok ()

theorem Answer.shape {s : ProjectionSnapshot} (hn : isBlank orderId = false)
    (h : Answer orderId s r) : validateSnapshotAssistedResultShape r = .ok () := by
  have horder := validateOrderId_ok hn "ProjectionSnapshotAssistedResolutionResult"
  cases h with
  | incompatible => simp [validateSnapshotAssistedResultShape, horder]
  | violated position =>
    simp [validateSnapshotAssistedResultShape, horder, requirePositiveSnapshotPosition_ok position]
  | failed position =>
    simp [validateSnapshotAssistedResultShape, horder, requirePositiveSnapshotPosition_ok position]
  | resolved position order =>
    have hresolved := validatePresentOrderState_ok (forall_some order)
      "ProjectionSnapshotAssistedResolutionResult" "resolved_state"
    simp [validateSnapshotAssistedResultShape, horder, hresolved,
      requirePositiveSnapshotPosition_ok position]

theorem shaped {fuel n : ℕ} (h : R.resolveOrder fuel orderId trusted = some (.ok r,n)) :
    R.Shaped orderId trusted r := by
  cases trusted with
  | none =>
    cases h
    exact ⟨rfl,fun _ h => (nomatch h),rfl,fun hn => by
      simp [validateSnapshotAssistedResultShape, validateOrderId_ok hn]⟩
  | some snapshotId =>
    cases hs : R.loadSnapshot snapshotId with
    | none =>
      have htrusted : R.trustedSnapshot (some snapshotId) = none := hs
      simp only [resolveOrder, hs] at h
      cases h
      refine ⟨rfl,fun s h => ?_,by rw [htrusted]; rfl,fun hn => by
        simp [validateSnapshotAssistedResultShape, validateOrderId_ok hn]⟩
      rw [htrusted] at h
      cases h
    | some s =>
      have htrusted : R.trustedSnapshot (some snapshotId) = some s := hs
      have ha := answer hs h
      have hfields : r.orderId = orderId ∧ r.snapshotId = some s.snapshotId ∧
          r.sourceGlobalPosition = some s.sourceGlobalPosition := by
        cases ha <;> exact ⟨rfl,rfl,rfl⟩
      refine ⟨hfields.1,fun s' hs' => ?_,?_,fun hn => ha.shape hn⟩
      · obtain rfl := Option.some.inj (htrusted.symm.trans hs')
        exact hfields.2.1
      · rw [htrusted, hfields.2.2, Option.map_some]

end ProjectionSnapshotAssistedStateResolver

theorem snapshotAssistedSubject_ok (hn : isBlank r.orderId = false) :
    ∃ subject, snapshotAssistedSubject r = .ok subject := by
  unfold snapshotAssistedSubject
  have hid := nonEmpty_some (snapshotIdText_not_blank r.snapshotId)
  split
  · exact ⟨_,DecisionReceiptSubject.make_ok (nonEmpty_some hn)⟩
  · exact ⟨_,DecisionReceiptSubject.make_ok hid⟩
  · exact ⟨_,DecisionReceiptSubject.make_ok hid⟩
  · exact ⟨_,DecisionReceiptSubject.make_ok nonEmpty_none⟩
  · exact ⟨_,DecisionReceiptSubject.make_ok nonEmpty_none⟩
  · exact ⟨_,DecisionReceiptSubject.make_ok nonEmpty_none⟩

theorem mapProjectionSnapshotAssistedResolutionResultToDecisionReceipt_ok
    (receiptId outcomeId : Uuid) (hn : isBlank orderId = false)
    (hp : ∀ s, R.trustedSnapshot trusted = some s → 0 ≤ s.sourceGlobalPosition)
    (h : R.Shaped orderId trusted r) :
    ∃ receipt, mapProjectionSnapshotAssistedResolutionResultToDecisionReceipt receiptId outcomeId r =
      .ok receipt ∧ receipt.Correlates orderId (R.trustedSnapshot trusted) := by
  have hshape := h.shape hn
  rw [← h.about] at hn
  obtain ⟨m,hm⟩ : ∃ m, mappingForStatus r.status.value = .ok m := by
    cases r.status <;> exact ⟨_,rfl⟩
  have hpositioned : NonNegativeIfPresent r.sourceGlobalPosition := by
    intro n hn
    obtain ⟨s,hs,rfl⟩ := Option.map_eq_some_iff.mp (h.position.symm.trans hn)
    exact hp s hs
  obtain ⟨receipt,hmade,hcites,-⟩ : ∃ receipt,
      mapProjectionSnapshotAssistedResolutionResultToDecisionReceipt receiptId outcomeId r =
        .ok receipt ∧ receipt.Cites (some r.orderId) none none none r.snapshotId
          r.sourceGlobalPosition ∧ receipt.admissionEvidence = none := by
    rw [mapProjectionSnapshotAssistedResolutionResultToDecisionReceipt, hshape, ok_bind]
    exact receipt_made hm rfl (requireReason_not_blank ..) (snapshotAssistedSubject_ok hn)
      (nonEmpty_some hn) nonEmpty_none hpositioned (fun _ h => nomatch h) rfl
  refine ⟨receipt,hmade,hcites.orderId.trans (congrArg some h.about),fun s hs => ?_,fun s hs => ?_⟩
  · exact hcites.snapshotId.trans (h.snapshotId s hs)
  · rw [hcites.sourceGlobalPosition, h.position, hs, Option.map_some]

end Resolution

/-- Whatever the three producers return about a named order has a receipt, as long as no
snapshot claims a negative position; the receipt cites the order and, if a snapshot was
read, its id and position. -/
theorem read_side_receipts_total (receiptId outcomeId : Uuid) {orderId : String}
    (hn : isBlank orderId = false) :
    (∀ (State : Type) (step : State → State → Prop) (committed : State → Tables) (s₀ s : State)
        (x : ReadSession) (r : ReplayValidationResult), (∀ s, (committed s).Keyed) →
      Observed step committed s₀ (DurableReplayValidator.program orderId) s x (.done (.ok r)) →
      ∃ receipt, mapReplayValidationResultToDecisionReceipt receiptId outcomeId r = .ok receipt ∧
        receipt.Correlates orderId none) ∧
    (∀ (V : ProjectionSnapshotReplayValidator) (fuel n : ℕ)
        (r : ProjectionSnapshotReplayValidationResult),
      (∀ s, V.loadLatestSnapshot orderId = some s → 0 ≤ s.sourceGlobalPosition) →
      V.validateOrder fuel orderId = some (.ok r,n) →
      ∃ receipt, mapProjectionSnapshotReplayValidationResultToDecisionReceipt receiptId outcomeId r =
        .ok receipt ∧ receipt.Correlates orderId (V.loadLatestSnapshot orderId)) ∧
    (∀ (R : ProjectionSnapshotAssistedStateResolver) (trusted : Option Uuid) (fuel n : ℕ)
        (r : ProjectionSnapshotAssistedResolutionResult),
      (∀ s, R.trustedSnapshot trusted = some s → 0 ≤ s.sourceGlobalPosition) →
      R.resolveOrder fuel orderId trusted = some (.ok r,n) →
      ∃ receipt, mapProjectionSnapshotAssistedResolutionResultToDecisionReceipt receiptId outcomeId r =
        .ok receipt ∧ receipt.Correlates orderId (R.trustedSnapshot trusted)) := by
  refine ⟨fun State step committed s₀ s x r ht hr => ?_,fun V fuel n r hp h => ?_,
    fun R trusted fuel n r hp h => ?_⟩
  · obtain ⟨s₁,-,-,hserial⟩ := hr.serial (DurableReplayValidator.program_confined orderId)
    rw [DurableReplayValidator.program_serial, Option.some.injEq] at hserial
    exact mapReplayValidationResultToDecisionReceipt_ok receiptId outcomeId hn
      (DurableReplayValidator.answer_cases (ht s₁) hserial)
  · exact mapProjectionSnapshotReplayValidationResultToDecisionReceipt_ok receiptId outcomeId hn hp
      (V.answer h)
  · exact mapProjectionSnapshotAssistedResolutionResultToDecisionReceipt_ok receiptId outcomeId hn hp
      (ProjectionSnapshotAssistedStateResolver.shaped h)

/-- The validator and resolver over the stores of a paid order and one snapshot. -/
def PaidOrder.validatorOf (s : ProjectionSnapshot) : ProjectionSnapshotReplayValidator :=
  ⟨fun _ => some s,(tables "o").events,PostgresOrderEventTailSource.loadAfterSequence (tables "o"),1,
    by decide⟩

def PaidOrder.resolverOf (s : ProjectionSnapshot) : ProjectionSnapshotAssistedStateResolver :=
  ⟨fun _ => some s,PostgresOrderEventTailSource.loadAfterSequence (tables "o"),1,by decide⟩

theorem read_side_receipts_total_paid :
    (∃ r receipt, DurableReplayValidator.answer (PaidOrder.tables "o") "o" = .ok r ∧
      mapReplayValidationResultToDecisionReceipt 1 2 r = .ok receipt ∧
      receipt.Correlates "o" none) ∧
    (∃ r receipt n, (PaidOrder.validatorOf (PaidOrder.snapshot "o")).validateOrder 3 "o" =
        some (.ok r,n) ∧
      mapProjectionSnapshotReplayValidationResultToDecisionReceipt 1 2 r = .ok receipt ∧
      receipt.Correlates "o" (some (PaidOrder.snapshot "o"))) ∧
    ∃ r receipt n, (PaidOrder.resolverOf (PaidOrder.snapshot "o")).resolveOrder 3 "o" (some 7) =
        some (.ok r,n) ∧
      mapProjectionSnapshotAssistedResolutionResultToDecisionReceipt 1 2 r = .ok receipt ∧
      receipt.Correlates "o" (some (PaidOrder.snapshot "o")) := by
  obtain ⟨hreplay,hsnapshot,hresolution⟩ := read_side_receipts_total 1 2
    (show isBlank "o" = false by decide)
  have hposition : ∀ s, some (PaidOrder.snapshot "o") = some s → 0 ≤ s.sourceGlobalPosition := by
    rintro s hs
    obtain rfl := Option.some.inj hs
    decide
  refine ⟨?_,?_,?_⟩
  · have hanswer : ∃ r, DurableReplayValidator.answer (PaidOrder.tables "o") "o" = .ok r := ⟨_,rfl⟩
    obtain ⟨r,hr⟩ := hanswer
    obtain ⟨⟨a,x⟩,hrun,ha⟩ := Option.map_eq_some_iff.mp
      (DurableReplayValidator.program_serial (PaidOrder.tables "o") "o")
    obtain rfl : a = .ok r := ha.trans hr
    obtain ⟨receipt,hreceipt,hc⟩ := hreplay Unit (fun _ _ => False) (fun _ => PaidOrder.tables "o") ()
      () x r (fun _ _ _ h => nomatch h) (Observed.start.finish hrun)
    exact ⟨r,receipt,hr,hreceipt,hc⟩
  · have hanswer : ∃ r n, (PaidOrder.validatorOf (PaidOrder.snapshot "o")).validateOrder 3 "o" =
      some (.ok r,n) := ⟨_,_,rfl⟩
    obtain ⟨r,n,hr⟩ := hanswer
    obtain ⟨receipt,hreceipt,hc⟩ := hsnapshot _ 3 n r hposition hr
    exact ⟨r,receipt,n,hr,hreceipt,hc⟩
  · have hanswer : ∃ r n, (PaidOrder.resolverOf (PaidOrder.snapshot "o")).resolveOrder 3 "o" (some 7) =
      some (.ok r,n) := ⟨_,_,rfl⟩
    obtain ⟨r,n,hr⟩ := hanswer
    obtain ⟨receipt,hreceipt,hc⟩ := hresolution (PaidOrder.resolverOf (PaidOrder.snapshot "o"))
      (some 7) 3 n r hposition hr
    exact ⟨r,receipt,n,hr,hreceipt,hc⟩

/-- A snapshot at a negative position is refused for its boundary, and the result that says
so has no receipt. -/
theorem negative_position_not_mapped :
    ∃ r, (PaidOrder.validatorOf {PaidOrder.snapshot "o" with sourceGlobalPosition := -1}).validateOrder
        3 "o" = some (.ok r,0) ∧ r.status = .invalidSnapshotBoundary ∧
      mapProjectionSnapshotReplayValidationResultToDecisionReceipt 1 2 r =
        .error (.valueError "source_global_position must be non-negative") := ⟨_,rfl,rfl,rfl⟩

end StreamingCompass
