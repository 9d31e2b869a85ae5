import StreamingCompass.Compass.WriteSideTotality
import StreamingCompass.Concurrency.Acceptance

/-! # The receipts of the results under interleaving

What a delivered result says about accepted history: the events and records it names are
committed and carry the ids their producers generated.
-/
namespace StreamingCompass
open Interleaving

theorem rehydrate_named {orderId : String} {history : List OrderEvent} {a : OrderAggregate}
    (h : rehydrate orderId history = .ok a) : isBlank orderId = false := by
  cases hb : isBlank orderId with
  | false => rfl
  | true => simp [rehydrate, OrderAggregate.new, hb, bind, Except.bind] at h

theorem WriteInvocation.candidate_identified {v : WriteInvocation} {log : SqlLog} {c : Candidate}
    (h : Built v.writeSide v.signature log c) : c.event.Identified v.draw.uuid ∧
      c.event.orderId = v.signature.orderId ∧ c.event.requestId = v.signature.requestId := by
  obtain ⟨rows,-,hc⟩ := h
  obtain ⟨a,ha,hbuild,-,-⟩ := WriteSide.candidateOf_eq_ok hc
  have he := handledEvent hbuild
  have horder := he.orderId.trans (rehydrate_orderId ha)
  exact ⟨⟨he.eventId,horder ▸ rehydrate_named ha,he.requestId ▸ he.request⟩,horder,he.requestId⟩

/-- A record that was found, with its event. -/
structure Tables.Holds (t : Tables) (requestId : String) (record : IdempotencyRow)
    (row : OrderEventRow) : Prop where
  recordCommitted : record ∈ t.idempotencyRecords
  eventCommitted : row ∈ t.orderEvents
  recorded : Recorded record row
  requestId : record.requestId = requestId

theorem Tables.Sound.holds {t : Tables} (h : t.Sound)
    (hids : (t.orderEvents.map (fun e => e.acceptedEventId)).Nodup) {requestId : String}
    {record : IdempotencyRow} {row : OrderEventRow} (hl : t.loadRecord requestId = some (record,row)) :
    t.Holds requestId record row := by
  obtain ⟨r,hr,hrest⟩ := Option.bind_eq_some_iff.mp hl
  obtain ⟨e,he,heq⟩ := Option.map_eq_some_iff.mp hrest
  obtain ⟨rfl,rfl⟩ := Prod.mk.inj heq
  have hmem := List.mem_of_find?_eq_some hr
  obtain ⟨e',he',hrecorded⟩ := h.eventOf hmem
  have hid : e.acceptedEventId = r.acceptedEventId := by simpa using List.find?_some he
  obtain rfl : e = e' := List.inj_on_of_nodup_map hids (List.mem_of_find?_eq_some he) he'
    (hid.trans hrecorded.acceptedEventId)
  exact ⟨hmem,he',hrecorded,by simpa using List.find?_some hr⟩

theorem Tables.Holds.identified {t : Tables} {requestId : String} {record : IdempotencyRow}
    {row : OrderEventRow} (h : t.Holds requestId record row) {u : Uuid}
    (hu : (rowToOrderEvent row).Identified u) :
    (PostgresIdempotencyStore.rowToIdempotencyRecord (record,row)).Identified u :=
  ⟨hu,h.recorded.orderId,h.recorded.requestId⟩

/-- The amount of a record is that of an accepted event. -/
theorem Tables.Holds.positiveAmount {t : Tables} {requestId : String} {record : IdempotencyRow}
    {row : OrderEventRow} (h : t.Holds requestId record row) (hsound : t.Sound) :
    PositiveAmount record.amount.toDecimal := by
  have hmem : rowToOrderEvent row ∈ (t.stream row.orderId).map rowToOrderEvent :=
    List.mem_map_of_mem (Tables.mem_stream.mpr ⟨h.eventCommitted,rfl⟩)
  rw [h.recorded.amount]
  exact (hsound.legal row.orderId).positive _ hmem

/-- What the ids and the admission fate of a result's receipt stand for. -/
inductive Accounted (t : Tables) (v : WriteInvocation) (r : PostgresWriteSideResult) :
    WriteSideReceipt.SelectedIdentity → EventAdmissionDisposition → Prop where
  | admitted {e : OrderEvent} (outcome : r.outcome = .accepted) (event : r.acceptedEvent = some e)
    (identified : e.Identified v.draw.uuid) (orderId : e.orderId = v.signature.orderId)
    (requestId : e.requestId = v.signature.requestId) :
    Accounted t v r ⟨some e.orderId,some e.requestId,some v.draw.uuid,some v.draw.uuid⟩
      .admittedToAcceptedHistory
  | answered {record : IdempotencyRow} {row : OrderEventRow} {u : Uuid} {candidate : Option Uuid}
    {disposition : EventAdmissionDisposition} (rejected : r.outcome ≠ .accepted)
    (holds : t.Holds v.signature.requestId record row) (identified : (rowToOrderEvent row).Identified u)
    (drawn : candidate = none ∨ candidate = some v.draw.uuid)
    (fate : disposition = .matchedExistingAcceptedEvent ∨
      disposition = .idempotencyConflictWithAcceptedHistory) :
    Accounted t v r ⟨some row.orderId,some row.requestId,candidate,some u⟩ disposition
  | refused {orderId : Option String} {candidate : Option Uuid}
    {disposition : EventAdmissionDisposition} (rejected : r.outcome ≠ .accepted)
    (drawn : candidate = none ∨ candidate = some v.draw.uuid)
    (fate : disposition = .semanticAdmissionRejected ∨ disposition = .appendConcurrencyConflict ∨
      disposition = .appendTechnicalFailure ∨ disposition = .appendAdmissionNotReached) :
    Accounted t v r ⟨orderId,none,candidate,none⟩ disposition

theorem Accounted.admitted_iff {t : Tables} {v : WriteInvocation} {r : PostgresWriteSideResult}
    {identity : WriteSideReceipt.SelectedIdentity} {disposition : EventAdmissionDisposition}
    (h : Accounted t v r identity disposition) :
    disposition = .admittedToAcceptedHistory ↔ r.outcome = .accepted := by
  cases h with
  | admitted outcome => exact iff_of_true rfl outcome
  | answered rejected _ _ _ fate =>
    refine iff_of_false (fun hd => ?_) rejected
    rcases fate with rfl | rfl <;> cases hd
  | refused rejected _ fate =>
    refine iff_of_false (fun hd => ?_) rejected
    rcases fate with rfl | rfl | rfl | rfl <;> cases hd

theorem strip_isEmpty_of_isBlank {s : String} (h : isBlank s = true) : (strip s).isEmpty = true := by
  rw [isBlank, Bool.or_eq_true] at h
  rcases h with h | h
  · simp [strip, List.isEmpty_iff.mp h]
  · exact h

theorem blank_refused {orderId : String} (hb : isBlank orderId = true) (receiptId outcomeId : Uuid) :
    mapPostgresWriteSideResultToDecisionReceipt receiptId outcomeId
      (.notPrepared .miss (.lockNotAvailable orderId) none) =
        .error (.valueError "stream admission order_id must be a non-empty string") := by
  have hshape : WriteSideReceipt.validateResultShape
      (.notPrepared .miss (.lockNotAvailable orderId) none) = .ok () := rfl
  have horder : (PostgresWriteSideResult.notPrepared .miss (.lockNotAvailable orderId)
      none).contextOrderId = .ok (some orderId) := rfl
  obtain ⟨outcome,houtcome,-⟩ := outcome_made
    (r := .notPrepared .miss (.lockNotAvailable orderId) none) rfl rfl rfl rfl horder rfl outcomeId
  have hstrip := strip_isEmpty_of_isBlank hb
  simp only [mapPostgresWriteSideResultToDecisionReceipt, hshape, houtcome, ok_bind,
    WriteSideReceipt.selectIdentity, WriteSideReceipt.selectConsistentString]
  simp [WriteSideReceipt.orderSources, WriteSideReceipt.acceptedEvents,
    PostgresWriteSideResult.notPrepared, IdempotencyDecision.miss,
    StreamAdmissionResult.lockNotAvailable, List.isEmpty_iff.mp hstrip]

theorem LockRefused.result_eq {v : WriteInvocation} {log : SqlLog} {r : PostgresWriteSideResult}
    (h : LockRefused v r) (hd : Delivered v.writeSide v.signature log r) :
    r = .notPrepared .miss (.lockNotAvailable v.signature.orderId) none := by
  have hrefused := h.refused
  cases hd with
  | decided checked found unread validated =>
    unfold PostgresWriteSideResult.decided at hrefused
    split at hrefused <;> cases hrefused
  | notPrepared checked prepared refused placed unread validated =>
    rw [placed.mpr h.placed, Option.some.inj hrefused]
  | blocked checked admitted unread validated blocks => cases (admitted _ hrefused).2
  | notAppended checked prepared admitted validated allowed refused translated =>
    obtain rfl := Option.some.inj hrefused
    cases admitted
  | accepted checked prepared admitted validated allowed reads =>
    obtain rfl := Option.some.inj hrefused
    cases admitted

variable {ι : Type} [DecidableEq ι] [Fintype ι] {D : Database ι} {faulty : ι → Prop}
  {invocations : ι → Invocation} {t : Tables} {c : System ι} {i : ι} {v : WriteInvocation}

/-- No two write invocations draw one event id. -/
def FreshDraws {ι : Type} (invocations : ι → Invocation) : Prop :=
  ∀ i j v w, invocations i = .write v → invocations j = .write w → v.draw.uuid = w.draw.uuid → i = j

namespace Reachable

/-- Every committed event was committed by a write invocation, under the id it drew. -/
theorem origin (h : Reachable D faulty .empty invocations c) :
    ∀ r ∈ c.world.tables.orderEvents, ∃ j v, invocations j = .write v ∧
      (rowToOrderEvent r).Identified v.draw.uuid ∧
      (⟨.commit,.ok ()⟩ : Exchange Operation Operation.Answer PyException) ∈ c.log j := by
  refine Reaches.invariant (fun c : System ι => ∀ r ∈ c.world.tables.orderEvents, ∃ j v,
    invocations j = .write v ∧ (rowToOrderEvent r).Identified v.draw.uuid ∧
      (⟨.commit,.ok ()⟩ : Exchange Operation Operation.Answer PyException) ∈ c.log j) ?_ ?_ h
  · simp [System.start, World.initial, Tables.empty]
  intro c c' hr hi hs r hmem
  have hkept (hold : r ∈ c.world.tables.orderEvents) : ∃ j v, invocations j = .write v ∧
      (rowToOrderEvent r).Identified v.draw.uuid ∧
      (⟨.commit,.ok ()⟩ : Exchange Operation Operation.Answer PyException) ∈ c'.log j := by
    obtain ⟨j,v,hv,hid,hcommit⟩ := hi r hold
    exact ⟨j,v,hv,hid,hs.log_subset j hcommit⟩
  cases Reachable.committed hr hs with
  | nothing same => exact hkept (same ▸ hmem)
  | projected _ projected commits =>
    rw [System.tables_of_commits commits, projected.tables] at hmem
    exact hkept hmem
  | @accepted j v e p row record hv accepting commits =>
    rw [System.tables_of_commits commits, accepting.tables] at hmem
    rcases List.mem_append.mp hmem with hold | hnew
    · exact hkept hold
    · obtain rfl := List.mem_singleton.mp hnew
      obtain ⟨rows,a,-,ha,hbuild,-,-⟩ := accepting.pending.appending.loaded
      have he := handledEvent hbuild
      have hback := accepting.storedEvent.rowToOrderEvent_eq
        (ensurePositiveMoney_eq_ok.mp he.positive).2
      refine ⟨j,v,hv,?_,?_⟩
      · rw [hback]
        exact ⟨he.eventId,(he.orderId.trans (rehydrate_orderId ha)) ▸ rehydrate_named ha,
          he.requestId ▸ he.request⟩
      · obtain ⟨next,-,rfl⟩ := commits
        rw [Config.advance_log_self]
        exact List.mem_cons_self ..

/-- Every committed event carries the ids its producer generated and checked. -/
theorem identified (h : Reachable D faulty .empty invocations c) :
    ∀ r ∈ c.world.tables.orderEvents, ∃ u, (rowToOrderEvent r).Identified u := by
  intro r hr
  obtain ⟨j,v,-,hid,-⟩ := h.origin r hr
  exact ⟨v.draw.uuid,hid⟩

/-- The event of an invocation that was not accepted never enters accepted history. -/
theorem unaccepted (h : Reachable D faulty .empty invocations c) (hfresh : FreshDraws invocations)
    (hv : invocations i = .write v) {d : PostgresWriteSideDelivery} (hd : c.delivered i = some (.ok d))
    (ho : d.producerValue.result.outcome ≠ .accepted) :
    ∀ row ∈ c.world.tables.orderEvents, row.acceptedEventId ≠ v.draw.uuid.str := by
  intro row hrow hid
  obtain ⟨j,w,hw,hidentified,hcommit⟩ := h.origin row hrow
  obtain rfl := hfresh i j v w hv hw (Uuid.str_injective (hid.symm.trans hidentified.eventId))
  have hends := h.meets i _ (System.delivered_eq_some.mp hd)
  rw [hv] at hends
  exact (Concluded.ended (v := d.producerValue.result) hends ho).uncommitted _ hcommit rfl

/-- A record a write invocation was answered with was committed, and still is. -/
theorem checked (h : Reachable D faulty .empty invocations c) (hv : invocations i = .write v)
    {pair : IdempotencyRow × OrderEventRow}
    (hmem : (⟨.selectIdempotencyRecord v.signature.requestId,.ok (some pair)⟩ :
      Exchange Operation Operation.Answer PyException) ∈ c.log i) :
    c.world.tables.Holds v.signature.requestId pair.1 pair.2 := by
  obtain ⟨c₁,next,w,hp,-⟩ := Reaches.performed_of_mem h rfl hmem
  have h₁ := of_performed hp
  have hg := h₁.guard hp.running
  rw [hv] at hg
  have hread : some pair = c₁.world.tables.loadRecord v.signature.requestId := by
    rw [← (h₁.mirrors hp.running).visible_eq hg.2.noRows]
    exact SqlStep.answer hp.executes rfl (fun _ => rfl)
  have hholds := (h₁.sound .initial .empty).holds (h₁.integral .initial).eventId.settled hread.symm
  have hgrow := performed_grows hp
  exact ⟨hgrow.2.subset hholds.recordCommitted,hgrow.1.subset hholds.eventCommitted,
    hholds.recorded,hholds.requestId⟩

/-- A delivered result has a receipt, unless the lock of a blank order was refused. -/
theorem accounted (h : Reachable D faulty .empty invocations c) (hv : invocations i = .write v)
    (hnames : NamesCandidate v.invokeValidation) {d : PostgresWriteSideDelivery}
    (hd : c.delivered i = some (.ok d))
    (hnamed : ¬(LockRefused v d.producerValue.result ∧ isBlank v.signature.orderId = true)) :
    ∃ identity disposition, ReceiptProfile d.producerValue.result identity disposition ∧
      Accounted c.world.tables v d.producerValue.result identity disposition := by
  have hdelivered := h.delivers hv hd
  generalize d.producerValue.result = result at hdelivered hnamed
  have hjudged {c' : Candidate} (hc : Validated v.writeSide v.signature (c.log i) c') :
      c'.validationDecision.validationResult.candidateEventId = v.draw.uuid.str ∧
        isBlank v.signature.orderId = false := by
    obtain ⟨hid,horder,-⟩ := WriteInvocation.candidate_identified hc.built
    exact ⟨(hc.names hnames).trans hid.eventId,horder ▸ hid.orderId⟩
  have hdrawn (validation : Option Candidate) : validation.map (fun _ => v.draw.uuid) = none ∨
      validation.map (fun _ => v.draw.uuid) = some v.draw.uuid := by
    cases validation with
    | none => exact .inl rfl
    | some c => exact .inr rfl
  cases hdelivered with
  | @decided decision validation checked found unread validated =>
    obtain ⟨row,hmem,hclass⟩ := checked
    have hcandidates : ∀ c', validation = some c' → c'.Judged .allow v.draw.uuid :=
      fun c' hc => ⟨(validated c' hc).2,(hjudged (validated c' hc).1).1⟩
    rcases PostgresIdempotencyStore.classify_cases hclass with ⟨rfl,-⟩ | ⟨pair,rfl,hpair⟩
    · exact absurd rfl found
    · have hholds := h.checked hv hmem
      obtain ⟨u,hu⟩ := h.identified _ hholds.eventCommitted
      rcases hpair with rfl | rfl
      · exact ⟨_,_,profile_replay (hholds.identified hu) hcandidates,
          .answered (by simp) hholds hu (hdrawn validation) (.inl rfl)⟩
      · exact ⟨_,_,profile_conflict (hholds.identified hu) hcandidates,
          .answered (by simp) hholds hu (hdrawn validation) (.inr rfl)⟩
  | @notPrepared p validation checked prepared refused placed unread validated =>
    have hcandidates : ∀ c', validation = some c' → c'.Judged .allow v.draw.uuid :=
      fun c' hc => ⟨(validated c' hc).2,(hjudged (validated c' hc).1).1⟩
    have horder : isBlank p.orderId = false := by
      rw [prepared.orderId]
      cases hval : validation with
      | some c' => exact (hjudged (validated c' hval).1).2
      | none =>
        cases hb : isBlank v.signature.orderId with
        | false => rfl
        | true =>
          refine absurd ⟨?_,hb⟩ hnamed
          cases hg : v.gate with
          | optimistic =>
            rw [show v.writeSide.gate = v.gate from rfl, hg] at prepared
            cases prepared
            exact absurd rfl refused
          | pessimistic =>
            rw [show v.writeSide.gate = v.gate from rfl, hg] at prepared
            cases prepared with
            | acquired replied => exact absurd rfl refused
            | refused replied => exact ⟨placed.mp hval,hg,rfl⟩
    exact ⟨_,_,profile_notPrepared refused horder hcandidates,
      .refused (by simp) (hdrawn validation) (.inr (.inr (.inr rfl)))⟩
  | @blocked prepared c' checked admitted unread validated blocks =>
    obtain ⟨hname,horder⟩ := hjudged validated
    have hblock : c'.validationDecision.action = .block := by
      cases ha : c'.validationDecision.action with
      | block => rfl
      | allow => exact absurd ha blocks
    exact ⟨_,_,profile_blocked (fun s hs => ⟨(admitted s hs).2,(admitted s hs).1.orderId⟩) horder
      ⟨hblock,hname⟩,.refused (by simp) (.inr rfl) (.inl rfl)⟩
  | @notAppended p c' cause admission checked prepared admitted validated allowed refused translated =>
    obtain ⟨hname,horder⟩ := hjudged validated
    obtain ⟨hid,-,-⟩ := WriteInvocation.candidate_identified validated.built
    have hnamed' : isBlank p.orderId = false := prepared.orderId ▸ horder
    obtain ⟨disposition,hfate,hprofile⟩ := profile_notAppended admitted hnamed' ⟨allowed,hname⟩
      hid.eventId (translateAppendError_not_admitted translated)
      (translateAppendError_rejectedAs translated)
    exact ⟨_,disposition,hprofile,.refused (by simp) (.inr rfl)
      (.inr (hfate.elim .inl (fun hf => .inr (.inl hf))))⟩
  | @accepted p c' checked prepared admitted validated allowed reads =>
    obtain ⟨hname,horder⟩ := hjudged validated
    obtain ⟨hid,heo,her⟩ := WriteInvocation.candidate_identified validated.built
    exact ⟨_,_,profile_accepted admitted (prepared.orderId.trans heo.symm) ⟨allowed,hname⟩ hid,
      .admitted rfl rfl hid heo her⟩

/-- Every delivered result has a receipt whose admission fate is that of the result and
whose ids the table takes, except a lock refused for a blank order, which the mapper refuses. -/
theorem write_side_receipts_total (h : Reachable D faulty .empty invocations c)
    (hv : invocations i = .write v) (hnames : NamesCandidate v.invokeValidation)
    {d : PostgresWriteSideDelivery} (hd : c.delivered i = some (.ok d)) (receiptId outcomeId : Uuid) :
    (LockRefused v d.producerValue.result ∧ isBlank v.signature.orderId = true →
      mapPostgresWriteSideResultToDecisionReceipt receiptId outcomeId d.producerValue.result =
        .error (.valueError "stream admission order_id must be a non-empty string")) ∧
    (¬(LockRefused v d.producerValue.result ∧ isBlank v.signature.orderId = true) →
      ∃ receipt,
        mapPostgresWriteSideResultToDecisionReceipt receiptId outcomeId d.producerValue.result =
          .ok receipt ∧
        (receipt.admissionEvidence = some .admittedToAcceptedHistory ↔
          d.producerValue.result.outcome = .accepted) ∧
        ckAdmissionIdentityAlignment receipt.admissionEvidence receipt.correlation.candidateEventId
          receipt.correlation.acceptedEventId = true) := by
  constructor
  · rintro ⟨hl,hb⟩
    rw [hl.result_eq (h.delivers hv hd)]
    exact blank_refused hb receiptId outcomeId
  · intro hn
    obtain ⟨identity,disposition,hprofile,haccounted⟩ := h.accounted hv hnames hd hn
    obtain ⟨receipt,hok,hreports⟩ := hprofile.receipt receiptId outcomeId
    refine ⟨receipt,hok,?_,?_⟩
    · rw [hreports.admissionEvidence, Option.some.injEq]
      exact haccounted.admitted_iff
    · rw [hreports.admissionEvidence, hreports.cites.candidateEventId, hreports.cites.acceptedEventId]
      exact hprofile.aligned

theorem write_side_receipts_total_racing : ∃ d receipt,
    RacingCreations.final.delivered 0 = some (.ok d) ∧
      mapPostgresWriteSideResultToDecisionReceipt 0 1 d.producerValue.result = .ok receipt := by
  have hstale : (RacingCreations.final.delivered 0).map (fun r => r.map (fun d =>
      d.producerValue.result.outcome)) = some (.ok .admissionRejected) := by decide +kernel
  obtain ⟨r,hr,hr'⟩ := Option.map_eq_some_iff.mp hstale
  cases r with
  | error e => cases hr'
  | ok d =>
    obtain ⟨receipt,hok,-⟩ := (write_side_receipts_total RacingCreations.reachable
      (v := RacingCreations.stale) rfl (invokeValidation_namesCandidate _) hr 0 1).2
        (fun hn => absurd hn.2 (by decide))
    exact ⟨d,receipt,hr,hok⟩

end Reachable

/-! Two creations of a blank order, the second asking for the lock the first one holds. -/
namespace BlankOrders

def create (requestId : String) (draw : Draw) : WriteInvocation :=
  ⟨.inTransaction,.pessimistic,invokeValidation .strict,
    ⟨requestId,.create," ",.decimal (.ofCents false 1000)⟩,draw,false,none⟩

def calls : Fin 2 → Invocation
  | 0 => .write (create "r-0" ⟨0,0⟩)
  | 1 => .write (create "r-1" ⟨1,0⟩)

def final : System (Fin 2) :=
  ((System.start .empty calls).drive RacingCreations.server.serve [0,0,0,0,1,1,1,1,1]).get
    (by decide +kernel)

end BlankOrders

theorem blank_order_not_mapped :
    Reachable RacingCreations.server (fun _ => False) .empty BlankOrders.calls BlankOrders.final ∧
      ∃ d, BlankOrders.final.delivered 1 = some (.ok d) ∧
        mapPostgresWriteSideResultToDecisionReceipt 0 1 d.producerValue.result =
          .error (.valueError "stream admission order_id must be a non-empty string") := by
  refine ⟨.of_drive (Option.some_get _).symm,?_⟩
  have hrefused : (BlankOrders.final.delivered 1).map (fun r => r.map (fun d =>
      d.producerValue.result)) =
        some (.ok (.notPrepared .miss (.lockNotAvailable " ") none)) := by decide +kernel
  obtain ⟨r,hr,hr'⟩ := Option.map_eq_some_iff.mp hrefused
  cases r with
  | error e => cases hr'
  | ok d =>
    have hresult : d.producerValue.result = _ := Except.ok.inj hr'
    exact ⟨d,hr,hresult ▸ blank_refused (by decide) 0 1⟩

end StreamingCompass
