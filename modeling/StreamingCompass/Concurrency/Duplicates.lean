import StreamingCompass.Concurrency.Deadlock
import StreamingCompass.Concurrency.Retry
import StreamingCompass.Concurrency.StaleWrites
import StreamingCompass.Transactional.StoreAgreement

/-! # Racing duplicates

Invocations of one request id and nothing else. The loser ends in a typed result unless
the winner commits inside one of two windows: between the loser's check and its load of
the same order, or between its check and the insert of its record.
-/
namespace StreamingCompass
open Interleaving

/-! ## What a healthy server refuses -/

section Server
variable {ι : Type} [DecidableEq ι] [Fintype ι] {D : Database ι} {w w' : World ι} {i : ι}

/-- An error of a statement that was sent on a healthy transaction is its effect. -/
theorem exec_error {op : Operation} (hs : op.isStatement = true) (ht : op.texts.any hasNul = false)
    (hok : (w.transactions i).failed = false) {position : ℕ} {cause : PyException}
    (h : exec D position i w op = some (.error cause,w')) :
    effect D position i w op = some (.error cause) := by
  rw [exec_statement hs] at h
  simp only [statement, ht, hok, Bool.false_eq_true, if_false] at h
  split at h
  · cases h
  · rename_i e he
    obtain rfl := Except.error.inj (Prod.mk.inj (Option.some.inj h)).1
    exact he
  · cases h

/-- An event that fits its columns is refused only for a key. -/
theorem insertOrderEvent_duplicate {e : OrderEvent} {position : ℕ} {cause : PyException}
    {amount : Numeric} (hamount : Numeric.ofDecimal e.amount = .ok amount)
    (hpositive : Numeric.zero.le amount = true) (hsequence : 0 < e.sequence)
    (h : insertOrderEvent w i position e = some (.error cause)) :
    ∃ constraint, cause = duplicateKey constraint := by
  simp only [insertOrderEvent, hamount, failedCheck, hpositive, hsequence, decide_true, if_true] at h
  split at h
  · exact ⟨_,(Except.error.inj (Option.some.inj h)).symm⟩
  · split at h
    · cases h
    · split at h
      · exact ⟨_,(Except.error.inj (Option.some.inj h)).symm⟩
      · split at h <;> cases h

/-- The record of a visible event is refused only when its request is recorded. -/
theorem insertIdempotencyRecord_duplicate {p : IdempotencyParameters} {cause : PyException}
    {amount : Numeric} (hamount : Numeric.ofDecimal p.amount = .ok amount)
    (hpositive : Numeric.zero.le amount = true) (hversion : 0 < p.fingerprintVersion)
    (hsequence : 0 < p.resultSequence) (hfingerprint : trimNotEmpty p.semanticFingerprint = true)
    (hevent : ∃ r ∈ (w.visible i).orderEvents, r.acceptedEventId = p.acceptedEventId)
    (h : insertIdempotencyRecord w i p = some (.error cause)) :
    ∃ r ∈ (w.visible i).idempotencyRecords, r.requestId = p.requestId := by
  simp only [insertIdempotencyRecord, hamount, failedCheck, hpositive, hversion, hsequence,
    hfingerprint, decide_true, if_true] at h
  split at h
  · rename_i hrequest
    obtain ⟨r,hr,hid⟩ := List.any_eq_true.mp hrequest
    exact ⟨r,hr,of_decide_eq_true hid⟩
  · split at h
    · cases h
    · split at h
      · cases h
      · rename_i hreference
        obtain ⟨r,hr,hid⟩ := hevent
        exact absurd (List.any_eq_true.mpr ⟨r,hr,decide_eq_true hid⟩) hreference

theorem translateAppendError_uniqueViolation (gateName : String) (e : OrderEvent)
    (constraint : Option String) (message : String) :
    ∃ admission, translateAppendError gateName e (.uniqueViolation constraint message) =
      .ok admission := by
  simp only [translateAppendError]
  split
  · exact ⟨_,rfl⟩
  · exact ⟨_,rfl⟩

end Server

/-! ## Duplicates -/

/-- What the columns can hold of a request. -/
structure RequestSignature.FitsColumns (s : RequestSignature) : Prop where
  requestId : hasNul s.requestId = false
  orderId : hasNul s.orderId = false
  amount : ∀ d, normalizeMoney s.amount = .ok d → ∃ n, Numeric.ofDecimal d = .ok n

variable {ι : Type}

/-- Invocations of one request, each of which the aggregate accepts in the first tables. -/
structure Duplicates (D : Database ι) (t : Tables) (requestId : String) (calls : ι → WriteInvocation) :
    Prop where
  request : ∀ i, (calls i).signature.requestId = requestId
  accepted : ∀ i, ∃ a e, rehydrate (calls i).signature.orderId (t.events (calls i).signature.orderId) =
    .ok a ∧ (calls i).writeSide.buildCandidateEvent a = .ok e
  validation : ∀ i, ∃ mode, (calls i).invokeValidation = invokeValidation mode
  manual : ∀ i, D.autocommit i = false

/-- The two statements that overlook a record of the request: the load of the history the
record's event is in, and the insert of a second record. -/
def Overlooks (s : RequestSignature) (before : Tables) : Operation → Prop
  | .selectHistory orderId =>
    ∃ r ∈ before.idempotencyRecords, r.requestId = s.requestId ∧ r.orderId = orderId
  | .insertIdempotencyRecord _ => ∃ r ∈ before.idempotencyRecords, r.requestId = s.requestId
  | _ => False

instance (s : RequestSignature) (before : Tables) (op : Operation) : Decidable (Overlooks s before op) := by
  cases op <;> unfold Overlooks <;> infer_instance

/-- The repository's runtime judges every identified candidate. -/
theorem invokeValidation_ok (mode : ValidationMode) (context : ValidationContext) {e : OrderEvent}
    (hid : isBlank e.eventId = false) : ∃ validation, invokeValidation mode e context = .ok validation ∧
      validation.decision = decideValidation mode e context := by
  have hdecision : (decideWithRuleEvidence mode e context).map (fun c => c.decision) =
      .ok (decideValidation mode e context) := decideWithRuleEvidence_decision hid
  cases hcarrier : decideWithRuleEvidence mode e context with
  | error err =>
    rw [hcarrier] at hdecision
    cases hdecision
  | ok carrier =>
    rw [hcarrier] at hdecision
    refine ⟨⟨carrier.decision,some carrier,fun c hc => by cases hc; rfl⟩,?_,Except.ok.inj hdecision⟩
    simp only [invokeValidation, hcarrier, bind, Except.bind]

theorem WriteInvocation.candidateOf_allowed {v : WriteInvocation} {mode : ValidationMode}
    (hv : v.invokeValidation = StreamingCompass.invokeValidation mode) {history : List OrderEvent}
    (hl : LegalHistory v.signature.orderId history) {a : OrderAggregate} {e : OrderEvent}
    (ha : rehydrate v.signature.orderId history = .ok a)
    (he : v.writeSide.buildCandidateEvent a = .ok e) :
    ∃ candidate, v.writeSide.candidateOf v.signature.orderId history = .ok candidate ∧
      candidate.event = e ∧ candidate.validationDecision.action = .allow := by
  obtain ⟨-,rfl⟩ := hl.eq_of_rehydrate ha
  have hhandled := handledEvent he
  have hid : isBlank e.eventId = false := by
    rw [hhandled.eventId]
    exact generateEventId_not_blank _
  obtain ⟨validation,hvalidation,hdecision⟩ := invokeValidation_ok mode
    (buildValidationContext (aggregateOf v.signature.orderId history) history.getLast?) hid
  have hinvoked : v.writeSide.invokeValidation e (buildValidationContext
      (aggregateOf v.signature.orderId history) history.getLast?) = .ok validation := by
    change v.invokeValidation e _ = _
    rw [hv, hvalidation]
  refine ⟨⟨e,(aggregateOf v.signature.orderId history).currentVersion,validation⟩,?_,rfl,?_⟩
  · simp only [WriteSide.candidateOf, ha, he, hinvoked, bind, Except.bind]
  · change validation.decision.action = .allow
    rw [hdecision]
    exact decideValidation_allow (hl.followsContext hhandled)

theorem RequestSignature.FitsColumns.stored {s : RequestSignature} (h : s.FitsColumns) {d : Decimal}
    (hd : ensurePositiveMoney s.amount = .ok d) :
    ∃ n, Numeric.ofDecimal d = .ok n ∧ Numeric.zero.le n = true := by
  obtain ⟨hnorm,q,-,-,rfl⟩ := ensurePositiveMoney_eq_ok.mp hd
  obtain ⟨n,hn⟩ := h.amount _ hnorm
  exact ⟨n,hn,Numeric.zero_le_of_ofCents hn⟩

theorem WriteInvocation.appending_handled {v : WriteInvocation} {log : SqlLog} {e : OrderEvent}
    (h : Appending v.writeSide v.signature log e) : ∃ a, HandledEvent a v.signature.commandType v.draw
      v.signature.requestId v.signature.amount e ∧ e.orderId = v.signature.orderId ∧ 0 < e.sequence := by
  obtain ⟨rows,a,-,ha,he,-,hsequence⟩ := h.loaded
  have hhandled := handledEvent he
  have hversion := (rehydrate_head ha).1
  exact ⟨a,hhandled,hhandled.orderId.trans (rehydrate_orderId ha),by omega⟩

theorem PostgresIdempotencyStore.classify_ok {s : RequestSignature} {d : Decimal}
    (row : Option (IdempotencyRow × OrderEventRow)) (h : normalizeMoney s.amount = .ok d) :
    ∃ decision, classify s row = .ok decision := by
  cases row with
  | none => exact ⟨_,rfl⟩
  | some pair =>
    simp only [classify, buildSemanticFingerprint_eq, h, Except.map, bind, Except.bind]
    split
    · exact ⟨_,rfl⟩
    · exact ⟨_,rfl⟩

/-! ## A race -/

abbrev writers (calls : ι → WriteInvocation) : ι → Invocation := fun i => .write (calls i)

variable [DecidableEq ι] [Fintype ι] {D : Database ι} {faulty : ι → Prop} {t : Tables}
  {requestId : String} {calls : ι → WriteInvocation} {c : System ι} {i j : ι}

/-- No statement of an invocation has overlooked a record of its request. -/
def System.Clear (c : System ι) (calls : ι → WriteInvocation) (i : ι) : Prop :=
  ∀ x ∈ ownSteps i c.trace, ¬Overlooks (calls i).signature x.before.tables x.op

namespace Reachable

theorem added_request (h : Reachable D faulty t (writers calls) c) (hd : Duplicates D t requestId calls) :
    ∃ added, c.world.tables.orderEvents = t.orderEvents ++ added ∧
      ∀ r ∈ added, r.requestId = requestId := by
  refine Reaches.invariant (fun c : System ι => ∃ added,
    c.world.tables.orderEvents = t.orderEvents ++ added ∧ ∀ r ∈ added, r.requestId = requestId)
    ⟨[],(List.append_nil _).symm,fun _ hr => nomatch hr⟩ ?_ h
  rintro c c' hr ⟨added,hevents,hadded⟩ hs
  cases Reachable.committed hr hs with
  | nothing same => exact ⟨added,by rw [same, hevents],hadded⟩
  | projected hv => cases hv
  | @accepted k v e p row record hv accepting commits =>
    obtain rfl := Invocation.write.inj hv
    obtain ⟨a,hhandled,-,-⟩ := WriteInvocation.appending_handled accepting.pending.appending
    refine ⟨added ++ [row],?_,fun r hrow => ?_⟩
    · rw [System.tables_of_commits commits, accepting.tables, Tables.accept_orderEvents, hevents,
        List.append_assoc]
    · rcases List.mem_append.mp hrow with hold | hnew
      · exact hadded r hold
      · obtain rfl := List.mem_singleton.mp hnew
        obtain ⟨amount,position,-,-,-,rfl⟩ := accepting.storedEvent
        exact hhandled.requestId.trans (hd.request k)

/-- A history changes only together with a record of the request for its order. -/
theorem history_unchanged (h : Reachable D faulty t (writers calls) c)
    (hd : Duplicates D t requestId calls) (ht : (World.initial t : World ι).Integral) (hs : t.Sound)
    {orderId : String} (hnone : ∀ r ∈ c.world.tables.idempotencyRecords, r.requestId = requestId →
      r.orderId ≠ orderId) : c.world.tables.history orderId = t.history orderId := by
  obtain ⟨added,hevents,hadded⟩ := h.added_request hd
  have hsound := h.sound ht hs
  have hothers : added.filter (fun r => r.orderId = orderId) = [] := by
    rw [List.filter_eq_nil_iff]
    intro r hr horder
    have hmem : r ∈ c.world.tables.orderEvents := hevents ▸ List.mem_append_right _ hr
    obtain ⟨record,hrecord,hrecorded⟩ := hsound.recordOf hmem
    exact hnone record hrecord (hrecorded.requestId.trans (hadded r hr))
      (hrecorded.orderId.trans (of_decide_eq_true horder))
  have hstream : c.world.tables.stream orderId = t.stream orderId := by
    rw [Tables.stream, hevents, List.filter_append, hothers, List.append_nil]
    rfl
  rw [hsound.history_eq, hs.history_eq, hstream]

/-- A healthy duplicate that has overlooked nothing sees no error but a duplicate key of its
append. -/
theorem duplicate_errors (h : Reachable D faulty t (writers calls) c) (hf : ¬faulty i)
    (hfits : (calls i).signature.FitsColumns) (hclear : c.Clear calls i) {op : Operation}
    {cause : PyException}
    (hmem : (⟨op,.error cause⟩ : Exchange Operation Operation.Answer PyException) ∈ c.log i) :
    op.isAppend = true ∧ ∃ constraint, cause = duplicateKey constraint := by
  obtain ⟨c₁,next,w,hp,-⟩ := Reaches.performed_of_mem h rfl hmem
  have h₁ := of_performed hp
  have hm := h₁.mirrors hp.running
  have hsees : ¬Overlooks (calls i).signature c₁.world.tables op :=
    hclear _ (List.mem_filter.mpr ⟨hp.recorded.subset (List.mem_cons_self ..),by simp⟩)
  obtain ⟨position,hruns⟩ := SqlStep.runs hp.executes hf
  have hok (hclean : (session (c₁.log i)).dirty = false) :
      (c₁.world.transactions i).failed = false := by
    cases hfailed : (c₁.world.transactions i).failed with
    | false => rfl
    | true => exact absurd (hm.failed hfailed) (by simp [hclean])
  have hg : writeGuard (calls i).writeSide (calls i).signature (c₁.log i) op := h₁.guard hp.running
  have horder := hfits.orderId
  have hrequest := hfits.requestId
  cases op with
  | autocommit | commit | rollback => cases (Prod.mk.inj (Option.some.inj hruns)).1
  | selectIdempotencyRecord requestId =>
    obtain ⟨rfl,hu⟩ := hg
    cases exec_error rfl (by simp [Operation.texts, hrequest]) (hok hu.clean) hruns
  | selectHistory orderId =>
    obtain ⟨rfl,hu⟩ := hg
    cases exec_error rfl (by simp [Operation.texts, horder]) (hok hu.clean) hruns
  | tryAdvisoryXactLock key orderId =>
    obtain ⟨⟨rfl,rfl⟩,hu⟩ := hg
    have hkey : hasNul "order_events_stream" = false := by decide
    have heffect := exec_error rfl (by simp [Operation.texts, hkey, horder]) (hok hu.clean) hruns
    simp only [effect, tryAdvisoryXactLock] at heffect
    split at heffect <;> cases heffect
  | selectCurrentVersion orderId =>
    obtain ⟨⟨candidate,hvalidated,rfl⟩,hu⟩ := hg
    obtain ⟨-,hnamed,-⟩ := WriteInvocation.candidate_identified hvalidated.built
    cases exec_error rfl (by simp [Operation.texts, hnamed, horder]) (hok hu.clean) hruns
  | insertOrderEvent e =>
    obtain ⟨hu,happ⟩ := hg
    obtain ⟨a,hhandled,hnamed,hsequence⟩ := WriteInvocation.appending_handled happ
    obtain ⟨n,hn,hpositive⟩ := hfits.stored hhandled.positive
    have heffect := exec_error rfl
      (by simp [Operation.texts, hnamed, hhandled.requestId, horder, hrequest]) (hok hu.clean) hruns
    exact ⟨rfl,insertOrderEvent_duplicate hn hpositive hsequence heffect⟩
  | insertIdempotencyRecord p =>
    obtain ⟨e,hpending,hparams⟩ := hg
    obtain ⟨a,hhandled,hnamed,hsequence⟩ := WriteInvocation.appending_handled hpending.appending
    obtain ⟨n,hn,hpositive⟩ := hfits.stored hhandled.positive
    obtain ⟨hnorm,q,-,-,hq⟩ := ensurePositiveMoney_eq_ok.mp hhandled.positive
    rw [PostgresIdempotencyStore.recordParameters_eq, hnorm] at hparams
    obtain rfl := Except.ok.inj hparams
    have hfingerprint : hasNul (fingerprintText (calls i).signature.commandType
        (calls i).signature.orderId e.amount) = false := by
      rw [hq]
      exact PostgresIdempotencyStore.hasNul_fingerprintText horder
    have heffect : insertIdempotencyRecord c₁.world i _ = some (.error cause) := exec_error rfl
      (by simp [Operation.texts, horder, hrequest, hfingerprint]) (hok hpending.clean) hruns
    -- the event the record refers to is pending, and nothing else is
    have hevents := hm.events
    have hrecords := hm.records
    rw [hpending.events] at hevents
    rw [hpending.records] at hrecords
    obtain ⟨row,_,hrow,-,hrows⟩ := List.forall₂_cons_left_iff.mp hevents
    have hreference : ∃ r ∈ (c₁.world.visible i).orderEvents, r.acceptedEventId = e.eventId := by
      obtain ⟨amount,position,-,-,-,rfl⟩ := hrow
      exact ⟨_,List.mem_append_right _ (hrows ▸ List.mem_cons_self ..),rfl⟩
    have hversion : 0 < fingerprintVersion := by decide
    obtain ⟨record,hrecord,hid⟩ := insertIdempotencyRecord_duplicate (p := ⟨_,_,_,_,_,_,_,_⟩) hn hpositive
      hversion hsequence (PostgresIdempotencyStore.fingerprintText_not_blank ..) hreference heffect
    rw [World.visible, Tables.apply_idempotencyRecords, List.forall₂_nil_left_iff.mp hrecords,
      List.append_nil] at hrecord
    exact absurd ⟨record,hrecord,hid⟩ hsees
  | transactionStatus | begin | selectEligible | selectProjectionState | upsertProjectionState
  | advanceProgress => exact hg.elim

/-- A duplicate that has overlooked nothing loads its order's first history. -/
theorem loaded_first (h : Reachable D faulty t (writers calls) c) (hd : Duplicates D t requestId calls)
    (ht : (World.initial t : World ι).Integral) (hs : t.Sound) (hclear : c.Clear calls i)
    {rows : List OrderEventRow}
    (hmem : (⟨.selectHistory (calls i).signature.orderId,.ok rows⟩ :
      Exchange Operation Operation.Answer PyException) ∈ c.log i) :
    rows.map rowToOrderEvent = t.events (calls i).signature.orderId := by
  obtain ⟨c₁,next,w,hp,-,rfl⟩ := h.loaded rfl hmem
  have hsees := hclear _ (List.mem_filter.mpr ⟨hp.recorded.subset (List.mem_cons_self ..),by simp⟩)
  have hsame := (of_performed hp).history_unchanged hd ht hs (fun r hr hrequest horder =>
    hsees ⟨r,hr,hrequest.trans (hd.request i).symm,horder⟩)
  rw [hsame]
  rfl

/-- A healthy duplicate that has overlooked nothing raises nothing and is not blocked. -/
theorem duplicate_returns (h : Reachable D faulty t (writers calls) c)
    (hd : Duplicates D t requestId calls) (ht : (World.initial t : World ι).Integral) (hs : t.Sound)
    (hf : ¬faulty i) (hfits : (calls i).signature.FitsColumns) (hclear : c.Clear calls i)
    {r : Except PyException PostgresWriteSideDelivery} (hr : c.delivered i = some r) :
    ∃ d, r = .ok d ∧ d.producerValue.result.outcome ≠ .validationBlocked := by
  obtain ⟨a,event,ha,he⟩ := hd.accepted i
  obtain ⟨mode,hmode⟩ := hd.validation i
  obtain ⟨hnorm,-⟩ := ensurePositiveMoney_eq_ok.mp (handledEvent he).positive
  obtain ⟨candidate,hcandidate,-,hallowed⟩ :=
    WriteInvocation.candidateOf_allowed hmode (hs.legal_events _) ha he
  have hloaded {rows : List OrderEventRow}
      (hmem : (⟨.selectHistory (calls i).signature.orderId,.ok rows⟩ :
        Exchange Operation Operation.Answer PyException) ∈ c.log i) :
      (calls i).writeSide.candidateOf (calls i).signature.orderId (rows.map rowToOrderEvent) =
        .ok candidate := by
    rw [h.loaded_first hd ht hs hclear hmem, hcandidate]
  have hends := (h.finishes rfl hr).1
  cases r with
  | error e =>
    obtain ⟨-,hraised⟩ : Ended (c.log i) ∧ Raised (calls i).writeSide (calls i).signature (c.log i) e :=
      hends
    exfalso
    cases hraised with
    | statement plain replied =>
      rw [(h.duplicate_errors hf hfits hclear replied).1] at plain
      cases plain
    | append appends replied translated =>
      obtain ⟨-,constraint,rfl⟩ := h.duplicate_errors hf hfits hclear replied
      obtain ⟨admission,hadmission⟩ := translateAppendError_uniqueViolation _ _ _ _
      cases hadmission.symm.trans translated
    | autocommit replied =>
      have hflag := h.autocommit_eq replied
      rw [hd.manual i] at hflag
      cases hflag
    | @classified row replied raised =>
      obtain ⟨decision,hdecision⟩ := PostgresIdempotencyStore.classify_ok row hnorm
      cases hdecision.symm.trans raised
    | candidate replied raised =>
      rw [hloaded replied] at raised
      cases raised
    | parameters raised =>
      rw [PostgresIdempotencyStore.recordParameters_eq, hnorm] at raised
      exact nomatch raised
  | ok d =>
    refine ⟨d,rfl,fun ho => ?_⟩
    change Concluded (calls i).writeSide (calls i).signature (c.log i) (.ok d.producerValue.result)
      at hends
    simp only [Concluded, ho] at hends
    obtain ⟨-,rows,candidate',hmem,hc,hblocks⟩ := hends
    obtain rfl := Except.ok.inj ((hloaded hmem).symm.trans hc)
    exact hblocks hallowed

/-! ## The winner -/

theorem committed_record (h : Reachable D faulty t (writers calls) c)
    (hd : Duplicates D t requestId calls)
    (hmem : (⟨.commit,.ok ()⟩ : Exchange Operation Operation.Answer PyException) ∈ c.log i) :
    ∃ r ∈ c.world.tables.idempotencyRecords, r.requestId = requestId := by
  obtain ⟨c₁,next,w,hp,-⟩ := Reaches.performed_of_mem h rfl hmem
  have h₁ := of_performed hp
  obtain ⟨e,p,row,record,ha⟩ := h₁.accepting hp.running (v := calls i) rfl
  obtain ⟨-,rfl⟩ := SqlStep.commit_eq hp.executes
  have hgrows := (Reachable.grows (h₁.tail (.call hp.running hp.executes)) hp.after).2
  rw [Config.advance_world, ha.tables] at hgrows
  refine ⟨record,hgrows.subset (List.mem_append_right _ (List.mem_singleton_self _)),?_⟩
  obtain ⟨a,hhandled,-,-⟩ := WriteInvocation.appending_handled ha.pending.appending
  obtain ⟨hnorm,-⟩ := ensurePositiveMoney_eq_ok.mp hhandled.positive
  obtain ⟨amount,-,rfl⟩ := ha.storedRecord
  have hparams := ha.parameters
  rw [PostgresIdempotencyStore.recordParameters_eq, hnorm] at hparams
  obtain rfl := Except.ok.inj hparams
  exact hd.request i

/-- At most one of the duplicates commits: the second record of the request would meet the
first one. -/
theorem one_commits (h : Reachable D faulty t (writers calls) c) (hd : Duplicates D t requestId calls)
    (ht : (World.initial t : World ι).Integral)
    (hi : (⟨.commit,.ok ()⟩ : Exchange Operation Operation.Answer PyException) ∈ c.log i)
    (hj : (⟨.commit,.ok ()⟩ : Exchange Operation Operation.Answer PyException) ∈ c.log j) : i = j := by
  refine Reaches.invariant (fun c : System ι => ∀ i j,
    (⟨.commit,.ok ()⟩ : Exchange Operation Operation.Answer PyException) ∈ c.log i →
    (⟨.commit,.ok ()⟩ : Exchange Operation Operation.Answer PyException) ∈ c.log j → i = j)
    (fun i j hi _ => absurd hi List.not_mem_nil) ?_ h i j hi hj
  intro c c' hr ih hs i j hi hj
  have hr : Reachable D faulty t (writers calls) c := hr
  cases hs with
  | abandon running => exact ih i j hi hj
  | @call k op next reply w running executes =>
    rw [Config.mem_log_advance] at hi hj
    -- the commit of a third one cannot follow
    have hnew {l : ι} (hop : (⟨.commit,.ok ()⟩ : Exchange Operation Operation.Answer PyException) =
        ⟨op,reply⟩) :
        (⟨.commit,.ok ()⟩ : Exchange Operation Operation.Answer PyException) ∉ c.log l := by
      intro hl
      obtain ⟨rfl,-⟩ := Sigma.mk.inj hop
      obtain ⟨e,p,row,record,ha⟩ := hr.accepting running (v := calls k) rfl
      obtain ⟨r,hrecord,hid⟩ := hr.committed_record hd hl
      obtain ⟨a,hhandled,-,-⟩ := WriteInvocation.appending_handled ha.pending.appending
      have hpending := (hr.mirrors running).records
      rw [ha.pending.records] at hpending
      obtain ⟨record',_,hstored,-,hrecords⟩ := List.forall₂_cons_left_iff.mp hpending
      refine (hr.integral ht).request.apart k record' ?_ r hrecord ?_
      · change record' ∈ (c.world.transactions k).idempotencyRecords
        rw [hrecords]
        exact List.mem_cons_self ..
      · obtain ⟨amount,-,rfl⟩ := hstored
        obtain ⟨hnorm,-⟩ := ensurePositiveMoney_eq_ok.mp hhandled.positive
        have hparams := ha.parameters
        rw [PostgresIdempotencyStore.recordParameters_eq, hnorm] at hparams
        obtain rfl := Except.ok.inj hparams
        exact (hd.request k).trans hid.symm
    rcases hi with ⟨rfl,hop⟩ | hi
    · rcases hj with ⟨rfl,-⟩ | hj
      · rfl
      · exact absurd hj (hnew hop)
    · rcases hj with ⟨rfl,hop⟩ | hj
      · exact absurd hi (hnew hop)
      · exact ih i j hi hj

theorem found_winner (h : Reachable D faulty t (writers calls) c) (hd : Duplicates D t requestId calls)
    (ht : (World.initial t : World ι).Integral) {e : OrderEvent} {row : OrderEventRow}
    {record : IdempotencyRow} (ha : AcceptedAs c.world.tables (calls i).signature e row record)
    {pair : IdempotencyRow × OrderEventRow}
    (hmem : (⟨.selectIdempotencyRecord (calls j).signature.requestId,.ok (some pair)⟩ :
      Exchange Operation Operation.Answer PyException) ∈ c.log j) : pair = (record,row) := by
  obtain ⟨c₁,next,w,hp,-⟩ := Reaches.performed_of_mem h rfl hmem
  have h₁ := of_performed hp
  have hg : writeGuard (calls j).writeSide (calls j).signature (c₁.log j) _ := h₁.guard hp.running
  have hread : some pair = c₁.world.tables.loadRecord (calls j).signature.requestId := by
    rw [← (h₁.mirrors hp.running).visible_eq hg.2.noRows]
    exact SqlStep.answer hp.executes rfl (fun _ => rfl)
  obtain ⟨hevents,hrecords⟩ := performed_grows hp
  have hintegral := h.integral ht
  have hlater := ha.loadRecord (List.prefix_refl _) (List.prefix_refl _) hintegral.eventId.settled
    hintegral.request.settled
  obtain ⟨r,hr,hrest⟩ := Option.bind_eq_some_iff.mp hread.symm
  obtain ⟨e',he',rfl⟩ := Option.map_eq_some_iff.mp hrest
  rw [hd.request i, ← hd.request j, Tables.loadRecord, hrecords.find?_eq_some hr, Option.bind_some,
    hevents.find?_eq_some he'] at hlater
  exact Option.some.inj hlater

/-- A race of duplicates ends in typed results, except where an invocation overlooks the
record of its request: nobody else raises or is blocked, at most one is accepted, and a
replay or a conflict of another is on the accepted event. -/
theorem duplicates_typed (h : Reachable D faulty t (writers calls) c)
    (hd : Duplicates D t requestId calls) (ht : (World.initial t : World ι).Integral) (hs : t.Sound) :
    (∀ i r, ¬faulty i → (calls i).signature.FitsColumns → c.Clear calls i → c.delivered i = some r →
      ∃ d, r = .ok d ∧ d.producerValue.result.outcome ≠ .validationBlocked) ∧
    (∀ i j d d', c.delivered i = some (.ok d) → d.producerValue.result.outcome = .accepted →
      c.delivered j = some (.ok d') → i ≠ j →
      d'.producerValue.result.outcome ≠ .accepted ∧
      (d'.producerValue.result.outcome = .replay →
        SamePayload (calls i).signature (calls j).signature ∧
          d'.producerValue.result.acceptedEvent = d.producerValue.result.acceptedEvent) ∧
      (d'.producerValue.result.outcome = .conflict →
        ¬SamePayload (calls i).signature (calls j).signature)) ∧
    ∃ c' : System ι, Reaches (D.machine faulty) c c' ∧
      ∀ i, (c'.program i).isSome = true → ∃ r, c'.delivered i = some r := by
  refine ⟨fun i r hf hfits hclear hr => h.duplicate_returns hd ht hs hf hfits hclear hr,?_,
    h.completes (fun i => ⟨calls i,rfl⟩)⟩
  intro i j d d' hi ho hj hij
  have hcommits {k : ι} {d : PostgresWriteSideDelivery} (hk : c.delivered k = some (.ok d))
      (ho : d.producerValue.result.outcome = .accepted) :
      (⟨.commit,.ok ()⟩ : Exchange Operation Operation.Answer PyException) ∈ c.log k := by
    have hends : Concluded _ _ (c.log k) (.ok d.producerValue.result) := (h.finishes rfl hk).1
    simp only [Concluded, ho] at hends
    obtain ⟨e,p,rest,hlog,-⟩ := hends
    rw [hlog]
    exact List.mem_cons_self ..
  obtain ⟨e,row,record,ha,hevent⟩ := h.acceptedAs rfl hi ho
  obtain ⟨a,event,-,he⟩ := hd.accepted j
  obtain ⟨hnorm,-⟩ := ensurePositiveMoney_eq_ok.mp (handledEvent he).positive
  obtain ⟨held,decision,hheld,hdecision,hverdict⟩ := ha.classify hnorm
  -- a check that ended the invocation has found the winner's record
  have hfound {found : IdempotencyDecision}
      (hchecked : CheckedAs (calls j).signature found (c.log j)) (hmiss : found.verdict ≠ .miss) :
      found = decision := by
    obtain ⟨pair,hmem,hclass⟩ := hchecked
    rcases PostgresIdempotencyStore.classify_cases hclass with ⟨rfl,-⟩ | ⟨pair,rfl,-⟩
    · exact absurd rfl hmiss
    · rw [h.found_winner hd ht ha hmem, hdecision] at hclass
      exact (Except.ok.inj hclass).symm
  have hends : Concluded _ _ (c.log j) (.ok d'.producerValue.result) := (h.finishes rfl hj).1
  refine ⟨fun ho' => hij (h.one_commits hd ht (hcommits hi ho) (hcommits hj ho')),fun ho' => ?_,
    fun ho' => ?_⟩
  · simp only [Concluded, ho'] at hends
    obtain ⟨-,hchecked,r,hr,haccepted⟩ := hends
    rw [hr] at hchecked
    have hsame := hfound hchecked (by simp [IdempotencyDecision.replay])
    rcases hverdict with ⟨hp,rfl⟩ | ⟨-,rfl⟩
    · obtain rfl : r = held := by simpa [IdempotencyDecision.replay] using hsame
      exact ⟨hp,by rw [haccepted, hevent, hheld]⟩
    · simp [IdempotencyDecision.replay, IdempotencyDecision.conflict] at hsame
  · simp only [Concluded, ho'] at hends
    obtain ⟨-,hchecked,r,hr⟩ := hends
    rw [hr] at hchecked
    have hsame := hfound hchecked (by simp [IdempotencyDecision.conflict])
    rcases hverdict with ⟨-,rfl⟩ | ⟨hp,-⟩
    · simp [IdempotencyDecision.replay, IdempotencyDecision.conflict] at hsame
    · exact hp

end Reachable

instance (c : System ι) (calls : ι → WriteInvocation) (i : ι) : Decidable (c.Clear calls i) :=
  inferInstanceAs (Decidable (∀ x ∈ ownSteps i c.trace, ¬Overlooks (calls i).signature
    x.before.tables x.op))

/-! One creation sent twice, and one request id on two orders. -/
namespace RacingDuplicates

def duplicate (orderId : String) (uuid : Uuid) : WriteInvocation :=
  ⟨.inTransaction,.optimistic,invokeValidation .strict,⟨"r",.create,orderId,.int 10⟩,⟨uuid,0⟩,false,none⟩

def sameOrder : Fin 2 → WriteInvocation
  | 0 => duplicate "A" 0
  | 1 => duplicate "A" 1

def otherOrder : Fin 2 → WriteInvocation
  | 0 => duplicate "A" 0
  | 1 => duplicate "B" 1

def drive (calls : Fin 2 → WriteInvocation) (schedule : List (Fin 2)) : Option (System (Fin 2)) :=
  (System.start .empty (writers calls)).drive RacingCreations.server.serve schedule

/-- The winner commits between the loser's check and its load. -/
def beforeLoad : System (Fin 2) :=
  (drive sameOrder [0,0,1,1,1,1,1,1,1,0,0]).get (by decide +kernel)

/-- The winner commits between the loser's check and its insert. -/
def beforeInsert : System (Fin 2) :=
  (drive otherOrder [0,0,0,0,0,1,1,1,1,1,1,1,0,0]).get (by decide +kernel)

/-- The winner commits between the loser's load and its append. -/
def beforeAppend : System (Fin 2) :=
  (drive sameOrder [0,0,0,1,1,1,1,1,1,1,0,0]).get (by decide +kernel)

theorem duplicates {calls : Fin 2 → WriteInvocation}
    (h : ∀ i, ∃ orderId uuid, calls i = duplicate orderId uuid ∧ isBlank orderId = false) :
    Duplicates RacingCreations.server .empty "r" calls := by
  refine ⟨fun i => ?_,fun i => ?_,fun i => ?_,fun _ => rfl⟩
  all_goals obtain ⟨orderId,uuid,hcall,hnamed⟩ := h i; rw [hcall]
  · rfl
  · have hamount : ensurePositiveMoney (.int 10) = .ok (.ofCents false 1000) := by decide +kernel
    have hrequest : OrderAggregate.requireNonEmptyRequestId "r" = .ok () := by decide +kernel
    refine ⟨aggregateOf orderId [],⟨generateEventId ⟨uuid,0⟩,"r",orderId,1,.created,.ofCents false 1000,0,
      ⟨.init,0,none⟩⟩,LegalHistory.empty.rehydrate_eq hnamed,?_⟩
    change OrderAggregate.create (aggregateOf orderId []) ⟨uuid,0⟩ "r" (.int 10) = _
    simp only [OrderAggregate.create, hrequest, hamount, aggregateOf, OrderEvent.create_eq_ok hamount,
      bind, Except.bind]
    rfl
  · exact ⟨.strict,rfl⟩

theorem duplicates_sameOrder : Duplicates RacingCreations.server .empty "r" sameOrder :=
  duplicates (fun i => match i with
    | 0 => ⟨"A",0,rfl,by decide⟩
    | 1 => ⟨"A",1,rfl,by decide⟩)

theorem duplicates_otherOrder : Duplicates RacingCreations.server .empty "r" otherOrder :=
  duplicates (fun i => match i with
    | 0 => ⟨"A",0,rfl,by decide⟩
    | 1 => ⟨"B",1,rfl,by decide⟩)

theorem reachable {calls : Fin 2 → WriteInvocation} {schedule : List (Fin 2)} {c : System (Fin 2)}
    (h : drive calls schedule = some c) :
    Reachable RacingCreations.server (fun _ => False) .empty (writers calls) c := .of_drive h

end RacingDuplicates

/-- Of two duplicates one was accepted, and the other raises the legality error of a request
that was accepted, or the unique violation of the idempotency record. -/
theorem Reachable.duplicates_escape :
    (Duplicates RacingCreations.server .empty "r" RacingDuplicates.sameOrder ∧
      Reachable RacingCreations.server (fun _ => False) .empty (writers RacingDuplicates.sameOrder)
        RacingDuplicates.beforeLoad ∧
      (RacingDuplicates.beforeLoad.delivered 0).map (fun r => r.map (fun d =>
        d.producerValue.result.outcome)) = some (.error (.valueError "Already created")) ∧
      (RacingDuplicates.beforeLoad.delivered 1).map (fun r => r.map (fun d =>
        d.producerValue.result.outcome)) = some (.ok .accepted)) ∧
    Duplicates RacingCreations.server .empty "r" RacingDuplicates.otherOrder ∧
      Reachable RacingCreations.server (fun _ => False) .empty (writers RacingDuplicates.otherOrder)
        RacingDuplicates.beforeInsert ∧
      (RacingDuplicates.beforeInsert.delivered 0).map (fun r => r.map (fun d =>
        d.producerValue.result.outcome)) = some (.error (duplicateKey "idempotency_records_pkey")) ∧
      (RacingDuplicates.beforeInsert.delivered 1).map (fun r => r.map (fun d =>
        d.producerValue.result.outcome)) = some (.ok .accepted) :=
  ⟨⟨RacingDuplicates.duplicates_sameOrder,RacingDuplicates.reachable (Option.some_get _).symm,
      by decide +kernel,by decide +kernel⟩,
    RacingDuplicates.duplicates_otherOrder,RacingDuplicates.reachable (Option.some_get _).symm,
    by decide +kernel,by decide +kernel⟩

/-- The winner commits before the loser's append: one is accepted, the other rejected. -/
theorem Reachable.duplicates_typed_racing :
    ∃ d d', RacingDuplicates.beforeAppend.delivered 0 = some (.ok d) ∧
      RacingDuplicates.beforeAppend.delivered 1 = some (.ok d') ∧
      d.producerValue.result.outcome ≠ .validationBlocked ∧
      d.producerValue.result.outcome ≠ .accepted ∧ d'.producerValue.result.outcome = .accepted := by
  have hloser : (RacingDuplicates.beforeAppend.delivered 0).isSome = true := by decide +kernel
  have hwinner : (RacingDuplicates.beforeAppend.delivered 1).map (fun r => r.map (fun d =>
      d.producerValue.result.outcome)) = some (.ok .accepted) := by decide +kernel
  have hfits : RequestSignature.FitsColumns (RacingDuplicates.sameOrder 0).signature := by
    refine ⟨by decide,by decide,fun d hd => ⟨.cents 1000 Numeric.ten_inRange,?_⟩⟩
    obtain rfl : Decimal.ofCents false 1000 = d := by
      have hamount : normalizeMoney (.int 10) = .ok (.ofCents false 1000) := by decide +kernel
      exact Except.ok.inj (hamount.symm.trans hd)
    decide +kernel
  have hclear : RacingDuplicates.beforeAppend.Clear RacingDuplicates.sameOrder 0 := by decide +kernel
  obtain ⟨r,hr⟩ := Option.isSome_iff_exists.mp hloser
  obtain ⟨r',hr',hmap⟩ := Option.map_eq_some_iff.mp hwinner
  have htyped := Reachable.duplicates_typed (c := RacingDuplicates.beforeAppend)
    (RacingDuplicates.reachable (Option.some_get _).symm) RacingDuplicates.duplicates_sameOrder .initial
    .empty
  obtain ⟨d,rfl,hblocked⟩ := htyped.1 0 r (fun hf => hf) hfits hclear hr
  cases r' with
  | error e => cases hmap
  | ok d' =>
    have ho := Except.ok.inj hmap
    exact ⟨d,d',hr,hr',hblocked,(htyped.2.1 1 0 d' d hr' ho hr (by decide)).1,ho⟩

end StreamingCompass
