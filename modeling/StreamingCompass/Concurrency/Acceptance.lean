import StreamingCompass.Transactional.Accepted
import StreamingCompass.Concurrency.System
import StreamingCompass.Storage.Serial

/-! # The accepted stream under interleaving

Committed events and records only grow, and every run keeps them sound: whoever
commits has built its event on the history that is committed at that moment.
-/
namespace StreamingCompass
open Interleaving

variable {ι : Type}

/-- Without rows of its own a connection sees the committed tables. -/
theorem Mirrors.visible_eq {s : Session} {w : World ι} {i : ι} (h : Mirrors s (w.transactions i))
    (hn : s.NoRows) : w.visible i = w.tables := by
  have hevents := h.events
  have hrecords := h.records
  have hstates := h.states
  have hprogress := h.progress
  rw [hn.events] at hevents
  rw [hn.records] at hrecords
  rw [hn.states] at hstates
  rw [hn.progress] at hprogress
  simp only [World.visible, Tables.apply, List.forall₂_nil_left_iff.mp hevents,
    List.forall₂_nil_left_iff.mp hrecords, List.forall₂_nil_left_iff.mp hstates, hprogress,
    List.foldr_nil, List.append_nil]

variable [DecidableEq ι] {invocations : ι → Invocation} {c c' : System ι} {i : ι}

namespace Committed

theorem orderEvents_grow (h : Committed invocations c c') :
    c.world.tables.orderEvents <+: c'.world.tables.orderEvents := by
  cases h with
  | nothing same => rw [same]
  | accepted _ accepting commits =>
    rw [System.tables_of_commits commits, accepting.tables]
    exact List.prefix_append _ _
  | projected _ projected commits =>
    rw [System.tables_of_commits commits, projected.tables]
    exact List.prefix_refl _

theorem idempotencyRecords_grow (h : Committed invocations c c') :
    c.world.tables.idempotencyRecords <+: c'.world.tables.idempotencyRecords := by
  cases h with
  | nothing same => rw [same]
  | accepted _ accepting commits =>
    rw [System.tables_of_commits commits, accepting.tables]
    exact List.prefix_append _ _
  | projected _ projected commits =>
    rw [System.tables_of_commits commits, projected.tables]
    exact List.prefix_refl _

end Committed

variable [Fintype ι] {D : Database ι} {faulty : ι → Prop} {t : Tables}

theorem SqlStep.answer {w w' : World ι} {op : Operation} {a b : op.Answer}
    (h : SqlStep D faulty i w op (.ok a) w') (hs : op.isStatement = true)
    (hread : ∀ position, effect D position i w op = read w i b) : a = b := by
  generalize hr : (Except.ok a : SqlReply op) = reply at h
  cases h.stepped with
  | ran fresh isStatement encodable healthy effects =>
    obtain rfl := Except.ok.inj hr
    rw [hread, read, Option.some.injEq, Except.ok.injEq, Prod.mk.injEq] at effects
    exact effects.1.symm
  | still mayFail => cases hr
  | refused isStatement => cases hr
  | _ => cases hs

/-- Driving invocations by a schedule is one of their runs. -/
theorem Reachable.of_drive {schedule : List ι}
    (h : (System.start t invocations).drive D.serve schedule = some c) :
    Reachable D faulty t invocations c :=
  Config.drive_reaches (fun _ _ _ _ _ hs => D.serve_step _ _ _ _ _ hs) h

namespace Reachable

/-- Committed events and records stay, in their order. -/
theorem grows (h : Reachable D faulty t invocations c) (hr : Reaches (D.machine faulty) c c') :
    c.world.tables.orderEvents <+: c'.world.tables.orderEvents ∧
      c.world.tables.idempotencyRecords <+: c'.world.tables.idempotencyRecords := by
  induction hr with
  | refl => exact ⟨List.prefix_refl _,List.prefix_refl _⟩
  | tail hr hs ih =>
    have hc := Reachable.committed (h.trans hr) hs
    exact ⟨ih.1.trans hc.orderEvents_grow,ih.2.trans hc.idempotencyRecords_grow⟩

/-- A write invocation loads the history committed when it asks. -/
theorem loaded (h : Reachable D faulty t invocations c) {v : WriteInvocation}
    (hv : invocations i = .write v) {orderId : String} {rows : List OrderEventRow}
    (hmem : (⟨.selectHistory orderId,.ok rows⟩ : Exchange Operation Operation.Answer PyException) ∈
      c.log i) :
    ∃ c₁ next w, Performed (D.machine faulty) (System.start t invocations) c c₁ i
        (.selectHistory orderId) next (.ok rows) w ∧
      orderId = v.signature.orderId ∧ rows = c₁.world.tables.history orderId := by
  obtain ⟨c₁,next,w,hp,-⟩ := Reaches.performed_of_mem h rfl hmem
  have hr := of_performed hp
  have hg := hr.guard hp.running
  rw [hv] at hg
  refine ⟨c₁,next,w,hp,hg.1,?_⟩
  rw [← (hr.mirrors hp.running).visible_eq hg.2.noRows]
  exact SqlStep.answer hp.executes rfl (fun _ => rfl)

/-- The committed rows an invocation's later state builds on are still committed. -/
theorem performed_grows {op : Operation} {next : SqlReply op → SqlProgram InvocationResult}
    {reply : SqlReply op} {w : World ι} {c₁ : System ι}
    (hp : Performed (D.machine faulty) (System.start t invocations) c c₁ i op next reply w) :
    c₁.world.tables.orderEvents <+: c.world.tables.orderEvents ∧
      c₁.world.tables.idempotencyRecords <+: c.world.tables.idempotencyRecords :=
  (of_performed hp).grows (.head (.call hp.running hp.executes) hp.after)

/-- The texts of a pending event were sent. -/
theorem encodable (h : Reachable D faulty t invocations c) {W : WriteSide} {s : RequestSignature}
    {e : OrderEvent} {records : List IdempotencyParameters}
    (hpending : Pending W s (c.log i) e records) :
    hasNul e.orderId = false ∧ hasNul e.requestId = false := by
  have hmem : e ∈ (session (c.log i)).events := by simp [hpending.events]
  obtain ⟨c₁,next,w,hp,-⟩ := Reaches.performed_of_mem h rfl (mem_of_session_events hmem)
  simpa [Operation.texts] using hp.executes.stepped.encodable rfl

/-- An event about to be committed was built on the history committed now. -/
theorem builtOnCurrent (h : Reachable D faulty t invocations c)
    (ht : (World.initial t : World ι).Integral)
    (hpast : ∀ c₁ i op next reply w, Performed (D.machine faulty) (System.start t invocations) c c₁ i
      op next reply w → c₁.world.tables.Sound) (hsound : c.world.tables.Sound)
    {v : WriteInvocation} (hv : invocations i = .write v) {e : OrderEvent} {row : OrderEventRow}
    (happ : Appending v.writeSide v.signature (c.log i) e)
    (hrow : StoredEvent e row) (hpending : row ∈ (c.world.transactions i).orderEvents) :
    (⟨.selectHistory v.signature.orderId,.ok (c.world.tables.history v.signature.orderId)⟩ :
        Exchange Operation Operation.Answer PyException) ∈ c.log i ∧
      isBlank v.signature.orderId = false ∧
      v.writeSide.buildCandidateEvent
        (aggregateOf v.signature.orderId (c.world.tables.events v.signature.orderId)) = .ok e := by
  obtain ⟨rows,a,hmem,ha,he,-,-⟩ := happ.loaded
  obtain ⟨c₁,next,w,hp,-,hrows⟩ := h.loaded hv hmem
  have hsound₁ := hpast _ _ _ _ _ _ hp
  have hlegal₁ := hsound₁.legal_events v.signature.orderId
  rw [hrows] at ha
  obtain ⟨hnamed,rfl⟩ := hlegal₁.eq_of_rehydrate ha
  have hhandled := handledEvent he
  have hgrow := Tables.stream_grow (performed_grows hp).1 v.signature.orderId
  have horder : e.orderId = v.signature.orderId :=
    hhandled.orderId.trans (LegalHistory.aggregateOf_orderId ..)
  have hsequence : e.sequence = (c₁.world.tables.stream v.signature.orderId).length+1 := by
    rw [hhandled.sequence, hlegal₁.aggregateOf_currentVersion, hsound₁.events_eq, List.length_map]
  -- had the stream grown since, the place of the pending row would be taken
  have hlength : ¬(c₁.world.tables.stream v.signature.orderId).length <
      (c.world.tables.stream v.signature.orderId).length := by
    intro hlt
    obtain ⟨r,hr,hro,hrs⟩ := hsound.sequence_mem (Nat.le_add_left 1 _) hlt
    refine (h.integral ht).place.apart i row hpending r hr ?_
    obtain ⟨amount,position,-,-,-,rfl⟩ := hrow
    simp only [OrderEventRow.place, orderEventRow, Prod.mk.injEq, hro, hrs]
    exact ⟨horder,hsequence⟩
  have hsame : c₁.world.tables.stream v.signature.orderId =
      c.world.tables.stream v.signature.orderId :=
    hgrow.eq_of_length_le (not_lt.mp hlength)
  have hhistory : c₁.world.tables.history v.signature.orderId =
      c.world.tables.history v.signature.orderId := by
    rw [hsound₁.history_eq, hsound.history_eq, hsame]
  refine ⟨?_,hnamed,?_⟩
  · rw [← hhistory, ← hrows]
    exact hmem
  · rw [Tables.events, ← hhistory]
    exact he

/-- Every run keeps the committed tables sound. -/
theorem sound (h : Reachable D faulty t invocations c) (ht : (World.initial t : World ι).Integral)
    (hs : t.Sound) : c.world.tables.Sound := by
  refine Reaches.invariant_past (fun w : World ι => w.tables.Sound) hs rfl ?_ h
  intro c c' hr hpast hsound hstep
  cases Reachable.committed hr hstep with
  | nothing same => exact same ▸ hsound
  | accepted hv accepting commits =>
    obtain ⟨-,hnamed,hbuilt⟩ := builtOnCurrent hr ht hpast hsound hv accepting.pending.appending
      accepting.storedEvent (by rw [accepting.pendingEvent]; exact List.mem_singleton_self _)
    rw [hsound.events_eq] at hbuilt
    obtain ⟨ho,hrequest⟩ := Reachable.encodable hr accepting.pending
    rw [System.tables_of_commits commits, accepting.tables]
    exact hsound.accept hnamed (handledEvent hbuilt) accepting.storedEvent accepting.parameters
      accepting.storedRecord ho hrequest
  | projected _ projected commits =>
    rw [System.tables_of_commits commits, projected.tables]
    exact ⟨hsound.legal,hsound.recorded,hsound.texts⟩

end Reachable

/-- A committed event and its record, for the invocation that was accepted with them. -/
structure AcceptedAs (t : Tables) (s : RequestSignature) (e : OrderEvent) (row : OrderEventRow)
    (record : IdempotencyRow) : Prop where
  eventCommitted : row ∈ t.orderEvents
  recordCommitted : record ∈ t.idempotencyRecords
  recorded : Recorded record row
  stored : rowToOrderEvent row = e
  requestId : record.requestId = s.requestId
  orderId : record.orderId = s.orderId
  commandType : record.commandType = s.commandType
  amount : ensurePositiveMoney s.amount = .ok e.amount

namespace Reachable

theorem acceptedAs (h : Reachable D faulty t invocations c) {v : WriteInvocation}
    (hv : invocations i = .write v) {d : PostgresWriteSideDelivery}
    (hd : c.delivered i = some (.ok d)) (ho : d.producerValue.result.outcome = .accepted) :
    ∃ e row record, AcceptedAs c.world.tables v.signature e row record ∧
      d.producerValue.result.acceptedEvent = some e := by
  have hends := h.meets i _ (System.delivered_eq_some.mp hd)
  rw [hv] at hends
  change Concluded v.writeSide v.signature (c.log i) (.ok d.producerValue.result) at hends
  simp only [Concluded, ho] at hends
  obtain ⟨e,p,rest,hlog,hevent,hpending,hp⟩ := hends
  obtain ⟨c₁,next,w,hperformed,hrest⟩ := Reaches.performed h rfl (l := []) hlog
  obtain ⟨e',p',row,record,ha⟩ := (of_performed hperformed).accepting hperformed.running hv
  obtain rfl : e' = e := (List.cons.inj (ha.pending.events.symm.trans (hrest ▸ hpending.events))).1
  obtain ⟨rows,a,hmem,hrehydrate,hbuild,-,-⟩ := ha.pending.appending.loaded
  have hhandled := handledEvent hbuild
  have horder : e'.orderId = v.signature.orderId := hhandled.orderId.trans (rehydrate_orderId hrehydrate)
  obtain ⟨hrecorded,hcommand⟩ := Recorded.of_stored hhandled.positive hhandled.requestId horder
    hhandled.eventType ha.storedEvent ha.parameters ha.storedRecord
  have hback := ha.storedEvent.rowToOrderEvent_eq (ensurePositiveMoney_eq_ok.mp hhandled.positive).2
  obtain ⟨-,rfl⟩ := SqlStep.commit_eq hperformed.executes
  obtain ⟨hevents,hrecords⟩ := Reachable.grows (h := (of_performed hperformed).tail
    (.call hperformed.running hperformed.executes)) hperformed.after
  simp only [Config.advance_world, ha.tables] at hevents hrecords
  refine ⟨e',row,record,⟨hevents.subset (List.mem_append_right _ (List.mem_singleton_self _)),
    hrecords.subset (List.mem_append_right _ (List.mem_singleton_self _)),hrecorded,hback,?_,?_,hcommand,
    hhandled.positive⟩,hevent⟩
  · rw [hrecorded.requestId, ← hhandled.requestId, ← hback]
    rfl
  · rw [hrecorded.orderId, ← horder, ← hback]
    rfl

/-- In every run each order's committed history is legal, and a commit extends the very
history its event was built on: nothing built on a stale read is committed. -/
theorem histories_legal (h : Reachable D faulty .empty invocations c) :
    (∀ orderId, LegalHistory orderId (c.world.tables.events orderId)) ∧
    ∀ c', Step (D.machine faulty) c c' →
      c'.world.tables.orderEvents ≠ c.world.tables.orderEvents →
      ∃ i v e, invocations i = .write v ∧
        (⟨.selectHistory v.signature.orderId,.ok (c.world.tables.history v.signature.orderId)⟩ :
          Exchange Operation Operation.Answer PyException) ∈ c.log i ∧
        v.writeSide.buildCandidateEvent
          (aggregateOf v.signature.orderId (c.world.tables.events v.signature.orderId)) = .ok e ∧
        c'.world.tables.events v.signature.orderId =
          c.world.tables.events v.signature.orderId ++ [e] := by
  have hsound := h.sound .initial .empty
  refine ⟨hsound.legal_events,fun c' hstep hne => ?_⟩
  have hsound' : c'.world.tables.Sound := Reachable.sound (h.tail hstep) .initial .empty
  have hpast : ∀ c₁ i op next reply w, Performed (D.machine faulty) (System.start .empty invocations) c
      c₁ i op next reply w → c₁.world.tables.Sound :=
    fun c₁ i op next reply w hp => (of_performed hp).sound .initial .empty
  cases h.committed hstep with
  | nothing same => exact absurd (by rw [same]) hne
  | projected _ projected commits =>
    exact absurd (by rw [System.tables_of_commits commits, projected.tables]; rfl) hne
  | @accepted i v e p row record hv accepting commits =>
    obtain ⟨hread,-,hbuilt⟩ := builtOnCurrent h .initial hpast hsound hv accepting.pending.appending
      accepting.storedEvent (by rw [accepting.pendingEvent]; exact List.mem_singleton_self _)
    refine ⟨i,v,e,hv,hread,hbuilt,?_⟩
    have hhandled := handledEvent hbuilt
    have hback := accepting.storedEvent.rowToOrderEvent_eq
      (ensurePositiveMoney_eq_ok.mp hhandled.positive).2
    have horder : row.orderId = v.signature.orderId := by
      have := hhandled.orderId.trans (LegalHistory.aggregateOf_orderId ..)
      rw [← hback] at this
      exact this
    rw [hsound'.events_eq, hsound.events_eq, System.tables_of_commits commits, accepting.tables]
    simp [Tables.stream, horder, hback]

end Reachable

/-! A creation that reads before its transaction races with one that has begun its own. -/
namespace RacingCreations

def server : Database (Fin 2) := ⟨fun _ => false,fun _ => 0⟩

def stale : WriteInvocation :=
  ⟨.preTransaction,.optimistic,invokeValidation .strict,⟨"r-0",.create,"A",.int 10⟩,⟨0,0⟩,true,none⟩
def winner : WriteInvocation :=
  ⟨.inTransaction,.pessimistic,invokeValidation .off,⟨"r-1",.create,"A",.int 20⟩,⟨1,0⟩,false,none⟩

def racers : Fin 2 → Invocation
  | 0 => .write stale
  | 1 => .write winner

/-- The second commits between the first one's reads and its unit of work. -/
def schedule : List (Fin 2) := [0,0,1,1,1,1,1,1,1,1,1,0,0,0,0,0]

def final : System (Fin 2) :=
  ((System.start .empty racers).drive server.serve schedule).get (by decide +kernel)

theorem reachable : Reachable server (fun _ => False) .empty racers final :=
  Reachable.of_drive (Option.some_get _).symm

end RacingCreations

theorem Reachable.histories_legal_racing :
    (RacingCreations.final.world.tables.events "A").length = 1 ∧
      LegalHistory "A" (RacingCreations.final.world.tables.events "A") :=
  ⟨by decide +kernel,(Reachable.histories_legal RacingCreations.reachable).1 "A"⟩

/-! ## One record for each event -/

/-- `accepted_event_id` pairs records and events, and the pairs agree. -/
structure Tables.Paired (t : Tables) (accepted : {r // r ∈ t.idempotencyRecords} →
    {e // e ∈ t.orderEvents}) : Prop where
  bijective : Function.Bijective accepted
  byEventId : ∀ r e, accepted r = e ↔ r.val.acceptedEventId = e.val.acceptedEventId
  agree : ∀ r, Recorded r.val (accepted r).val

theorem Tables.Sound.paired {t : Tables} (h : t.Sound)
    (hids : (t.orderEvents.map (fun e => e.acceptedEventId)).Nodup)
    (hrequests : (t.idempotencyRecords.map (fun r => r.requestId)).Nodup) :
    ∃ accepted, t.Paired accepted := by
  have hevent (r : {r // r ∈ t.idempotencyRecords}) : ∃ e : {e // e ∈ t.orderEvents},
      Recorded r.val e.val := by
    obtain ⟨e,he,hre⟩ := h.eventOf r.property
    exact ⟨⟨e,he⟩,hre⟩
  choose accepted hagree using hevent
  have hsame {e e' : {e // e ∈ t.orderEvents}}
      (hid : e.val.acceptedEventId = e'.val.acceptedEventId) : e = e' :=
    Subtype.ext (List.inj_on_of_nodup_map hids e.property e'.property hid)
  refine ⟨accepted,⟨fun r r' hrr => ?_,fun e => ?_⟩,fun r e => ⟨?_,fun hid => ?_⟩,hagree⟩
  · apply Subtype.ext (List.inj_on_of_nodup_map hrequests r.property r'.property ?_)
    rw [(hagree r).requestId, (hagree r').requestId, hrr]
  · obtain ⟨r,hr,hre⟩ := h.recordOf e.property
    refine ⟨⟨r,hr⟩,hsame ?_⟩
    rw [← (hagree ⟨r,hr⟩).acceptedEventId, hre.acceptedEventId]
  · rintro rfl
    exact (hagree r).acceptedEventId
  · exact hsame ((hagree r).acceptedEventId.symm.trans hid)

/-- In every run records and events are paired one to one, and no request has two events. -/
theorem Reachable.records_paired (h : Reachable D faulty .empty invocations c) :
    (∃ accepted, c.world.tables.Paired accepted) ∧
      (c.world.tables.idempotencyRecords.map (fun r => r.requestId)).Nodup ∧
      (c.world.tables.orderEvents.map (fun e => e.requestId)).Nodup := by
  have hsound := h.sound .initial .empty
  have hintegral := h.integral .initial
  have hrequests : c.world.tables.idempotencyRecords.map (fun r => r.requestId) =
      c.world.tables.orderEvents.map (fun e => e.requestId) := by
    rw [← List.forall₂_eq_eq_eq, List.forall₂_map_left_iff, List.forall₂_map_right_iff]
    exact hsound.recorded.imp (fun _ _ hre => hre.requestId)
  refine ⟨hsound.paired hintegral.eventId.settled hintegral.request.settled,
    hintegral.request.settled,?_⟩
  rw [← hrequests]
  exact hintegral.request.settled

theorem Reachable.records_paired_racing :
    RacingCreations.final.world.tables.idempotencyRecords.length = 1 ∧
      ∃ accepted, RacingCreations.final.world.tables.Paired accepted :=
  ⟨by decide +kernel,(Reachable.records_paired RacingCreations.reachable).1⟩

end StreamingCompass
