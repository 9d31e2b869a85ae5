import StreamingCompass.Concurrency.TableRegistry
import StreamingCompass.Interleaving.Linearization
import StreamingCompass.Storage.Solo
import StreamingCompass.Transactional.Observation
import StreamingCompass.Transactional.StoreAgreement

/-! # The write side one command at a time

On a server nobody else uses, every placement, gate and validation mode does what the
in-memory registry does: the same events, replays and conflicts, and the same exceptions.
-/
namespace StreamingCompass
open Interleaving

variable {ι : Type} [DecidableEq ι] [Fintype ι] {D : Database ι} {i : ι} {t : Tables}
  {s : RequestSignature}

/-! ## Reads -/

theorem PostgresIdempotencyStore.check_solo (hmanual : D.autocommit i = false) (isOpen : Bool)
    (locks : List (ℤ × ℤ)) (hr : hasNul s.requestId = false) :
    (PostgresIdempotencyStore.check s).run (D.serve i) () (World.solo t i (.reading isOpen locks)) =
      some ((PostgresIdempotencyStore.classify s (t.loadRecord s.requestId),()),
        World.solo t i (.reading true locks)) := by
  have hserve := D.serve_read (t := t) hmanual isOpen locks
    (.selectIdempotencyRecord s.requestId) (a := t.loadRecord s.requestId) rfl
    (by simp [Operation.texts, hr]) (fun position => by
      simp only [effect, World.solo_visible, Tables.apply_reading])
  simp only [PostgresIdempotencyStore.check, Routine.run_bind, Routine.run_perform, hserve,
    Option.map_some, Option.bind_some, Routine.run_ofExcept]

theorem PostgresEventStore.load_solo (hmanual : D.autocommit i = false) (isOpen : Bool)
    (locks : List (ℤ × ℤ)) {orderId : String} (ho : hasNul orderId = false) :
    (PostgresEventStore.load orderId).run (D.serve i) () (World.solo t i (.reading isOpen locks)) =
      some ((.ok (t.events orderId),()),World.solo t i (.reading true locks)) := by
  have hserve := D.serve_read (t := t) hmanual isOpen locks (.selectHistory orderId)
    (a := t.history orderId) rfl (by simp [Operation.texts, ho]) (fun position => by
      simp only [effect, World.solo_visible, Tables.apply_reading])
  simp only [PostgresEventStore.load, Routine.run_bind, Routine.run_perform, hserve,
    Option.map_some, Option.bind_some, Routine.run_pure, Tables.events]

theorem PostgresIdempotencyStore.check_solo_nul (hmanual : D.autocommit i = false) (isOpen : Bool)
    (locks : List (ℤ × ℤ)) (hr : hasNul s.requestId = true) :
    (PostgresIdempotencyStore.check s).run (D.serve i) () (World.solo t i (.reading isOpen locks)) =
      some ((.error nulInText,()),World.solo t i (.reading true locks)) := by
  have hserve := D.serve_nul (t := t) (x := .reading isOpen locks) hmanual
    (.selectIdempotencyRecord s.requestId) rfl (by simp [Operation.texts, hr])
  simp only [PostgresIdempotencyStore.check, Routine.run_bind, Routine.run_perform, hserve,
    Option.map_some, Option.bind_some]
  rfl

theorem PostgresEventStore.load_solo_nul (hmanual : D.autocommit i = false)
    (locks : List (ℤ × ℤ)) {orderId : String} (ho : hasNul orderId = true) :
    (PostgresEventStore.load orderId).run (D.serve i) () (World.solo t i (.reading true locks)) =
      some ((.error nulInText,()),World.solo t i (.reading true locks)) := by
  have hserve := D.serve_nul (t := t) (x := .reading true locks) hmanual (.selectHistory orderId) rfl
    (by simp [Operation.texts, ho])
  simp only [PostgresEventStore.load, Routine.run_bind, Routine.run_perform, hserve,
    Option.map_some, Option.bind_some]
  rfl

theorem WriteSide.prepare_solo (hmanual : D.autocommit i = false) (locks : List (ℤ × ℤ)) (gate : Gate)
    {orderId : String} (ho : hasNul orderId = false) :
    ∃ p locks', (WriteSide.primaryPrepare gate orderId).run (D.serve i) ()
        (World.solo t i (.reading true locks)) =
      some ((.ok p,()),World.solo t i (.reading true locks')) ∧ p.verdict = .admitted := by
  cases gate with
  | optimistic => exact ⟨_,locks,rfl,rfl⟩
  | pessimistic =>
    have hserve : D.serve i (.tryAdvisoryXactLock "order_events_stream" orderId)
        (World.solo t i (.reading true locks)) = some (.ok true,World.solo t i
          (.reading true ((D.hashtext "order_events_stream",D.hashtext orderId) :: locks))) := by
      refine D.serve_solo (y := .reading true _) hmanual _ rfl ?_ rfl ?_
      · simp only [Operation.texts, List.any_cons, ho, List.any_nil, Bool.or_false]
        decide
      · simp only [effect, tryAdvisoryXactLock]
        rw [World.solo_others (by rfl), World.solo_self]
        rfl
    refine ⟨.lockAcquired orderId,(D.hashtext "order_events_stream",D.hashtext orderId) :: locks,?_,rfl⟩
    simp only [WriteSide.primaryPrepare, Routine.run_bind, Routine.run_perform, Database.serve_autocommit,
      hmanual, Option.map_some, Option.bind_some, Bool.false_eq_true, if_false, hserve, if_true,
      Routine.run_pure]

/-! ## An append and its record -/

namespace Tables.Sound

theorem any_request_eq_false (h : t.Sound) {requestId : String} (hl : t.loadRecord requestId = none) :
    t.idempotencyRecords.any (fun r => decide (r.requestId = requestId)) = false := by
  rw [List.any_eq_false]
  intro r hr hid
  obtain ⟨e,he,hrecorded⟩ := h.eventOf hr
  have hrecord : (t.idempotencyRecords.find? (fun r => r.requestId = requestId)).isSome := by
    rw [List.find?_isSome]
    exact ⟨r,hr,hid⟩
  obtain ⟨r',hr'⟩ := Option.isSome_iff_exists.mp hrecord
  obtain ⟨e',he',hrecorded'⟩ := h.eventOf (List.mem_of_find?_eq_some hr')
  have hevent : (t.orderEvents.find? (fun e => e.acceptedEventId = r'.acceptedEventId)).isSome := by
    rw [List.find?_isSome]
    exact ⟨e',he',by simp [hrecorded'.acceptedEventId]⟩
  obtain ⟨e'',he''⟩ := Option.isSome_iff_exists.mp hevent
  simp [Tables.loadRecord, hr', he''] at hl

theorem any_place_eq_false (h : t.Sound) (orderId : String) :
    t.orderEvents.any (fun r => decide (r.orderId = orderId ∧
      r.sequence = (t.stream orderId).length+1)) = false := by
  rw [List.any_eq_false]
  intro r hr hplace
  obtain ⟨horder,hsequence⟩ := of_decide_eq_true hplace
  have hmem : r.sequence ∈ (t.stream orderId).map (fun r => r.sequence) :=
    List.mem_map_of_mem (Tables.mem_stream.mpr ⟨hr,horder⟩)
  rw [h.map_sequence, List.mem_map] at hmem
  obtain ⟨k,hk,hsame⟩ := hmem
  have := List.mem_range'_1.mp hk
  omega

end Tables.Sound

/-- What the unit of work records of a result whatever its gate: all but the two admissions. -/
def PostgresWriteSideResult.ungated (r : PostgresWriteSideResult) : PostgresWriteSideResult :=
  {r with streamAdmissionResult := none, admissionResult := none}

/-- An acceptance, whatever its gate. -/
def PostgresWriteSideResult.acceptedAs (decision : IdempotencyDecision) (c : Candidate) :
    PostgresWriteSideResult :=
  ⟨.accepted,some c.event,decision,none,some c.validationDecision,none,c.evidence⟩

def PostgresWriteSideResult.committed (r : PostgresWriteSideResult) : Option OrderEvent :=
  if r.outcome = .accepted then r.acceptedEvent else none

/-- A candidate of the stream's aggregate, for a request whose texts the server can hold. -/
structure Offered (t : Tables) (s : RequestSignature) (draw : Draw) (e : OrderEvent) : Prop where
  sound : t.Sound
  handled : HandledEvent (aggregateOf s.orderId (t.events s.orderId)) s.commandType draw s.requestId
    s.amount e
  orderId : hasNul s.orderId = false
  requestId : hasNul s.requestId = false

/-- A candidate that the tables can take. -/
structure Appendable (t : Tables) (s : RequestSignature) (draw : Draw) (e : OrderEvent) : Prop
    extends Offered t s draw e where
  unrecorded : t.loadRecord s.requestId = none
  fresh : e.eventId ∉ t.orderEvents.map (fun r => r.acceptedEventId)
  storable : ∃ amount, Numeric.ofDecimal e.amount = .ok amount

namespace Offered
variable {draw : Draw} {e : OrderEvent}

theorem event_orderId (h : Offered t s draw e) : e.orderId = s.orderId :=
  h.handled.orderId.trans (LegalHistory.aggregateOf_orderId ..)

theorem currentVersion (h : Offered t s draw e) :
    t.currentVersion e.orderId = (aggregateOf s.orderId (t.events s.orderId)).currentVersion := by
  rw [(h.sound.legal_events s.orderId).aggregateOf_currentVersion, h.event_orderId,
    h.sound.currentVersion_eq, h.sound.events_eq, List.length_map]

theorem version_solo (h : Offered t s draw e) (hmanual : D.autocommit i = false)
    (locks : List (ℤ × ℤ)) {version : ℤ}
    (hversion : version = (aggregateOf s.orderId (t.events s.orderId)).currentVersion) :
    D.serve i (.selectCurrentVersion e.orderId) (World.solo t i (.reading true locks)) =
      some (.ok version,World.solo t i (.reading true locks)) :=
  D.serve_read (t := t) hmanual true locks (.selectCurrentVersion e.orderId) (a := version) rfl
    (by simp [Operation.texts, h.event_orderId, h.orderId]) (fun position => by
      simp only [effect, World.solo_visible, Tables.apply_reading, h.currentVersion, hversion])

theorem event_texts (h : Offered t s draw e) : (Operation.insertOrderEvent e).texts.any hasNul = false := by
  simp [Operation.texts, h.event_orderId, h.orderId, h.handled.requestId, h.requestId]

/-- An amount the column cannot hold raises out of the append. -/
theorem append_overflow (h : Offered t s draw e) (hmanual : D.autocommit i = false)
    (locks : List (ℤ × ℤ)) {W : WriteSide} {c : Candidate} (hc : c.event = e)
    (hexpected : c.expectedCurrentVersion = (aggregateOf s.orderId (t.events s.orderId)).currentVersion)
    (d : IdempotencyDecision) (p : StreamAdmissionResult) {err : PyException}
    (hamount : Numeric.ofDecimal e.amount = .error err) :
    ∃ y, (W.primaryAppend s d p c).run (D.serve i) () (World.solo t i (.reading true locks)) =
      some ((.error err,()),World.solo t i y) := by
  subst hc
  have hversion := h.version_solo hmanual locks hexpected
  have heffect : effect D (World.solo t i (.reading true locks)).nextPosition i
      (World.solo t i (.reading true locks)) (.insertOrderEvent c.event) = some (.error err) := by
    simp only [effect, StreamingCompass.insertOrderEvent, hamount]
  have hevent := D.serve_refused hmanual (.insertOrderEvent c.event) rfl h.event_texts rfl heffect
  have hsequence : c.event.sequence = c.expectedCurrentVersion+1 := by
    rw [hexpected, h.handled.sequence]
  have htranslated : translateAppendError W.gate.name c.event err = .error err := by
    obtain ⟨sqlstate,message,rfl⟩ := Numeric.ofDecimal_error hamount
    rfl
  refine ⟨{Transaction.reading true locks with failed := true},?_⟩
  simp only [WriteSide.primaryAppend, appendWithTranslation, PostgresEventStore.append,
    Routine.run_bind, Routine.run_attempt, Routine.run_perform, hversion, Option.map_some,
    Option.bind_some, ne_eq, not_true_eq_false, if_false, hsequence, hevent, Routine.run_ofExcept,
    htranslated]
  rfl

end Offered

namespace Appendable
variable {draw : Draw} {e : OrderEvent}

theorem insertOrderEvent (h : Appendable t s draw e) (locks : List (ℤ × ℤ)) (position : ℕ) :
    ∃ row, insertOrderEvent (World.solo t i (.reading true locks)) i position e =
        some (.ok ((),{Transaction.reading true locks with orderEvents := [row]})) ∧
      StoredEvent e row := by
  obtain ⟨amount,hamount⟩ := h.storable
  obtain ⟨hnorm,hpos⟩ := ensurePositiveMoney_eq_ok.mp h.handled.positive
  have hnonneg : Numeric.zero.le amount = true := by
    obtain ⟨q,-,-,hq⟩ := hpos
    exact Numeric.zero_le_of_ofCents (hq ▸ hamount)
  have hsequence : e.sequence = (t.stream s.orderId).length+1 := by
    rw [h.handled.sequence, ← h.currentVersion, h.event_orderId, h.sound.currentVersion_eq]
  have hid : t.orderEvents.any (fun r => decide (r.acceptedEventId = e.eventId)) = false := by
    rw [List.any_eq_false]
    intro r hr heq
    exact h.fresh (List.mem_map.mpr ⟨r,hr,of_decide_eq_true heq⟩)
  have hplace : t.orderEvents.any (fun r => decide (r.orderId = e.orderId ∧ r.sequence = e.sequence)) =
      false := by
    rw [h.event_orderId, hsequence]
    exact h.sound.any_place_eq_false s.orderId
  have hpositive : 0 < e.sequence := by omega
  refine ⟨orderEventRow e amount position,?_,amount,position,hamount,hnonneg,hpositive,rfl⟩
  have hcheck : failedCheck "order_events"
      [("ck_order_events_amount_non_negative",Numeric.zero.le amount),
       ("ck_order_events_sequence_positive",decide (0 < e.sequence))] = none := by
    simp [failedCheck, hnonneg, hpositive]
  simp only [StreamingCompass.insertOrderEvent, hamount, hcheck, World.solo_visible, Tables.apply_reading,
    hid, hplace, World.solo_self, Bool.false_eq_true, if_false]
  rw [World.solo_others (by rfl), World.solo_others (by rfl)]
  rfl

theorem insertIdempotencyRecord (h : Appendable t s draw e) (locks : List (ℤ × ℤ)) {row : OrderEventRow}
    (hrow : StoredEvent e row) {p : IdempotencyParameters}
    (hp : PostgresIdempotencyStore.recordParameters s e = .ok p) :
    (Operation.insertIdempotencyRecord p).texts.any hasNul = false ∧
    ∃ record, insertIdempotencyRecord
        (World.solo t i {Transaction.reading true locks with orderEvents := [row]}) i p =
      some (.ok ((),{Transaction.reading true locks with
        orderEvents := [row], idempotencyRecords := [record]})) ∧ StoredRecord p record := by
  obtain ⟨hnorm,q,-,-,hq⟩ := ensurePositiveMoney_eq_ok.mp h.handled.positive
  obtain ⟨amount,position,hamount,hnonneg,hpositive,rfl⟩ := hrow
  rw [PostgresIdempotencyStore.recordParameters_eq, hnorm] at hp
  obtain rfl := Except.ok.inj hp
  have hfingerprint : hasNul (fingerprintText s.commandType s.orderId e.amount) = false := by
    rw [hq]
    exact PostgresIdempotencyStore.hasNul_fingerprintText h.orderId
  refine ⟨by simp [Operation.texts, h.requestId, h.orderId, hfingerprint],
    idempotencyRow _ amount,?_,amount,hamount,rfl⟩
  have hcheck : failedCheck "idempotency_records"
      [("ck_idempotency_amount_non_negative",Numeric.zero.le amount),
       ("ck_idempotency_fingerprint_version_positive",decide (0 < fingerprintVersion)),
       ("ck_idempotency_result_sequence_positive",decide (0 < e.sequence)),
       ("ck_idempotency_semantic_fingerprint_not_empty",
         trimNotEmpty (fingerprintText s.commandType s.orderId e.amount))] = none := by
    simp [failedCheck, hnonneg, hpositive, PostgresIdempotencyStore.fingerprintText_not_blank,
      fingerprintVersion]
  have hevents : (t.apply {Transaction.reading true locks with
      orderEvents := [orderEventRow e amount position]}).orderEvents.any
        (fun r => decide (r.acceptedEventId = e.eventId)) = true := by
    simp [Tables.apply, orderEventRow]
  have hrecords : (t.apply {Transaction.reading true locks with
      orderEvents := [orderEventRow e amount position]}).idempotencyRecords.any
        (fun r => decide (r.requestId = s.requestId)) = false := by
    rw [Tables.apply_idempotencyRecords]
    simpa [Transaction.reading] using h.sound.any_request_eq_false h.unrecorded
  simp only [StreamingCompass.insertIdempotencyRecord, hamount, hcheck, World.solo_visible, hevents, hrecords,
    World.solo_self, Bool.false_eq_true, if_false, if_true]
  rw [World.solo_others (by rfl)]
  rfl

theorem append_solo (h : Appendable t s draw e) (hmanual : D.autocommit i = false)
    (locks : List (ℤ × ℤ)) {W : WriteSide}
    {c : Candidate} (hc : c.event = e)
    (hexpected : c.expectedCurrentVersion = (aggregateOf s.orderId (t.events s.orderId)).currentVersion)
    (d : IdempotencyDecision) (p : StreamAdmissionResult) :
    ∃ parameters row record result, (W.primaryAppend s d p c).run (D.serve i) ()
        (World.solo t i (.reading true locks)) =
      some ((.ok result,()),World.solo t i {Transaction.reading true locks with
        orderEvents := [row], idempotencyRecords := [record]}) ∧
      result.ungated = .acceptedAs d c ∧
      PostgresIdempotencyStore.recordParameters s e = .ok parameters ∧ StoredEvent e row ∧
      StoredRecord parameters record := by
  subst hc
  obtain ⟨hnorm,-⟩ := ensurePositiveMoney_eq_ok.mp h.handled.positive
  have hparameters : ∃ parameters, PostgresIdempotencyStore.recordParameters s c.event = .ok parameters := by
    rw [PostgresIdempotencyStore.recordParameters_eq, hnorm]
    exact ⟨_,rfl⟩
  obtain ⟨parameters,hparameters⟩ := hparameters
  obtain ⟨row,hinsert,hrow⟩ := h.insertOrderEvent (i := i) locks
    (World.solo t i (.reading true locks) : World ι).nextPosition
  obtain ⟨htexts,record,hrecord,hstored⟩ := h.insertIdempotencyRecord (i := i) locks hrow hparameters
  have hversion := h.version_solo hmanual locks hexpected
  have hevent : D.serve i (.insertOrderEvent c.event) (World.solo t i (.reading true locks)) =
      some (.ok (),World.solo t i {Transaction.reading true locks with orderEvents := [row]}) := by
    exact D.serve_solo (y := {Transaction.reading true locks with orderEvents := [row]}) hmanual _
      rfl h.event_texts rfl hinsert
  have hwritten : D.serve i (.insertIdempotencyRecord parameters)
      (World.solo t i {Transaction.reading true locks with orderEvents := [row]}) =
      some (.ok (),World.solo t i {Transaction.reading true locks with
        orderEvents := [row], idempotencyRecords := [record]}) :=
    D.serve_solo (y := {Transaction.reading true locks with
      orderEvents := [row], idempotencyRecords := [record]}) hmanual _ rfl htexts rfl hrecord
  have hsequence : c.event.sequence = c.expectedCurrentVersion+1 := by
    rw [hexpected, h.handled.sequence]
  refine ⟨parameters,row,record,.accepted d p c ⟨.admitted,"Event admitted by " ++ W.gate.name,
    c.event.eventId,some c.event.eventId,none⟩,?_,rfl,hparameters,hrow,hstored⟩
  simp only [WriteSide.primaryAppend, appendWithTranslation, PostgresEventStore.append,
    Routine.run_bind, Routine.run_attempt, Routine.run_perform, hversion, Option.map_some,
    Option.bind_some, ne_eq, not_true_eq_false, if_false, hsequence, hevent, Routine.run_pure,
    PostgresIdempotencyStore.record, Routine.run_ofExcept, hparameters, hwritten]

end Appendable

/-! ## One command -/

omit [Fintype ι] in
theorem World.initial_eq_solo (t : Tables) (i : ι) : World.initial t = World.solo t i (.reading false []) :=
  World.solo_idle.symm

/-- What a unit of work leaves once its body has ended. -/
def World.ended (w : World ι) (i : ι) : Except PyException PostgresWriteSideResult → World ι
  | .error _ => w.rollback i
  | .ok result => if result.outcome = .accepted then w.commit i else w

theorem primaryUnitOfWork_run (hmanual : D.autocommit i = false) (w' : World ι)
    {body : PrimaryRoutine PostgresWriteSideResult} {x : Except PyException PostgresWriteSideResult}
    {w w'' : World ι} (h : body.run (D.serve i) () w = some ((x,()),w')) (hw : w'.ended i x = w'') :
    (primaryUnitOfWork body).run (D.serve i) () w = some ((x,()),w'') := by
  subst hw
  simp only [primaryUnitOfWork, Routine.run_bind, Routine.run_perform, Database.serve_autocommit, hmanual,
    Option.map_some, Option.bind_some, Bool.false_eq_true, if_false, Routine.run_attempt, h]
  cases x with
  | error err =>
    simp only [Routine.run_bind, Routine.run_perform, Database.serve_rollback, Option.map_some,
      Option.bind_some, Routine.run_raise, World.ended]
  | ok result =>
    by_cases ho : result.outcome = .accepted
    · simp only [ho, if_true, Routine.run_bind, Routine.run_perform, Database.serve_commit,
        Option.map_some, Option.bind_some, Routine.run_pure, World.ended]
    · simp only [ho, if_false, Routine.run_pure, World.ended]

namespace WriteInvocation
variable {v : WriteInvocation}

omit [DecidableEq ι] [Fintype ι] in
theorem primary_run {f : Semantics (World ι) Operation Operation.Answer PyException} {w w' : World ι}
    {r : Except PyException PostgresWriteSideResult}
    (h : (v.writeSide.primary v.signature).run f () w = some ((r,()),w')) :
    v.primary.run f w = some (r,w') := by
  have hrun : (v.writeSide.primary v.signature ()).run f w = some ((r,()),w') := h
  rw [primary, Program.run_bind, hrun]
  rfl

variable (hmanual : D.autocommit i = false)
include hmanual

theorem primary_solo_unchecked {err : PyException}
    (hcheck : (PostgresIdempotencyStore.check v.signature).run (D.serve i) ()
      (World.solo t i (.reading false [])) = some ((.error err,()),World.solo t i (.reading true []))) :
    v.primary.run (D.serve i) (World.initial t) = some (.error err,World.initial t) := by
  rw [World.initial_eq_solo t i]
  apply primary_run
  unfold WriteSide.primary
  cases v.writeSide.placement with
  | inTransaction =>
    refine primaryUnitOfWork_run hmanual (World.solo t i (.reading true [])) ?_ ?_
    · simp only [Routine.run_bind, hcheck, Option.bind_some]
    · rw [World.ended, World.solo_rollback, World.initial_eq_solo t i]
  | preTransaction =>
    simp only [WriteSide.primaryPreTransaction, WriteSide.primaryReads, Routine.run_bind,
      Routine.run_tryFinally, hcheck, Option.bind_some, Routine.run_perform, Database.serve_rollback,
      Option.map_some, Routine.cleanedUp, World.solo_rollback, World.initial_eq_solo t i]

variable (hr : hasNul v.signature.requestId = false)
include hr

theorem primary_solo_decided {d : IdempotencyDecision}
    (hd : PostgresIdempotencyStore.classify v.signature (t.loadRecord v.signature.requestId) = .ok d)
    (hmiss : d.verdict ≠ .miss) :
    v.primary.run (D.serve i) (World.initial t) = some (.ok (.decided d none),World.initial t) := by
  have hcheck := PostgresIdempotencyStore.check_solo (t := t) hmanual false [] hr
  rw [hd] at hcheck
  rw [World.initial_eq_solo t i]
  apply primary_run
  unfold WriteSide.primary
  cases v.writeSide.placement with
  | inTransaction =>
    refine primaryUnitOfWork_run hmanual (World.initial t) ?_ ?_
    · simp only [Routine.run_bind, hcheck, hmiss, ne_eq, not_false_eq_true, if_true, Routine.run_perform,
        Database.serve_rollback, Option.map_some, Option.bind_some, Routine.run_pure, World.solo_rollback]
    · rw [World.ended, if_neg PostgresWriteSideResult.decided_outcome_ne, World.initial_eq_solo t i]
  | preTransaction =>
    simp only [WriteSide.primaryPreTransaction, WriteSide.primaryReads, Routine.run_bind,
      Routine.run_tryFinally, hcheck, Option.bind_some, hmiss, ne_eq, not_false_eq_true, if_true,
      Routine.run_pure, Routine.run_perform, Database.serve_rollback, Option.map_some,
      Routine.cleanedUp, World.solo_rollback, World.initial_eq_solo t i]

variable (hl : t.loadRecord v.signature.requestId = none)
include hl

omit [Fintype ι] in
theorem check_solo_miss [Fintype ι] (isOpen : Bool) (locks : List (ℤ × ℤ)) :
    (PostgresIdempotencyStore.check v.signature).run (D.serve i) ()
        (World.solo t i (.reading isOpen locks)) =
      some ((.ok .miss,()),World.solo t i (.reading true locks)) := by
  have hcheck := PostgresIdempotencyStore.check_solo (t := t) hmanual isOpen locks hr
  rw [hl] at hcheck
  exact hcheck

/-- An order id the server cannot hold is refused by its lock or by its load. -/
theorem primary_solo_unloaded (ho : hasNul v.signature.orderId = true) :
    v.primary.run (D.serve i) (World.initial t) = some (.error nulInText,World.initial t) := by
  have hcheck := check_solo_miss hmanual hr hl
  have hload (locks : List (ℤ × ℤ)) := PostgresEventStore.load_solo_nul (t := t) hmanual locks ho
  rw [World.initial_eq_solo t i]
  apply primary_run
  unfold WriteSide.primary
  cases v.writeSide.placement with
  | inTransaction =>
    refine primaryUnitOfWork_run hmanual (World.solo t i (.reading true [])) ?_ ?_
    · cases v.writeSide.gate with
      | optimistic =>
        simp only [Routine.run_bind, hcheck, Option.bind_some, IdempotencyDecision.miss, ne_eq,
          not_true_eq_false, if_false, WriteSide.primaryPrepare, Routine.run_pure,
          StreamAdmissionResult.notLocking, hload]
      | pessimistic =>
        have hlock := D.serve_nul (t := t) (x := .reading true []) hmanual
          (.tryAdvisoryXactLock "order_events_stream" v.signature.orderId) rfl
          (by simp [Operation.texts, ho])
        simp only [Routine.run_bind, hcheck, Option.bind_some, IdempotencyDecision.miss, ne_eq,
          not_true_eq_false, if_false, WriteSide.primaryPrepare, Routine.run_perform,
          Database.serve_autocommit, hmanual, Option.map_some, Bool.false_eq_true, hlock]
        rfl
    · rw [World.ended, World.solo_rollback, World.initial_eq_solo t i]
  | preTransaction =>
    simp only [WriteSide.primaryPreTransaction, WriteSide.primaryReads, Routine.run_bind,
      Routine.run_tryFinally, hcheck, Option.bind_some, IdempotencyDecision.miss, ne_eq,
      not_true_eq_false, if_false, hload, Routine.run_perform, Database.serve_rollback, Option.map_some,
      Routine.cleanedUp, World.solo_rollback, World.initial_eq_solo t i]

variable (ho : hasNul v.signature.orderId = false)
include ho

theorem primary_solo_raised {err : PyException}
    (hc : v.writeSide.candidateOf v.signature.orderId (t.events v.signature.orderId) = .error err) :
    v.primary.run (D.serve i) (World.initial t) = some (.error err,World.initial t) := by
  have hcheck := check_solo_miss hmanual hr hl
  have hload (locks : List (ℤ × ℤ)) := PostgresEventStore.load_solo (t := t) hmanual true
    locks ho
  rw [World.initial_eq_solo t i]
  apply primary_run
  unfold WriteSide.primary
  cases v.writeSide.placement with
  | inTransaction =>
    obtain ⟨p,locks,hprepare,hadmitted⟩ := WriteSide.prepare_solo (t := t) hmanual []
      v.writeSide.gate ho
    refine primaryUnitOfWork_run hmanual (World.solo t i (.reading true locks)) ?_ ?_
    · simp only [Routine.run_bind, hcheck, Option.bind_some, IdempotencyDecision.miss, ne_eq,
        not_true_eq_false, if_false, hprepare, hadmitted, hload, Routine.run_ofExcept, hc]
    · rw [World.ended, World.solo_rollback, World.initial_eq_solo t i]
  | preTransaction =>
    simp only [WriteSide.primaryPreTransaction, WriteSide.primaryReads, Routine.run_bind,
      Routine.run_tryFinally, hcheck, Option.bind_some, IdempotencyDecision.miss, ne_eq,
      not_true_eq_false, if_false, hload, Routine.run_pure, Routine.run_perform,
      Database.serve_rollback, Option.map_some, Routine.cleanedUp, World.solo_rollback,
      Routine.run_ofExcept, hc, World.initial_eq_solo t i]

/-- A candidate the validation does not allow is blocked before or after its stream is
prepared, and leaves the tables alone. -/
theorem primary_solo_blocked {c : Candidate}
    (hc : v.writeSide.candidateOf v.signature.orderId (t.events v.signature.orderId) = .ok c)
    (hblocked : c.validationDecision.action ≠ .allow) :
    ∃ prepared, v.primary.run (D.serve i) (World.initial t) =
      some (.ok (.blocked .miss prepared c),World.initial t) := by
  have hcheck := check_solo_miss hmanual hr hl
  have hload (locks : List (ℤ × ℤ)) := PostgresEventStore.load_solo (t := t) hmanual true
    locks ho
  rw [World.initial_eq_solo t i]
  have hrun : ∃ prepared, (v.writeSide.primary v.signature).run (D.serve i) ()
      (World.solo t i (.reading false [])) =
        some ((.ok (.blocked .miss prepared c),()),World.solo t i (.reading false [])) := by
    unfold WriteSide.primary
    cases v.writeSide.placement with
    | inTransaction =>
      obtain ⟨p,locks,hprepare,hadmitted⟩ := WriteSide.prepare_solo (t := t) hmanual []
        v.writeSide.gate ho
      refine ⟨some p,primaryUnitOfWork_run hmanual (World.initial t) ?_ ?_⟩
      · simp only [Routine.run_bind, hcheck, Option.bind_some, IdempotencyDecision.miss, ne_eq,
          not_true_eq_false, if_false, hprepare, hadmitted, hload, Routine.run_ofExcept, hc, hblocked,
          not_false_eq_true, if_true, Routine.run_perform, Database.serve_rollback, Option.map_some,
          Routine.run_pure, World.solo_rollback]
      · rw [World.ended, if_neg (by simp), World.initial_eq_solo t i]
    | preTransaction =>
      refine ⟨none,?_⟩
      simp only [WriteSide.primaryPreTransaction, WriteSide.primaryReads, Routine.run_bind,
        Routine.run_tryFinally, hcheck, Option.bind_some, IdempotencyDecision.miss, ne_eq,
        not_true_eq_false, if_false, hload, Routine.run_pure, Routine.run_perform,
        Database.serve_rollback, Option.map_some, Routine.cleanedUp, World.solo_rollback,
        Routine.run_ofExcept, hc, hblocked, not_false_eq_true, if_true, World.initial_eq_solo t i]
  obtain ⟨prepared,hrun⟩ := hrun
  exact ⟨prepared,primary_run hrun⟩

/-- An allowed candidate reaches its append on a prepared stream. -/
theorem primary_solo_appending {c : Candidate}
    (hc : v.writeSide.candidateOf v.signature.orderId (t.events v.signature.orderId) = .ok c)
    (hallow : c.validationDecision.action = .allow) :
    ∃ p locks, ∀ {x w'}, (v.writeSide.primaryAppend v.signature .miss p c).run (D.serve i) ()
        (World.solo t i (.reading true locks)) = some ((x,()),w') →
      v.primary.run (D.serve i) (World.initial t) = some (x,w'.ended i x) := by
  have hcheck := check_solo_miss hmanual hr hl
  have hload (locks : List (ℤ × ℤ)) := PostgresEventStore.load_solo (t := t) hmanual true
    locks ho
  obtain ⟨p,locks,hprepare,hadmitted⟩ := WriteSide.prepare_solo (t := t) hmanual []
    v.writeSide.gate ho
  refine ⟨p,locks,fun {x w'} happend => ?_⟩
  rw [World.initial_eq_solo t i]
  apply primary_run
  unfold WriteSide.primary
  cases v.writeSide.placement with
  | inTransaction =>
    refine primaryUnitOfWork_run hmanual w' ?_ rfl
    simp only [Routine.run_bind, hcheck, Option.bind_some, IdempotencyDecision.miss, ne_eq,
      not_true_eq_false, if_false, hprepare, hadmitted, hload, Routine.run_ofExcept, hc, hallow]
    exact happend
  | preTransaction =>
    simp only [WriteSide.primaryPreTransaction, WriteSide.primaryReads, WriteSide.primaryAdmission,
      Routine.run_bind, Routine.run_tryFinally, hcheck, Option.bind_some, IdempotencyDecision.miss,
      ne_eq, not_true_eq_false, if_false, hload, Routine.run_pure, Routine.run_perform,
      Database.serve_rollback, Option.map_some, Routine.cleanedUp, World.solo_rollback,
      Routine.run_ofExcept, hc, hallow, World.initial_eq_solo t i]
    refine primaryUnitOfWork_run hmanual w' ?_ rfl
    simp only [Routine.run_bind, hcheck, Option.bind_some, IdempotencyDecision.miss, not_true_eq_false,
      if_false, hprepare, hadmitted]
    exact happend

end WriteInvocation

/-! ## Accepting -/

/-- Tables one after another leaves: sound, and with every key held once. -/
structure Tables.Serial (t : Tables) : Prop where
  sound : t.Sound
  eventIds : (t.orderEvents.map (fun r => r.acceptedEventId)).Nodup
  requests : (t.idempotencyRecords.map (fun r => r.requestId)).Nodup

theorem Tables.Serial.empty : Tables.empty.Serial := ⟨.empty,.nil,.nil⟩

namespace PostgresIdempotencyStore

/-- The row `record` writes. -/
def recordRow (s : RequestSignature) (e : OrderEvent) : Except PyException IdempotencyRow := do
  let p ← recordParameters s e
  let amount ← Numeric.ofDecimal p.amount
  .ok (idempotencyRow p amount)

theorem recordRow_of_stored {e : OrderEvent} {p : IdempotencyParameters} {record : IdempotencyRow}
    (hp : recordParameters s e = .ok p) (hrecord : StoredRecord p record) :
    recordRow s e = .ok record := by
  obtain ⟨amount,hamount,rfl⟩ := hrecord
  simp only [recordRow, hp, ok_bind, hamount]

end PostgresIdempotencyStore

/-- The accepted events and the idempotency records, in commit order. -/
def Tables.durableHistory (t : Tables) : List OrderEvent × List IdempotencyRow :=
  (t.orderEvents.map rowToOrderEvent,t.idempotencyRecords)

/-- The second tables hold these events and records past the first. -/
structure Tables.Extends (t t' : Tables) (added : List (OrderEvent × IdempotencyRow)) : Prop where
  events : t'.durableHistory.1 = t.durableHistory.1 ++ added.map Prod.fst
  records : t'.durableHistory.2 = t.durableHistory.2 ++ added.map Prod.snd

theorem Tables.Extends.refl (t : Tables) : t.Extends t [] :=
  ⟨(List.append_nil _).symm,(List.append_nil _).symm⟩

theorem Tables.Extends.trans {t t' t'' : Tables} {added added' : List (OrderEvent × IdempotencyRow)}
    (h : t.Extends t' added) (h' : t'.Extends t'' added') : t.Extends t'' (added ++ added') := by
  constructor
  · rw [h'.events, h.events, List.map_append, List.append_assoc]
  · rw [h'.records, h.records, List.map_append, List.append_assoc]

/-- The tables a candidate leaves are the registry that has accepted it. -/
theorem Appendable.accepts {draw : Draw} {e : OrderEvent} {parameters : IdempotencyParameters}
    {row : OrderEventRow} {record : IdempotencyRow} (h : Appendable t s draw e) (ht : t.Serial)
    (hnamed : isBlank s.orderId = false)
    (hparameters : PostgresIdempotencyStore.recordParameters s e = .ok parameters)
    (hrow : StoredEvent e row) (hrecord : StoredRecord parameters record) :
    (t.accept row record).Serial ∧ (t.accept row record).registry = t.registry.accept s.canonical e ∧
      row.acceptedEventId = generateEventId draw := by
  have horder := h.event_orderId
  obtain ⟨hrecorded,hcommand⟩ := Recorded.of_stored h.handled.positive h.handled.requestId horder
    h.handled.eventType hrow hparameters hrecord
  have hback := hrow.rowToOrderEvent_eq (ensurePositiveMoney_eq_ok.mp h.handled.positive).2
  have hrowid : row.acceptedEventId = e.eventId := by rw [← hback]; rfl
  have hrecordid : record.requestId = s.requestId := by
    rw [hrecorded.requestId, ← h.handled.requestId, ← hback]
    rfl
  have hrecordorder : record.orderId = s.orderId := by
    rw [hrecorded.orderId, ← horder, ← hback]
    rfl
  have hhandled := h.handled
  rw [ht.sound.events_eq] at hhandled
  have hsound : (t.accept row record).Sound :=
    ht.sound.accept hnamed hhandled hrow hparameters hrecord (by rw [horder]; exact h.orderId)
      (by rw [h.handled.requestId]; exact h.requestId)
  have hids : ((t.accept row record).orderEvents.map (fun r => r.acceptedEventId)).Nodup := by
    rw [Tables.accept_orderEvents, List.map_append, List.nodup_append]
    refine ⟨ht.eventIds,List.nodup_singleton _,fun x hx y hy hxy => h.fresh ?_⟩
    obtain rfl := List.mem_singleton.mp hy
    have hused : x = e.eventId := hxy.trans hrowid
    exact hused ▸ hx
  have hrequests : ((t.accept row record).idempotencyRecords.map (fun r => r.requestId)).Nodup := by
    rw [Tables.accept_idempotencyRecords, List.map_append, List.nodup_append]
    refine ⟨ht.requests,List.nodup_singleton _,fun x hx y hy hxy => ?_⟩
    obtain ⟨r,hr,rfl⟩ := List.mem_map.mp hx
    obtain rfl := List.mem_singleton.mp hy
    have hnone := ht.sound.any_request_eq_false h.unrecorded
    rw [List.any_eq_false] at hnone
    exact hnone r hr (decide_eq_true (hxy.trans hrecordid))
  have hacceptedAs : AcceptedAs (t.accept row record) s e row record :=
    ⟨List.mem_append_right _ (List.mem_singleton_self _),
      List.mem_append_right _ (List.mem_singleton_self _),hrecorded,hback,hrecordid,hrecordorder,hcommand,
      h.handled.positive⟩
  exact ⟨⟨hsound,hids,hrequests⟩,ht.sound.registry_accept hsound hids hrequests hacceptedAs,
    hrowid.trans h.handled.eventId⟩

/-! ## Commands on the tables -/

/-- What a command without a record does to the store. -/
def OrderRegistry.serveUnrecorded (r : OrderRegistry) (v : WriteInvocation) :
    Except PyException PostgresWriteSideResult × OrderRegistry :=
  if hasNul v.signature.orderId then (.error nulInText,r)
  else match v.writeSide.candidateOf v.signature.orderId (r.store v.signature.orderId) with
  | .error err => (.error err,r)
  | .ok c =>
    if c.validationDecision.action ≠ .allow then (.ok (.blocked .miss none c),r)
    else match Numeric.ofDecimal c.event.amount with
    | .error err => (.error err,r)
    | .ok _ => (.ok (.acceptedAs .miss c),r.accept v.signature.canonical c.event)

/-- What a command does to a store that compares requests by their canonical amounts,
whatever gate admits it and wherever it is validated. -/
def OrderRegistry.serveStored (r : OrderRegistry) (v : WriteInvocation) :
    Except PyException PostgresWriteSideResult × OrderRegistry :=
  if hasNul v.signature.requestId then (.error nulInText,r)
  else match r.idem v.signature.requestId with
  | some held =>
    match normalizeMoney v.signature.amount with
    | .error err => (.error err,r)
    | .ok _ => (.ok (.decided
        (if held.signature.eq v.signature.canonical then .replay held else .conflict held) none),r)
  | none => r.serveUnrecorded v

theorem OrderRegistry.serveStored_unrecorded {r : OrderRegistry} {v : WriteInvocation}
    (hr : hasNul v.signature.requestId = false) (hidem : r.idem v.signature.requestId = none) :
    r.serveStored v = r.serveUnrecorded v := by
  simp only [serveStored, hr, hidem, Bool.false_eq_true, if_false]

theorem PostgresWriteSideResult.decided_ungated {d : IdempotencyDecision} {validation : Option Candidate} :
    (decided d validation).ungated = decided d validation := by
  unfold decided
  split <;> rfl

/-- What a command adds to the tables that is answered so. -/
def WriteInvocation.added (v : WriteInvocation) :
    Except PyException PostgresWriteSideResult → List (OrderEvent × IdempotencyRow)
  | .error _ => []
  | .ok r => (r.committed.bind (fun e =>
      (PostgresIdempotencyStore.recordRow v.signature e).toOption.map (fun row => (e,row)))).toList

/-- What a sequence of commands adds to the tables that is answered so. -/
def WriteInvocation.addedBy (vs : List WriteInvocation)
    (answers : List (Except PyException PostgresWriteSideResult)) : List (OrderEvent × IdempotencyRow) :=
  (List.zipWith WriteInvocation.added vs answers).flatten

structure ServedStored (t t' : Tables) (v : WriteInvocation)
    (r : Except PyException PostgresWriteSideDelivery) : Prop where
  answer : r.map (fun d => d.producerValue.result.ungated) = (t.registry.serveStored v).1
  registry : t'.registry = (t.registry.serveStored v).2
  rows : t.Extends t' (v.added (t.registry.serveStored v).1)
  serial : t'.Serial
  drawn : ∀ r ∈ t'.orderEvents, r.acceptedEventId ∈ t.orderEvents.map (fun r => r.acceptedEventId) ∨
    r.acceptedEventId = generateEventId v.draw

namespace WriteInvocation
variable {v : WriteInvocation}

omit [DecidableEq ι] [Fintype ι] in
theorem program_run {f : Semantics (World ι) Operation Operation.Answer PyException} {w w' : World ι}
    {r : Except PyException PostgresWriteSideResult} (h : v.primary.run f w = some (r,w')) :
    ∃ r', v.program.run f w = some (r',w') ∧ r'.map (fun d => d.producerValue.result) = r :=
  v.program_primary.run h

def Unaccepted (x : Except PyException PostgresWriteSideResult) : Prop :=
  ∀ r, x = .ok r → r.outcome ≠ .accepted

theorem unaccepted_error (err : PyException) : Unaccepted (.error err) := by
  intro r h
  cases h

theorem served_unchanged (ht : t.Serial) {x : Except PyException PostgresWriteSideResult}
    (hrun : v.primary.run (D.serve i) (World.initial t) = some (x,World.initial t))
    (hserve : t.registry.serveStored v = (x.map PostgresWriteSideResult.ungated,t.registry))
    (hidle : Unaccepted x) :
    ∃ r t', v.program.run (D.serve i) (World.initial t) = some (r,World.initial t') ∧
      ServedStored t t' v r := by
  obtain ⟨r,hr,hresult⟩ := program_run hrun
  have hadded : v.added (x.map PostgresWriteSideResult.ungated) = [] := by
    cases x with
    | error err => rfl
    | ok result =>
      have hnone : result.ungated.committed = none := if_neg (hidle result rfl)
      simp only [Except.map, added, hnone, Option.bind_none, Option.toList_none]
  refine ⟨r,t,hr,?_,by rw [hserve],?_,ht,fun row hrow => .inl (List.mem_map_of_mem hrow)⟩
  · rw [hserve, ← hresult]
    cases r <;> rfl
  · rw [hserve, hadded]
    exact .refl t

/-- An allowed command is accepted, unless its amount is more than the column holds. -/
theorem serves_allowed (ht : t.Serial) (hmanual : D.autocommit i = false)
    (hfresh : generateEventId v.draw ∉ t.orderEvents.map (fun r => r.acceptedEventId))
    (hr : hasNul v.signature.requestId = false) (hl : t.loadRecord v.signature.requestId = none)
    (ho : hasNul v.signature.orderId = false) {c : Candidate}
    (hc : v.writeSide.candidateOf v.signature.orderId (t.events v.signature.orderId) = .ok c)
    (hallow : c.validationDecision.action = .allow) :
    ∃ r t', v.program.run (D.serve i) (World.initial t) = some (r,World.initial t') ∧
      ServedStored t t' v r := by
  have hserve : t.registry.serveStored v = match Numeric.ofDecimal c.event.amount with
      | .error err => (.error err,t.registry)
      | .ok _ => (.ok (.acceptedAs .miss c),t.registry.accept v.signature.canonical c.event) := by
    rw [OrderRegistry.serveStored_unrecorded hr (by
      change (t.loadRecord v.signature.requestId).map _ = none
      rw [hl, Option.map_none])]
    have hstore : t.registry.store v.signature.orderId = t.events v.signature.orderId := rfl
    simp only [OrderRegistry.serveUnrecorded, ho, Bool.false_eq_true, if_false, hstore, hc, hallow, ne_eq,
      not_true_eq_false]
  obtain ⟨a,ha,hbuilt,hexpected,-⟩ := WriteSide.candidateOf_eq_ok hc
  obtain ⟨hnamed,rfl⟩ := (ht.sound.legal_events v.signature.orderId).eq_of_rehydrate ha
  have hhandled := handledEvent hbuilt
  have hoffered : Offered t v.signature v.draw c.event := ⟨ht.sound,hhandled,ho,hr⟩
  obtain ⟨p,locks,happending⟩ := primary_solo_appending hmanual hr hl ho hc hallow
  cases hamount : Numeric.ofDecimal c.event.amount with
  | error err =>
    rw [hamount] at hserve
    obtain ⟨y,hrun⟩ := hoffered.append_overflow hmanual locks rfl hexpected .miss p hamount
    have hprimary := happending hrun
    rw [World.ended, World.solo_rollback] at hprimary
    exact served_unchanged ht hprimary hserve (unaccepted_error _)
  | ok amount =>
    rw [hamount] at hserve
    have happendable : Appendable t v.signature v.draw c.event :=
      ⟨hoffered,hl,by rw [hhandled.eventId]; exact hfresh,_,hamount⟩
    obtain ⟨parameters,row,record,result,hrun,hungated,hparameters,hrow,hrecord⟩ :=
      happendable.append_solo hmanual locks rfl hexpected .miss p
    have haccepted : result.outcome = .accepted := congrArg (fun r => r.outcome) hungated
    have hprimary := happending hrun
    rw [World.ended, if_pos haccepted, World.solo_commit rfl] at hprimary
    obtain ⟨hserial,hregistry,hrowid⟩ := happendable.accepts ht hnamed hparameters hrow hrecord
    obtain ⟨r,hr,hresult⟩ := program_run hprimary
    have hevent : rowToOrderEvent row = c.event :=
      hrow.rowToOrderEvent_eq (ensurePositiveMoney_eq_ok.mp hhandled.positive).2
    have hadded : v.added (.ok (.acceptedAs .miss c)) = [(c.event,record)] := by
      simp only [added, PostgresWriteSideResult.committed, PostgresWriteSideResult.acceptedAs, if_true,
        Option.bind_some, PostgresIdempotencyStore.recordRow_of_stored hparameters hrecord,
        Except.toOption, Option.map_some, Option.toList_some]
    refine ⟨r,t.accept row record,hr,?_,by rw [hserve, hregistry],?_,hserial,?_⟩
    · rw [hserve]
      cases r with
      | error err => cases hresult
      | ok d =>
        rw [← hungated, ← Except.ok.inj hresult]
        rfl
    · rw [hserve, hadded]
      constructor
      · simp [Tables.durableHistory, Tables.accept_orderEvents, hevent]
      · simp [Tables.durableHistory, Tables.accept_idempotencyRecords]
    · intro other hother
      rcases List.mem_append.mp hother with hold | hnew
      · exact .inl (List.mem_map_of_mem hold)
      · rw [List.mem_singleton.mp hnew]
        exact .inr hrowid

/-- A command on tables nobody else uses does what the store does with it. -/
theorem serves_stored (ht : t.Serial) (hmanual : D.autocommit i = false)
    (hfresh : generateEventId v.draw ∉ t.orderEvents.map (fun r => r.acceptedEventId)) :
    ∃ r t', v.program.run (D.serve i) (World.initial t) = some (r,World.initial t') ∧
      ServedStored t t' v r := by
  have hidem : t.registry.idem v.signature.requestId =
      (t.loadRecord v.signature.requestId).map PostgresIdempotencyStore.rowToIdempotencyRecord := rfl
  have hstore : t.registry.store v.signature.orderId = t.events v.signature.orderId := rfl
  cases hr : hasNul v.signature.requestId with
  | true =>
    refine served_unchanged ht (primary_solo_unchecked hmanual
      (PostgresIdempotencyStore.check_solo_nul hmanual false [] hr)) ?_ (unaccepted_error _)
    simp only [OrderRegistry.serveStored, hr, if_true, Except.map]
  | false =>
    cases hload : t.loadRecord v.signature.requestId with
    | some pair =>
      cases hnorm : normalizeMoney v.signature.amount with
      | error err =>
        have hcheck := PostgresIdempotencyStore.check_solo (t := t) hmanual false [] hr
        rw [hload, show PostgresIdempotencyStore.classify v.signature (some pair) = .error err by
          simp [PostgresIdempotencyStore.classify, buildSemanticFingerprint_eq, hnorm, Except.map, bind,
            Except.bind]] at hcheck
        refine served_unchanged ht (primary_solo_unchecked hmanual hcheck) ?_ (unaccepted_error _)
        simp only [OrderRegistry.serveStored, hr, hidem, hload, Option.map_some, hnorm, Bool.false_eq_true,
          if_false, Except.map]
      | ok b =>
        have hclass := ht.sound.classify_held ht.eventIds hload hnorm
        rw [← hload] at hclass
        refine served_unchanged ht (primary_solo_decided hmanual hr hclass ?_) ?_ ?_
        · split <;> simp [IdempotencyDecision.replay, IdempotencyDecision.conflict]
        · simp only [OrderRegistry.serveStored, hr, hidem, hload, Option.map_some, hnorm,
            Bool.false_eq_true, if_false, Except.map, PostgresWriteSideResult.decided_ungated]
        · rintro r ⟨⟩
          exact PostgresWriteSideResult.decided_outcome_ne
    | none =>
      have hidle := OrderRegistry.serveStored_unrecorded hr (by rw [hidem, hload, Option.map_none])
      rw [OrderRegistry.serveUnrecorded] at hidle
      cases ho : hasNul v.signature.orderId with
      | true =>
        refine served_unchanged ht (primary_solo_unloaded hmanual hr hload ho) ?_ (unaccepted_error _)
        simp only [hidle, ho, if_true, Except.map]
      | false =>
        simp only [ho, Bool.false_eq_true, if_false, hstore] at hidle
        cases hc : v.writeSide.candidateOf v.signature.orderId (t.events v.signature.orderId) with
        | error err =>
          refine served_unchanged ht (primary_solo_raised hmanual hr hload ho hc) ?_ (unaccepted_error _)
          simp only [hidle, hc, Except.map]
        | ok c =>
          by_cases hallow : c.validationDecision.action = .allow
          · exact serves_allowed ht hmanual hfresh hr hload ho hc hallow
          · obtain ⟨prepared,hrun⟩ := primary_solo_blocked hmanual hr hload ho hc hallow
            refine served_unchanged ht hrun ?_ ?_
            · simp only [hidle, hc, hallow, ne_eq, not_false_eq_true, if_true, Except.map]
              rfl
            · rintro r ⟨⟩
              simp

end WriteInvocation

/-! ## Sequences of commands -/

/-- Invocations one after another, each on a connection of its own choice. -/
def Database.serveAll (D : Database ι) : List (ι × WriteInvocation) → World ι →
    Option (List (Except PyException PostgresWriteSideDelivery) × World ι)
  | [], w => some ([],w)
  | (i,v) :: calls, w => (v.program.run (D.serve i) w).bind (fun out =>
      (D.serveAll calls out.2).map (fun rest => (out.1 :: rest.1,rest.2)))

/-- Invocations on connections without autocommit whose new event ids are all fresh. -/
structure Issued (D : Database ι) (t : Tables) (calls : List (ι × WriteInvocation)) : Prop where
  manual : ∀ call ∈ calls, D.autocommit call.1 = false
  distinct : (calls.map (fun call => generateEventId call.2.draw)).Nodup
  fresh : ∀ call ∈ calls, generateEventId call.2.draw ∉ t.orderEvents.map (fun r => r.acceptedEventId)

namespace Issued
variable {call : ι × WriteInvocation} {calls : List (ι × WriteInvocation)}
  {r : Except PyException PostgresWriteSideDelivery} {t' : Tables}

omit [DecidableEq ι] [Fintype ι] in
theorem rest (h : Issued D t (call :: calls)) (hserved : ServedStored t t' call.2 r) :
    Issued D t' calls := by
  have hdistinct := h.distinct
  rw [List.map_cons, List.nodup_cons] at hdistinct
  refine ⟨fun c hc => h.manual c (List.mem_cons_of_mem _ hc),hdistinct.2,fun c hc hused => ?_⟩
  obtain ⟨row,hrow,hid⟩ := List.mem_map.mp hused
  rcases hserved.drawn row hrow with hold | hnew
  · exact h.fresh c (List.mem_cons_of_mem _ hc) (hid ▸ hold)
  · exact hdistinct.1 (List.mem_map.mpr ⟨c,hc,by rw [← hid, hnew]⟩)

/-- Any sequence of commands does what the store does with them. -/
theorem serveAll_stored (ht : t.Serial) (h : Issued D t calls) :
    ∃ rs t', D.serveAll calls (World.initial t) = some (rs,World.initial t') ∧ t'.Serial ∧
      (rs.map (Except.map (fun d => d.producerValue.result.ungated)),t'.registry) =
        SequentialObject.run OrderRegistry.serveStored t.registry (calls.map Prod.snd) ∧
      t.Extends t' (WriteInvocation.addedBy (calls.map Prod.snd)
        (SequentialObject.run OrderRegistry.serveStored t.registry (calls.map Prod.snd)).1) := by
  induction calls generalizing t with
  | nil => exact ⟨[],t,rfl,ht,rfl,.refl t⟩
  | cons call calls ih =>
    have hmem : call ∈ call :: calls := List.mem_cons_self ..
    obtain ⟨r,t',hrun,hserved⟩ := WriteInvocation.serves_stored (D := D) ht (h.manual _ hmem)
      (h.fresh _ hmem)
    obtain ⟨rs,t'',hruns,hserial,hanswers,hrows⟩ := ih hserved.serial (h.rest hserved)
    refine ⟨r :: rs,t'',?_,hserial,?_,?_⟩
    · simp only [Database.serveAll, hrun, Option.bind_some, hruns, Option.map_some]
    · rw [List.map_cons, List.map_cons, SequentialObject.run_cons, ← hserved.answer, ← hserved.registry,
        ← hanswers]
    · rw [List.map_cons, SequentialObject.run_cons, ← hserved.registry]
      exact hserved.rows.trans hrows

end Issued
end StreamingCompass
