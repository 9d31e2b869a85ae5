import StreamingCompass.Core.History
import StreamingCompass.Storage.Session
import StreamingCompass.Transactional.Idempotency

/-! # Accepted tables

What the committed write-side tables are to hold: for each order a legal history, and for
each event one record of the request it was accepted for. Accepting a handled command on
the history of its order keeps it so.
-/
namespace StreamingCompass

/-! ## Amounts in columns -/

namespace Numeric

theorem ofDecimal_error {d : Decimal} {e : PyException} (h : ofDecimal d = .error e) :
    ∃ sqlstate message, e = .databaseError sqlstate message := by
  cases d with
  | finite s c x =>
    simp only [ofDecimal] at h
    split at h
    · cases h
    · exact ⟨_,_,(Except.error.inj h).symm⟩
  | infinity s => exact ⟨_,_,(Except.error.inj h).symm⟩
  | nan => cases h

/-- A canonical amount is stored as it is, when it has at most sixteen whole digits. -/
theorem ofDecimal_ofCents (q : ℕ) : ofDecimal (.ofCents false q) =
    if h : q < 10^18 then .ok (.cents q (by simpa using h))
    else .error (.databaseError "22003" "numeric field overflow") := by
  have hd : Decimal.denominator (-2) = 100 := by decide
  have hn : Decimal.numerator q (-2) = q := by simp [Decimal.numerator]
  have hq : (200*Decimal.numerator q (-2)+Decimal.denominator (-2))/(2*Decimal.denominator (-2)) = q := by
    rw [hd, hn]
    omega
  simp [ofDecimal, Decimal.ofCents, hq, Decimal.signed]

theorem ofDecimal_ofCents_eq_ok {q : ℕ} {n : Numeric} (h : ofDecimal (.ofCents false q) = .ok n) :
    ∃ hrange, n = .cents q hrange := by
  rw [ofDecimal_ofCents] at h
  split at h
  · obtain rfl := Except.ok.inj h
    exact ⟨_,rfl⟩
  · cases h

/-- An amount that is not negative is stored as a column value that is not. -/
theorem zero_le_of_ofCents {q : ℕ} {n : Numeric} (h : ofDecimal (.ofCents false q) = .ok n) :
    zero.le n = true := by
  obtain ⟨_,rfl⟩ := ofDecimal_ofCents_eq_ok h
  simp [zero, le]

theorem toDecimal_of_ofCents {q : ℕ} {n : Numeric} (h : ofDecimal (.ofCents false q) = .ok n) :
    n.toDecimal = .ofCents false q := by
  obtain ⟨_,rfl⟩ := ofDecimal_ofCents_eq_ok h
  have hn : ¬((q : ℤ) < 0) := by omega
  simp [toDecimal, hn]

theorem toDecimal_of_positiveAmount {d : Decimal} {n : Numeric} (hd : PositiveAmount d)
    (h : ofDecimal d = .ok n) : n.toDecimal = d := by
  obtain ⟨q,-,-,rfl⟩ := hd
  exact toDecimal_of_ofCents h

/-- A column value that is not negative is stored as it is. -/
theorem ofDecimal_toDecimal {n : Numeric} (h : zero.le n = true) : ofDecimal n.toDecimal = .ok n := by
  cases n with
  | nan => rfl
  | cents hundredths inRange =>
    have hpos : 0 ≤ hundredths := by simpa [zero, le] using h
    have hq : ofDecimal (toDecimal (.cents hundredths inRange)) =
        ofDecimal (.ofCents false hundredths.natAbs) := by
      simp [toDecimal, not_lt.mpr hpos]
    rw [hq, ofDecimal_ofCents, dif_pos inRange]
    congr
    omega

theorem zero_le_of_positiveAmount {n : Numeric} (h : PositiveAmount n.toDecimal) :
    zero.le n = true := by
  obtain ⟨q,hq,-,heq⟩ := h
  cases n with
  | nan => simp [zero, le]
  | cents hundredths inRange =>
    simp only [toDecimal, Decimal.ofCents, Decimal.finite.injEq, decide_eq_false_iff_not, not_lt,
      and_true] at heq
    simpa [zero, le] using heq.1

end Numeric

theorem StoredEvent.rowToOrderEvent_eq {e : OrderEvent} {row : OrderEventRow} (h : StoredEvent e row)
    (hd : PositiveAmount e.amount) : rowToOrderEvent row = e := by
  obtain ⟨amount,position,hstored,-,-,rfl⟩ := h
  simp only [rowToOrderEvent, orderEventRow, Numeric.toDecimal_of_positiveAmount hd hstored]

namespace PostgresIdempotencyStore

theorem recordParameters_eq (s : RequestSignature) (e : OrderEvent) :
    recordParameters s e = (normalizeMoney s.amount).map (fun d =>
      ⟨s.requestId,s.orderId,s.commandType,d,fingerprintVersion,
        fingerprintText s.commandType s.orderId d,e.eventId,e.sequence⟩) := by
  simp only [recordParameters, buildSemanticFingerprint_eq, moneyToStorageString]
  cases hd : normalizeMoney s.amount with
  | error err => rfl
  | ok d =>
    obtain ⟨negative,q,hq,rfl⟩ := normalizeMoney_eq_ok hd
    have hdec : decimalOfText (Decimal.ofCents negative q).formatF = .ok (.ofCents negative q) := by
      rw [decimalOfText, Decimal.ofText_formatF hq]
    simp [bind, Except.bind, hdec, Except.map]

end PostgresIdempotencyStore

/-! ## Streams -/

namespace Tables

/-- The rows of one order in commit order. -/
def stream (t : Tables) (orderId : String) : List OrderEventRow :=
  t.orderEvents.filter (fun r => r.orderId = orderId)

theorem mem_stream {t : Tables} {orderId : String} {r : OrderEventRow} :
    r ∈ t.stream orderId ↔ r ∈ t.orderEvents ∧ r.orderId = orderId := by
  simp [stream]

theorem stream_grow {t t' : Tables} (h : t.orderEvents <+: t'.orderEvents) (orderId : String) :
    t.stream orderId <+: t'.stream orderId := h.filter _

theorem history_eq_stream {t : Tables} {orderId : String}
    (h : (t.stream orderId).Pairwise (fun a b => a.sequence ≤ b.sequence)) :
    t.history orderId = t.stream orderId := h.insertionSort_eq

theorem history_congr {t t' : Tables} (h : t.orderEvents = t'.orderEvents) (orderId : String) :
    t.history orderId = t'.history orderId := by rw [history, history, h]

end Tables

/-- A record and the event it was accepted for. -/
structure Recorded (r : IdempotencyRow) (e : OrderEventRow) : Prop where
  acceptedEventId : r.acceptedEventId = e.acceptedEventId
  requestId : r.requestId = e.requestId
  orderId : r.orderId = e.orderId
  eventType : r.commandType.eventType = e.eventType
  amount : r.amount = e.amount
  resultSequence : r.resultSequence = e.sequence
  fingerprintVersion : r.fingerprintVersion = fingerprintVersion
  semanticFingerprint :
    r.semanticFingerprint = fingerprintText r.commandType r.orderId r.amount.toDecimal

theorem Recorded.of_stored {s : RequestSignature} {e : OrderEvent} {p : IdempotencyParameters}
    {row : OrderEventRow} {record : IdempotencyRow} (hamount : ensurePositiveMoney s.amount = .ok e.amount)
    (hrequest : e.requestId = s.requestId) (horder : e.orderId = s.orderId)
    (htype : e.eventType = s.commandType.eventType) (hrow : StoredEvent e row)
    (hp : PostgresIdempotencyStore.recordParameters s e = .ok p) (hrecord : StoredRecord p record) :
    Recorded record row ∧ record.commandType = s.commandType := by
  obtain ⟨hnorm,hpos⟩ := ensurePositiveMoney_eq_ok.mp hamount
  rw [PostgresIdempotencyStore.recordParameters_eq, hnorm] at hp
  obtain rfl := Except.ok.inj hp
  obtain ⟨amount,position,hamount,-,-,rfl⟩ := hrow
  obtain ⟨amount',hamount',rfl⟩ := hrecord
  rw [hamount] at hamount'
  obtain rfl := Except.ok.inj hamount'
  exact ⟨⟨rfl,hrequest.symm,horder.symm,htype.symm,rfl,rfl,rfl,by
    simp only [idempotencyRow, Numeric.toDecimal_of_positiveAmount hpos hamount]⟩,rfl⟩

/-- Each member of the first list is related to one of the second. -/
theorem exists_related {α β : Type} {R : α → β → Prop} {xs : List α} {ys : List β}
    (h : List.Forall₂ R xs ys) : ∀ x ∈ xs, ∃ y ∈ ys, R x y := by
  induction h with
  | nil => simp
  | @cons x y xs ys hxy hrest ih =>
    intro a ha
    rcases List.mem_cons.mp ha with rfl | ha
    · exact ⟨y,List.mem_cons_self ..,hxy⟩
    · obtain ⟨b,hb,hab⟩ := ih a ha
      exact ⟨b,List.mem_cons_of_mem _ hb,hab⟩

/-- Texts a text column can hold, and an event id that is not blank. -/
structure OrderEventRow.Texts (r : OrderEventRow) : Prop where
  eventId : isBlank r.acceptedEventId = false
  orderId : hasNul r.orderId = false
  requestId : hasNul r.requestId = false

namespace Tables

structure Sound (t : Tables) : Prop where
  legal : ∀ orderId, LegalHistory orderId ((t.stream orderId).map rowToOrderEvent)
  recorded : List.Forall₂ Recorded t.idempotencyRecords t.orderEvents
  texts : ∀ r ∈ t.orderEvents, r.Texts

theorem Sound.empty : Tables.empty.Sound := ⟨fun _ => .empty,.nil,by simp [Tables.empty]⟩

namespace Sound
variable {t : Tables}

theorem map_sequence (h : t.Sound) (orderId : String) :
    (t.stream orderId).map (fun r => r.sequence) =
      (List.range' 1 (t.stream orderId).length).map Nat.cast := by
  have hm := (h.legal orderId).map_sequence
  rw [List.map_map, List.length_map] at hm
  exact hm

theorem history_eq (h : t.Sound) (orderId : String) : t.history orderId = t.stream orderId := by
  apply history_eq_stream
  have hp : ((t.stream orderId).map (fun r => r.sequence)).Pairwise (· ≤ ·) := by
    rw [h.map_sequence, List.pairwise_map]
    exact (List.pairwise_lt_range' (n := (t.stream orderId).length)).imp fun hlt => by omega
  exact List.pairwise_map.mp hp

theorem events_eq (h : t.Sound) (orderId : String) :
    t.events orderId = (t.stream orderId).map rowToOrderEvent := by
  rw [events, h.history_eq]

theorem legal_events (h : t.Sound) (orderId : String) : LegalHistory orderId (t.events orderId) := by
  rw [h.events_eq]
  exact h.legal orderId

/-- An event's sequence is its place in its stream. -/
theorem sequence_mem (h : t.Sound) {orderId : String} {n : ℕ} (h1 : 1 ≤ n)
    (hn : n ≤ (t.stream orderId).length) :
    ∃ r ∈ t.orderEvents, r.orderId = orderId ∧ r.sequence = n := by
  have hmem : (n : ℤ) ∈ (t.stream orderId).map (fun r => r.sequence) := by
    rw [h.map_sequence, List.mem_map]
    exact ⟨n,List.mem_range'_1.mpr (by omega),rfl⟩
  obtain ⟨r,hr,hsequence⟩ := List.mem_map.mp hmem
  exact ⟨r,(mem_stream.mp hr).1,(mem_stream.mp hr).2,hsequence⟩

/-- A committed event stands in its history where its sequence says. -/
theorem getElem_history (h : t.Sound) {r : OrderEventRow} (hr : r ∈ t.orderEvents) :
    ∃ k : ℕ, (t.history r.orderId)[k]? = some r ∧ r.sequence = k+1 := by
  obtain ⟨k,hk,hrk⟩ := List.mem_iff_getElem.mp (mem_stream.mpr ⟨hr,rfl⟩)
  refine ⟨k,by rw [h.history_eq]; exact List.getElem?_eq_some_iff.mpr ⟨hk,hrk⟩,?_⟩
  have hseq : ((t.stream r.orderId).map (fun r => r.sequence))[k]? = some r.sequence := by
    rw [List.getElem?_map, List.getElem?_eq_some_iff.mpr ⟨hk,hrk⟩]
    rfl
  rw [h.map_sequence, List.getElem?_map, List.getElem?_range' hk, Option.map_some,
    Option.some.injEq] at hseq
  omega

theorem currentVersion_eq (h : t.Sound) (orderId : String) :
    t.currentVersion orderId = (t.stream orderId).length := by
  have hseq : ((t.orderEvents.filter (fun r => r.orderId = orderId)).map (fun r => r.sequence)) =
      (List.range' 1 (t.stream orderId).length).map Nat.cast := h.map_sequence orderId
  have hle : (t.stream orderId).length ≤ 2 := by
    have := (h.legal orderId).length_le
    rwa [List.length_map] at this
  rw [currentVersion, hseq]
  interval_cases (t.stream orderId).length <;> rfl

theorem eventOf (h : t.Sound) {r : IdempotencyRow} (hr : r ∈ t.idempotencyRecords) :
    ∃ e ∈ t.orderEvents, Recorded r e := exists_related h.recorded r hr

theorem recordOf (h : t.Sound) {e : OrderEventRow} (he : e ∈ t.orderEvents) :
    ∃ r ∈ t.idempotencyRecords, Recorded r e := exists_related h.recorded.flip e he

/-- Accepting a handled command with its record keeps the tables sound. -/
theorem accept (h : t.Sound) {s : RequestSignature} {draw : Draw} {e : OrderEvent}
    {p : IdempotencyParameters} {row : OrderEventRow} {record : IdempotencyRow}
    (hn : isBlank s.orderId = false)
    (he : HandledEvent (aggregateOf s.orderId ((t.stream s.orderId).map rowToOrderEvent))
      s.commandType draw s.requestId s.amount e)
    (hrow : StoredEvent e row) (hp : PostgresIdempotencyStore.recordParameters s e = .ok p)
    (hrecord : StoredRecord p record) (ho : hasNul e.orderId = false)
    (hr : hasNul e.requestId = false) : (t.accept row record).Sound := by
  have hback := hrow.rowToOrderEvent_eq (ensurePositiveMoney_eq_ok.mp he.positive).2
  have horder : e.orderId = s.orderId := he.orderId.trans (LegalHistory.aggregateOf_orderId ..)
  have hroworder : row.orderId = s.orderId := by
    rw [← horder, ← hback]
    rfl
  refine ⟨fun o => ?_,?_,fun r hrm => ?_⟩
  · change LegalHistory o (((t.orderEvents ++ [row]).filter (fun r => r.orderId = o)).map rowToOrderEvent)
    rw [List.filter_append, List.map_append]
    by_cases ho : s.orderId = o
    · subst ho
      have hrest : ([row].filter (fun r => r.orderId = s.orderId)).map rowToOrderEvent = [e] := by
        simp [hroworder, hback]
      rw [hrest]
      exact (h.legal s.orderId).extend hn he
    · have hrest : ([row].filter (fun r => r.orderId = o)).map rowToOrderEvent = [] := by
        simp [hroworder, ho]
      rw [hrest, List.append_nil]
      exact h.legal o
  · exact List.rel_append h.recorded (.cons (Recorded.of_stored he.positive he.requestId horder
      he.eventType hrow hp hrecord).1 .nil)
  · rcases List.mem_append.mp hrm with hold | hnew
    · exact h.texts r hold
    · obtain rfl := List.mem_singleton.mp hnew
      rw [← hback] at ho hr
      refine ⟨?_,ho,hr⟩
      have hid : r.acceptedEventId = generateEventId draw := by
        rw [← he.eventId, ← hback]
        rfl
      rw [hid]
      exact generateEventId_not_blank draw

end Sound
end Tables
end StreamingCompass
