import StreamingCompass.Concurrency.Retry
import StreamingCompass.Concurrency.WriteSideReceipts
import StreamingCompass.Projection.Consistency
import StreamingCompass.Transactional.ModeEquivalence

/-! # Tables as a registry

The in-memory registry that holds what sound tables hold. Accepting in the tables is
accepting in the registry, and a found record decides a request as the registry does.
-/
namespace StreamingCompass
open Interleaving

/-- The request with its canonical amount, as PostgreSQL compares it. -/
def RequestSignature.canonical (s : RequestSignature) : RequestSignature :=
  {s with amount := match normalizeMoney s.amount with
    | .ok amount => .decimal amount
    | .error _ => s.amount}

theorem RequestSignature.canonical_eq {s : RequestSignature} {d : Decimal}
    (h : normalizeMoney s.amount = .ok d) :
    s.canonical = ⟨s.requestId,s.commandType,s.orderId,.decimal d⟩ := by
  simp [canonical, h]

def Tables.registry (t : Tables) : OrderRegistry :=
  ⟨t.events,fun requestId => (t.loadRecord requestId).map PostgresIdempotencyStore.rowToIdempotencyRecord⟩

theorem Tables.registry_congr {t t' : Tables} (he : t.orderEvents = t'.orderEvents)
    (hr : t.idempotencyRecords = t'.idempotencyRecords) : t.registry = t'.registry := by
  have hevents : t.events = t'.events := by
    funext orderId
    rw [Tables.events, Tables.events, Tables.history_congr he]
  simp only [registry, hevents, Tables.loadRecord, he, hr]

theorem HandledEvent.canonical {a : OrderAggregate} {s : RequestSignature} {draw : Draw}
    {e : OrderEvent} (h : HandledEvent a s.commandType draw s.requestId s.amount e) :
    HandledEvent a s.canonical.commandType draw s.canonical.requestId s.canonical.amount e := by
  obtain ⟨hnorm,hpos⟩ := ensurePositiveMoney_eq_ok.mp h.positive
  rw [RequestSignature.canonical_eq hnorm]
  exact {h with positive := ensurePositiveMoney_eq_ok.mpr ⟨normalizeMoney_normalized hnorm,hpos⟩}

/-- A positive amount equals no amount but itself. -/
theorem Decimal.eq_ofCents_of_pos {s : Bool} {q q' : ℕ} (hq : 0 < q) :
    (Decimal.ofCents false q).eq (.ofCents s q') = true ↔
      Decimal.ofCents false q = Decimal.ofCents s q' := by
  rw [Decimal.eq_ofCents]
  simp only [Decimal.signed, Decimal.ofCents, Decimal.finite.injEq, and_true]
  cases s with
  | false => simp
  | true =>
    simp only [Bool.false_eq_true, if_false, if_true, false_and, iff_false]
    omega

namespace OrderRegistry
variable {r : OrderRegistry} {mode : ValidationMode} {s : RequestSignature} {draw : Draw}

theorem handle_accepted {a : OrderAggregate} {e : OrderEvent} (hidem : r.idem s.requestId = none)
    (ha : rehydrate s.orderId (r.store s.orderId) = .ok a)
    (he : a.handle s.commandType draw s.requestId s.amount = .ok e) :
    r.handle mode s draw = (.ok (.event e),r.accept s e) := by
  simp only [handle_eq, serve, hidem, ha, he, bind, Except.bind]

theorem handle_held {held : IdempotencyRecord} (hidem : r.idem s.requestId = some held) :
    r.handle mode s draw = (.ok (if held.signature.eq s then .event held.acceptedEvent
      else .conflict (.conflict held)),r) := by
  simp only [handle_eq, serve, hidem]

end OrderRegistry

/-- What the registry returns where the write side returns this; nothing for a refusal. -/
def PostgresWriteSideResult.registryOutcome (r : PostgresWriteSideResult) : Option RegistryOutcome :=
  match r.outcome with
  | .accepted | .replay => r.acceptedEvent.map .event
  | .conflict => some (.conflict r.idempotencyDecision)
  | .validationBlocked | .admissionRejected => none

namespace Tables.Sound
variable {t : Tables} {s : RequestSignature} {e : OrderEvent} {row : OrderEventRow}
  {record : IdempotencyRow}

/-- The record of another request is not touched by an acceptance. -/
theorem loadRecord_accept_ne (h : t.Sound) {requestId : String} (hne : record.requestId ≠ requestId) :
    (t.accept row record).loadRecord requestId = t.loadRecord requestId := by
  simp only [Tables.loadRecord, Tables.accept_idempotencyRecords, Tables.accept_orderEvents,
    List.find?_append]
  cases hr : t.idempotencyRecords.find? (fun r => r.requestId = requestId) with
  | none => simp [hne]
  | some r =>
    obtain ⟨e,he,hrecorded⟩ := h.eventOf (List.mem_of_find?_eq_some hr)
    have hfound : (t.orderEvents.find? (fun e => e.acceptedEventId = r.acceptedEventId)).isSome := by
      rw [List.find?_isSome]
      exact ⟨e,he,by simp [hrecorded.acceptedEventId]⟩
    obtain ⟨e',he'⟩ := Option.isSome_iff_exists.mp hfound
    simp [he']

theorem registry_accept (h : t.Sound) (h' : (t.accept row record).Sound)
    (hids : ((t.accept row record).orderEvents.map (fun e => e.acceptedEventId)).Nodup)
    (hrequests : ((t.accept row record).idempotencyRecords.map (fun r => r.requestId)).Nodup)
    (ha : AcceptedAs (t.accept row record) s e row record) :
    (t.accept row record).registry = t.registry.accept s.canonical e := by
  have horder : row.orderId = e.orderId := by rw [← ha.stored]; rfl
  have hevents : (t.accept row record).events =
      Function.update t.events e.orderId (t.events e.orderId ++ [e]) := by
    funext orderId
    have hstream : (t.accept row record).stream orderId =
        t.stream orderId ++ [row].filter (fun r => r.orderId = orderId) := List.filter_append ..
    rw [h'.events_eq, hstream, List.map_append, ← h.events_eq]
    by_cases ho : orderId = e.orderId
    · subst ho
      simp [horder, ha.stored]
    · have hother : ¬row.orderId = orderId := fun heq => ho (heq.symm.trans horder)
      simp [hother, ho]
  have hrecord : PostgresIdempotencyStore.rowToIdempotencyRecord (record,row) = ⟨s.canonical,e⟩ := by
    have hamount : record.amount.toDecimal = e.amount := by
      rw [ha.recorded.amount, ← ha.stored]
      rfl
    rw [RequestSignature.canonical_eq (ensurePositiveMoney_eq_ok.mp ha.amount).1,
      PostgresIdempotencyStore.rowToIdempotencyRecord, ha.requestId, ha.orderId, ha.commandType, hamount]
    exact congrArg _ ha.stored
  have hidem : (fun requestId => ((t.accept row record).loadRecord requestId).map
        PostgresIdempotencyStore.rowToIdempotencyRecord) =
      Function.update (fun requestId => (t.loadRecord requestId).map
        PostgresIdempotencyStore.rowToIdempotencyRecord) s.requestId (some ⟨s.canonical,e⟩) := by
    funext requestId
    by_cases hid : requestId = s.requestId
    · subst hid
      rw [Function.update_self, ha.loadRecord (List.prefix_refl _) (List.prefix_refl _) hids hrequests,
        Option.map_some, hrecord]
    · have hother : record.requestId ≠ requestId := by
        rw [ha.requestId]
        exact fun heq => hid heq.symm
      rw [Function.update_of_ne hid, h.loadRecord_accept_ne hother]
  simp only [Tables.registry, OrderRegistry.accept, IdempotencyProvider.record, hevents, hidem]
  rfl

/-- A found record classifies a request by its canonical amount. -/
theorem classify_held (h : t.Sound) (hids : (t.orderEvents.map (fun e => e.acceptedEventId)).Nodup)
    {pair : IdempotencyRow × OrderEventRow} (hload : t.loadRecord s.requestId = some pair) {b : Decimal}
    (hs : normalizeMoney s.amount = .ok b) :
    PostgresIdempotencyStore.classify s (some pair) = .ok
      (if (PostgresIdempotencyStore.rowToIdempotencyRecord pair).signature.eq s.canonical
        then .replay (PostgresIdempotencyStore.rowToIdempotencyRecord pair)
        else .conflict (PostgresIdempotencyStore.rowToIdempotencyRecord pair)) := by
  have hholds := h.holds hids hload
  obtain ⟨q,hq,-,hamount⟩ := hholds.positiveAmount h
  have hclass := PostgresIdempotencyStore.classify_some pair hholds.recorded.fingerprintVersion
    (hholds.recorded.semanticFingerprint.trans (by rw [hamount])) hs
  have hsame : (PostgresIdempotencyStore.rowToIdempotencyRecord pair).signature.eq s.canonical =
      true ↔ pair.1.commandType = s.commandType ∧ pair.1.orderId = s.orderId ∧
        Decimal.ofCents false q = b := by
    rw [RequestSignature.canonical_eq hs]
    obtain ⟨negative,q',-,rfl⟩ := normalizeMoney_eq_ok hs
    simp only [RequestSignature.eq, PostgresIdempotencyStore.rowToIdempotencyRecord, hholds.requestId,
      beq_self_eq_true, Bool.true_and, Bool.and_eq_true, beq_iff_eq, MoneyInput.eq, hamount,
      Decimal.eq_ofCents_of_pos hq, and_assoc]
  rw [hclass]
  simp only [hsame]

theorem registry_decided (h : t.Sound)
    (hids : (t.orderEvents.map (fun e => e.acceptedEventId)).Nodup) {d : IdempotencyDecision}
    (hd : PostgresIdempotencyStore.classify s (t.loadRecord s.requestId) = .ok d) (hmiss : d.verdict ≠ .miss)
    (mode : ValidationMode) (draw : Draw) :
    ∃ o, t.registry.handle mode s.canonical draw = (.ok o,t.registry) ∧
      ∀ validation, (PostgresWriteSideResult.decided d validation).registryOutcome = some o := by
  cases hload : t.loadRecord s.requestId with
  | none =>
    rw [hload] at hd
    obtain rfl := Except.ok.inj hd
    exact absurd rfl hmiss
  | some pair =>
    rw [hload] at hd
    cases hs : normalizeMoney s.amount with
    | error err =>
      simp [PostgresIdempotencyStore.classify, buildSemanticFingerprint_eq, hs, Except.map, bind,
        Except.bind] at hd
    | ok b =>
      have hidem : t.registry.idem s.canonical.requestId =
          some (PostgresIdempotencyStore.rowToIdempotencyRecord pair) := by
        change (t.loadRecord s.requestId).map _ = _
        rw [hload, Option.map_some]
      rw [h.classify_held hids hload hs] at hd
      obtain rfl := Except.ok.inj hd
      rw [OrderRegistry.handle_held hidem]
      cases heq : (PostgresIdempotencyStore.rowToIdempotencyRecord pair).signature.eq s.canonical with
      | true => exact ⟨_,rfl,fun _ => rfl⟩
      | false => exact ⟨_,rfl,fun _ => rfl⟩

end Tables.Sound

end StreamingCompass
