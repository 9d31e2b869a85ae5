import StreamingCompass.Interleaving.UniqueKey
import StreamingCompass.Storage.Step

/-! # Integrity of the tables

Every unique key is held once over committed and pending rows, committed rows stay,
and a connection touches no transaction but its own.
-/
namespace StreamingCompass
open Interleaving

variable {ι : Type} [DecidableEq ι] {D : Database ι} {i : ι} {w w' : World ι}

namespace World

def pendingEvents (w : World ι) (j : ι) : List OrderEventRow := (w.transactions j).orderEvents
def pendingRecords (w : World ι) (j : ι) : List IdempotencyRow :=
  (w.transactions j).idempotencyRecords

theorem pendingEvents_put (x : Transaction) :
    (w.put i x).pendingEvents = Function.update w.pendingEvents i x.orderEvents := by
  funext j
  by_cases hj : j = i
  · subst hj
    simp [pendingEvents]
  · simp [pendingEvents, put_ne _ hj, hj]

theorem pendingRecords_put (x : Transaction) :
    (w.put i x).pendingRecords = Function.update w.pendingRecords i x.idempotencyRecords := by
  funext j
  by_cases hj : j = i
  · subst hj
    simp [pendingRecords]
  · simp [pendingRecords, put_ne _ hj, hj]

end World

def OrderEventRow.place (r : OrderEventRow) : String × ℤ := (r.orderId,r.sequence)

structure World.Integral (w : World ι) : Prop where
  eventId : Exclusive (fun r => r.acceptedEventId) w.tables.orderEvents w.pendingEvents
  place : Exclusive OrderEventRow.place w.tables.orderEvents w.pendingEvents
  position : Exclusive (fun r => r.globalPosition) w.tables.orderEvents w.pendingEvents
  request : Exclusive (fun r => r.requestId) w.tables.idempotencyRecords w.pendingRecords
  positivePosition : (∀ r ∈ w.tables.orderEvents, 0 < r.globalPosition) ∧
    ∀ j, ∀ r ∈ w.pendingEvents j, 0 < r.globalPosition

namespace World.Integral

omit [DecidableEq ι] in
theorem initial : (World.initial .empty : World ι).Integral :=
  ⟨.nil,.nil,.nil,.nil,by simp [World.initial, Tables.empty],by
    simp [World.initial, World.pendingEvents, Transaction.idle]⟩

theorem put_same (h : w.Integral) {x : Transaction}
    (he : x.orderEvents = (w.transactions i).orderEvents)
    (hr : x.idempotencyRecords = (w.transactions i).idempotencyRecords) : (w.put i x).Integral := by
  have hpe : (w.put i x).pendingEvents = w.pendingEvents := by
    rw [World.pendingEvents_put, he]
    exact Function.update_eq_self i w.pendingEvents
  have hpr : (w.put i x).pendingRecords = w.pendingRecords := by
    rw [World.pendingRecords_put, hr]
    exact Function.update_eq_self i w.pendingRecords
  refine ⟨?_,?_,?_,?_,?_⟩
  · rw [hpe]; exact h.eventId
  · rw [hpe]; exact h.place
  · rw [hpe]; exact h.position
  · rw [hpr]; exact h.request
  · rw [hpe]; exact h.positivePosition

theorem rollback (h : w.Integral) (i : ι) : (w.rollback i).Integral := by
  have hpe : (w.rollback i).pendingEvents = Function.update w.pendingEvents i [] :=
    World.pendingEvents_put _
  have hpr : (w.rollback i).pendingRecords = Function.update w.pendingRecords i [] :=
    World.pendingRecords_put _
  refine ⟨?_,?_,?_,?_,h.positivePosition.1,?_⟩
  · rw [hpe]; exact h.eventId.rollback i
  · rw [hpe]; exact h.place.rollback i
  · rw [hpe]; exact h.position.rollback i
  · rw [hpr]; exact h.request.rollback i
  · rw [hpe]
    intro j r hr
    by_cases hj : j = i
    · subst hj
      simp at hr
    · rw [Function.update_of_ne hj] at hr
      exact h.positivePosition.2 j r hr

theorem commit (h : w.Integral) (i : ι) : (w.commit i).Integral := by
  cases hf : (w.transactions i).failed with
  | true =>
    have : w.commit i = w.rollback i := by simp [World.commit, hf]
    rw [this]
    exact h.rollback i
  | false =>
    have hc : w.commit i = ⟨w.visible i,Function.update w.transactions i .idle⟩ := by
      simp [World.commit, hf]
    have hpe : (w.commit i).pendingEvents = Function.update w.pendingEvents i [] := by
      rw [hc]
      exact World.pendingEvents_put .idle
    have hpr : (w.commit i).pendingRecords = Function.update w.pendingRecords i [] := by
      rw [hc]
      exact World.pendingRecords_put .idle
    have hte : (w.commit i).tables.orderEvents = w.tables.orderEvents ++ w.pendingEvents i := by
      rw [hc]; rfl
    have htr : (w.commit i).tables.idempotencyRecords =
        w.tables.idempotencyRecords ++ w.pendingRecords i := by
      rw [hc]; rfl
    refine ⟨?_,?_,?_,?_,?_,?_⟩
    · rw [hpe, hte]; exact h.eventId.commit i
    · rw [hpe, hte]; exact h.place.commit i
    · rw [hpe, hte]; exact h.position.commit i
    · rw [hpr, htr]; exact h.request.commit i
    · rw [hte]
      intro r hr
      rcases List.mem_append.mp hr with hr | hr
      · exact h.positivePosition.1 r hr
      · exact h.positivePosition.2 i r hr
    · rw [hpe]
      intro j r hr
      by_cases hj : j = i
      · subst hj
        simp at hr
      · rw [Function.update_of_ne hj] at hr
        exact h.positivePosition.2 j r hr

end World.Integral

theorem settle_eq (D : Database ι) (w : World ι) (i : ι) (x : Transaction) :
    settle D w i x = w.put i {x with isOpen := true} ∨
      settle D w i x = (w.put i x).commit i := by
  unfold settle
  split
  · exact .inr rfl
  · exact .inl rfl

/-- Ending a statement keeps the integrity of the world it wrote into. -/
theorem World.Integral.settle {x : Transaction} (h : (w.put i x).Integral) :
    (settle D w i x).Integral := by
  rcases settle_eq D w i x with hs | hs
  · rw [hs]
    have : w.put i {x with isOpen := true} = (w.put i x).put i {x with isOpen := true} := by
      simp [World.put]
    rw [this]
    exact h.put_same (by simp) (by simp)
  · rw [hs]
    exact h.commit i

theorem World.Integral.written (h : w.Integral) {op : Operation} {a : op.Answer} {x : Transaction}
    {position : ℕ} (hf : w.FreshPosition position) (hw : Written w i position op a x) :
    (w.put i x).Integral := by
  cases hw with
  | read hr locks => exact h.put_same rfl rfl
  | @event e amount stored nonneg positive newId newIdOthers newPlace newPlaceOthers =>
    have hpe := World.pendingEvents_put (w := w) (i := i) {w.transactions i with
      orderEvents := (w.transactions i).orderEvents ++ [orderEventRow e amount position]}
    have hpr := World.pendingRecords_put (w := w) (i := i) {w.transactions i with
      orderEvents := (w.transactions i).orderEvents ++ [orderEventRow e amount position]}
    have hvis : ∀ r, r ∈ w.tables.orderEvents ∨ r ∈ w.pendingEvents i →
        r ∈ (w.visible i).orderEvents := fun r hr => List.mem_append.mpr hr
    refine ⟨?_,?_,?_,?_,h.positivePosition.1,?_⟩
    · rw [hpe]
      exact h.eventId.insert (fun c hc => newId c (hvis c (.inl hc)))
        (fun s hs => newId s (hvis s (.inr hs))) newIdOthers
    · rw [hpe]
      exact h.place.insert (fun c hc => newPlace c (hvis c (.inl hc)))
        (fun s hs => newPlace s (hvis s (.inr hs))) newPlaceOthers
    · rw [hpe]
      exact h.position.insert hf.2.1 (hf.2.2 i) (fun j _ => hf.2.2 j)
    · rw [hpr]
      exact (Function.update_eq_self i w.pendingRecords).symm ▸ h.request
    · rw [hpe]
      intro j r hr
      by_cases hj : j = i
      · subst hj
        rw [Function.update_self, List.mem_append, List.mem_singleton] at hr
        rcases hr with hr | rfl
        · exact h.positivePosition.2 j r hr
        · exact hf.1
      · rw [Function.update_of_ne hj] at hr
        exact h.positivePosition.2 j r hr
  | @record p amount stored new newOthers references =>
    have hpe := World.pendingEvents_put (w := w) (i := i) {w.transactions i with
      idempotencyRecords := (w.transactions i).idempotencyRecords ++ [idempotencyRow p amount]}
    have hpr := World.pendingRecords_put (w := w) (i := i) {w.transactions i with
      idempotencyRecords := (w.transactions i).idempotencyRecords ++ [idempotencyRow p amount]}
    have hsame : Function.update w.pendingEvents i (w.transactions i).orderEvents = w.pendingEvents :=
      Function.update_eq_self i w.pendingEvents
    have hvis : ∀ r, r ∈ w.tables.idempotencyRecords ∨ r ∈ w.pendingRecords i →
        r ∈ (w.visible i).idempotencyRecords := fun r hr => List.mem_append.mpr hr
    refine ⟨?_,?_,?_,?_,h.positivePosition.1,?_⟩
    · rw [hpe, hsame]; exact h.eventId
    · rw [hpe, hsame]; exact h.place
    · rw [hpe, hsame]; exact h.position
    · rw [hpr]
      exact h.request.insert (fun c hc => new c (hvis c (.inl hc)))
        (fun s hs => new s (hvis s (.inr hs))) newOthers
    · rw [hpe, hsame]; exact h.positivePosition.2
  | state storedTotal storedPaid unlocked => exact h.put_same rfl rfl
  | progressed writes unlocked => exact h.put_same rfl rfl
  | stale writes => exact h.put_same rfl rfl

variable [Fintype ι]

theorem Stepped.integral {op : Operation} {reply : SqlReply op} (hs : Stepped D i w op reply w')
    (h : w.Integral) : w'.Integral := by
  cases hs with
  | flag => exact h
  | status => exact h
  | began => exact h.put_same rfl rfl
  | committed => exact h.commit i
  | rolledBack => exact h.rollback i
  | still => exact h
  | refused _ same =>
    apply World.Integral.settle
    rcases same with rfl | rfl
    · exact h.put_same rfl rfl
    · exact h.put_same rfl rfl
  | ran fresh _ _ _ effects => exact (h.written fresh (effect_written effects)).settle

theorem Stepped.others {op : Operation} {reply : SqlReply op} (hs : Stepped D i w op reply w')
    {j : ι} (hj : j ≠ i) : w'.transactions j = w.transactions j := by
  have hset (x : Transaction) : (settle D w i x).transactions j = w.transactions j := by
    rcases settle_eq D w i x with h | h
    · rw [h, World.put_ne _ hj]
    · rw [h, World.commit_ne _ hj, World.put_ne _ hj]
  cases hs with
  | flag => rfl
  | status => rfl
  | began => exact World.put_ne _ hj _
  | committed => exact World.commit_ne _ hj
  | rolledBack => exact World.rollback_ne _ hj
  | still => rfl
  | refused => exact hset _
  | ran => exact hset _

end StreamingCompass
