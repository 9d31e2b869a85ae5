import StreamingCompass.Projection.WorkerContract
import StreamingCompass.Transactional.Accepted

/-! # Projections of a prefix

The fold of the reducer over a history, and what it means that the projection of an
order stands at the first events of its committed history.
-/
namespace StreamingCompass

/-! ## The reducer -/

/-- What a reducer step fixes. -/
structure Reduced (s : OrderState) (e : OrderEvent) (s' : OrderState) : Prop where
  order : e.orderId = s.orderId
  sequence : e.sequence = s.version+1
  orderId : s'.orderId = s.orderId
  version : s'.version = s.version+1
  status : s'.status ≠ .init
  paidAmount : s'.paidAmount ≠ .nan
  totalAmount : s.status ≠ .init → s'.totalAmount = s.totalAmount

theorem Decimal.ne_nan_of_eq {a b : Decimal} (h : a.eq b = true) : a ≠ .nan := by
  rintro rfl
  cases b <;> cases h

theorem reduceOrderEvent_reduced {s s' : OrderState} {e : OrderEvent}
    (h : reduceOrderEvent s e = .ok s') : Reduced s e s' := by
  simp only [reduceOrderEvent] at h
  split at h
  · cases h
  · rename_i horder
    split at h
    · cases h
    · rename_i hsequence
      have ho := not_not.mp horder
      have hs := not_not.mp hsequence
      split at h
      · split at h
        · cases h
        · rename_i hinit
          obtain rfl := Except.ok.inj h
          exact ⟨ho,hs,rfl,hs,by simp,by simp [Decimal.zero],fun hne => absurd (not_not.mp hinit) hne⟩
      · split at h
        · cases h
        · split at h
          · cases h
          · rename_i hequal
            obtain rfl := Except.ok.inj h
            have hequal : e.amount.eq s.totalAmount = true := by simpa using hequal
            exact ⟨ho,hs,rfl,hs,by simp,Decimal.ne_nan_of_eq hequal,fun _ => rfl⟩

theorem reduceHistory_append (orderId : String) (h : List OrderEvent) (e : OrderEvent) :
    reduceHistory orderId (h ++ [e]) =
      (reduceHistory orderId h).bind (fun s => reduceOrderEvent s e) := by
  rw [reduceHistory, reduceHistory, List.foldlM_append]
  cases h.foldlM reduceOrderEvent (buildEmptyProjectionState orderId) with
  | error err => rfl
  | ok s =>
    simp only [bind, Except.bind, List.foldlM]
    cases reduceOrderEvent s e <;> rfl

/-- A fold that succeeds has counted its events. -/
theorem reduceHistory_version {orderId : String} {h : List OrderEvent} {s : OrderState}
    (hs : reduceHistory orderId h = .ok s) : s.orderId = orderId ∧ s.version = h.length := by
  induction h using List.reverseRecOn generalizing s with
  | nil =>
    obtain rfl := Except.ok.inj hs
    exact ⟨rfl,rfl⟩
  | append_singleton h e ih =>
    rw [reduceHistory_append] at hs
    cases hh : reduceHistory orderId h with
    | error err =>
      rw [hh] at hs
      cases hs
    | ok s₀ =>
      rw [hh] at hs
      have hr := reduceOrderEvent_reduced hs
      obtain ⟨ho,hv⟩ := ih hh
      exact ⟨hr.orderId.trans ho,by rw [hr.version, hv, List.length_append]; rfl⟩

theorem LegalHistory.take {orderId : String} {h : List OrderEvent} (hl : LegalHistory orderId h)
    (k : ℕ) : LegalHistory orderId (h.take k) := by
  cases hl with
  | empty => simpa using .empty
  | created hc =>
    rcases k with _ | k
    · exact .empty
    · simpa using .created hc
  | paid hc hp =>
    rcases k with _ | _ | k
    · exact .empty
    · exact .created hc
    · simpa using .paid hc hp

/-- The projection of a history, as the reducer leaves it. -/
def projectionOf (orderId : String) : List OrderEvent → OrderState
  | [] => buildEmptyProjectionState orderId
  | [e] => ⟨orderId,.created,e.amount,.zero,1⟩
  | e :: p :: _ => ⟨orderId,.paid,e.amount,p.amount,2⟩

theorem LegalHistory.reduce {orderId : String} {h : List OrderEvent} (hl : LegalHistory orderId h) :
    reduceHistory orderId h = .ok (projectionOf orderId h) := by
  cases hl with
  | empty => rfl
  | @created e hc =>
    simp [reduceHistory, reduceOrderEvent, buildEmptyProjectionState, hc.orderId, hc.sequence,
      hc.eventType, List.foldlM, bind, Except.bind, pure, Except.pure, projectionOf]
  | @paid e p hc hp =>
    have heq : p.amount.eq e.amount = true := by
      obtain ⟨q,-,-,hq⟩ := hc.positive
      rw [hp.amount, hq]
      exact Decimal.eq_ofCents.mpr rfl
    simp [reduceHistory, reduceOrderEvent, buildEmptyProjectionState, hc.orderId, hc.sequence,
      hc.eventType, hp.orderId, hp.sequence, hp.eventType, heq, List.foldlM, bind, Except.bind, pure,
      Except.pure, projectionOf]

/-- Amounts a projection row can hold: nothing or the order's amount is paid. -/
structure OrderState.Canonical (s : OrderState) : Prop where
  totalAmount : ∃ q, s.totalAmount = .ofCents false q
  paidAmount : s.paidAmount = .zero ∨ s.paidAmount = s.totalAmount

theorem LegalHistory.canonical {orderId : String} {h : List OrderEvent} (hl : LegalHistory orderId h) :
    (projectionOf orderId h).Canonical := by
  cases hl with
  | empty => exact ⟨⟨0,rfl⟩,.inl rfl⟩
  | created hc =>
    obtain ⟨q,-,-,hq⟩ := hc.positive
    exact ⟨⟨q,hq⟩,.inl rfl⟩
  | paid hc hp =>
    obtain ⟨q,-,-,hq⟩ := hc.positive
    exact ⟨⟨q,hq⟩,.inr hp.amount⟩

theorem LegalHistory.totalAmount_cases {orderId : String} {h : List OrderEvent}
    (hl : LegalHistory orderId h) : (projectionOf orderId h).totalAmount = .zero ∨
      ∃ e ∈ h, (projectionOf orderId h).totalAmount = e.amount := by
  cases hl with
  | empty => exact .inl rfl
  | created hc => exact .inr ⟨_,List.mem_cons_self ..,rfl⟩
  | paid hc hp => exact .inr ⟨_,List.mem_cons_self ..,rfl⟩

theorem StoredState.stateOfRow_eq {s : OrderState} {row : ProjectionStateRow} (hs : s.Canonical)
    (h : StoredState (stateParameters s) row) : PostgresProjectionWorker.stateOfRow row = s := by
  obtain ⟨total,paid,htotal,hpaid,rfl⟩ := h
  obtain ⟨q,hq⟩ := hs.totalAmount
  obtain ⟨q',hq'⟩ : ∃ q', s.paidAmount = .ofCents false q' := by
    rcases hs.paidAmount with h | h
    · exact ⟨0,h⟩
    · exact ⟨q,h.trans hq⟩
  rw [stateParameters, hq] at htotal
  rw [stateParameters, hq'] at hpaid
  rcases s with ⟨orderId,status,totalAmount,paidAmount,version⟩
  simp only at hq hq'
  simp only [PostgresProjectionWorker.stateOfRow, stateParameters, hq, hq',
    Numeric.toDecimal_of_ofCents htotal, Numeric.toDecimal_of_ofCents hpaid]

/-! ## Where a projection stands -/

namespace Tables

def projection (t : Tables) (orderId : String) : OrderState :=
  ((t.projectionStates orderId).map PostgresProjectionWorker.stateOfRow).getD
    (buildEmptyProjectionState orderId)

/-- Progress and state of an order stand at its first `k` committed events. -/
inductive ProjectedTo (t : Tables) (orderId : String) : ℕ → Prop where
  | absent (progress : t.progress (progressKey orderId) = none)
    (state : t.projectionStates orderId = none) : ProjectedTo t orderId 0
  | upTo {k : ℕ} {row : OrderEventRow} {stored : ProjectionStateRow}
    (event : (t.history orderId)[k]? = some row) (sequence : row.sequence = k+1)
    (progress : t.progress (progressKey orderId) = some (progressOf row))
    (state : t.projectionStates orderId = some stored)
    (fold : reduceHistory orderId ((t.events orderId).take (k+1)) =
      .ok (PostgresProjectionWorker.stateOfRow stored)) : ProjectedTo t orderId (k+1)

namespace ProjectedTo
variable {t t' : Tables} {orderId : String} {k : ℕ}

theorem le_length (h : t.ProjectedTo orderId k) : k ≤ (t.history orderId).length := by
  cases h with
  | absent => exact Nat.zero_le _
  | upTo event => exact (List.getElem?_eq_some_iff.mp event).1

theorem lastSequence_eq (h : t.ProjectedTo orderId k) : t.lastSequence (progressKey orderId) = k := by
  cases h with
  | absent progress => simp [lastSequence, progress]
  | upTo event sequence progress => simp [lastSequence, progress, progressOf, sequence]

theorem fold_eq (h : t.ProjectedTo orderId k) :
    reduceHistory orderId ((t.events orderId).take k) = .ok (t.projection orderId) := by
  cases h with
  | absent progress state =>
    simp only [projection, state, Option.map_none, Option.getD_none, List.take_zero]
    rfl
  | upTo event sequence progress state fold =>
    simp only [projection, state, Option.map_some, Option.getD_some, fold]

theorem unique {k' : ℕ} (h : t.ProjectedTo orderId k) (h' : t.ProjectedTo orderId k') : k = k' :=
  Int.natCast_inj.mp (h.lastSequence_eq.symm.trans h'.lastSequence_eq)

/-- Committing more events leaves a projection where it stands. -/
theorem grow (h : t.ProjectedTo orderId k) (hgrow : t.history orderId <+: t'.history orderId)
    (hprogress : t'.progress (progressKey orderId) = t.progress (progressKey orderId))
    (hstate : t'.projectionStates orderId = t.projectionStates orderId) :
    t'.ProjectedTo orderId k := by
  obtain ⟨rest,hrest⟩ := hgrow
  cases h with
  | absent progress state => exact .absent (hprogress.trans progress) (hstate.trans state)
  | @upTo k row stored event sequence progress state fold =>
    have hlt := (List.getElem?_eq_some_iff.mp event).1
    have hevent : (t'.history orderId)[k]? = some row := by
      rw [← hrest, List.getElem?_append_left hlt]
      exact event
    have hfold : reduceHistory orderId ((t'.events orderId).take (k+1)) =
        .ok (PostgresProjectionWorker.stateOfRow stored) := by
      rw [events, ← hrest, ← List.map_take, List.take_append_of_le_length hlt, List.map_take]
      exact fold
    exact .upTo hevent sequence (hprogress.trans progress) (hstate.trans state) hfold

theorem project {row : OrderEventRow} {st : OrderState} {state : ProjectionStateRow}
    (event : (t.history orderId)[k]? = some row) (sequence : row.sequence = k+1)
    (horder : row.orderId = orderId)
    (fold : reduceHistory orderId ((t.events orderId).take (k+1)) = .ok st)
    (hstored : PostgresProjectionWorker.stateOfRow state = st) :
    (t.project state (progressOf row)).ProjectedTo orderId (k+1) := by
  have hid : state.orderId = orderId := by
    rw [← (reduceHistory_version fold).1, ← hstored]
    rfl
  have hprogress : (t.project state (progressOf row)).progress (progressKey orderId) =
      some (progressOf row) := by simp [Tables.project, progressOf, horder]
  have hstate : (t.project state (progressOf row)).projectionStates orderId = some state := by
    simp [Tables.project, hid]
  exact .upTo event sequence hprogress hstate (hstored ▸ fold)

/-- Projecting an event of another order leaves a projection where it stands. -/
theorem project_ne (h : t.ProjectedTo orderId k) {row : OrderEventRow} {state : ProjectionStateRow}
    (hrow : row.orderId ≠ orderId) (hstate : state.orderId ≠ orderId) :
    (t.project state (progressOf row)).ProjectedTo orderId k := by
  refine h.grow (List.prefix_refl _) ?_ ?_
  · exact Function.update_of_ne (fun hk => hrow (congrArg ProgressKey.orderId hk).symm) _ _
  · exact Function.update_of_ne hstate.symm _ _

end ProjectedTo
end Tables
end StreamingCompass
