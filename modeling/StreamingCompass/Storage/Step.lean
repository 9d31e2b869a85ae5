import StreamingCompass.Storage.Database

/-! # What one operation can do

The inversion lemmas of the server: how an operation leaves the world, and which rows a
successful statement writes. Later invariants are derived from these alone.
-/
namespace StreamingCompass
open Interleaving

variable {ι : Type} [DecidableEq ι] [Fintype ι] {D : Database ι} {faulty : ι → Prop} {i : ι}
  {w w' : World ι}

def Operation.isWrite : Operation → Bool
  | .insertIdempotencyRecord _ | .insertOrderEvent _ | .upsertProjectionState _
  | .advanceProgress _ => true
  | _ => false

/-- How an operation with a given reply leaves the world. -/
inductive Stepped (D : Database ι) (i : ι) (w : World ι) :
    (op : Operation) → SqlReply op → World ι → Prop where
  | flag : Stepped D i w .autocommit (.ok (D.autocommit i)) w
  | status : Stepped D i w .transactionStatus (.ok (!(w.transactions i).isOpen)) w
  | began : Stepped D i w .begin (.ok ()) (w.put i {w.transactions i with isOpen := true})
  | committed : Stepped D i w .commit (.ok ()) (w.commit i)
  | rolledBack : Stepped D i w .rollback (.ok ()) (w.rollback i)
  | still {op : Operation} {e : PyException} (mayFail : op.mayFail = true) :
    Stepped D i w op (.error e) w
  | refused {op : Operation} {e : PyException} {x : Transaction} (isStatement : op.isStatement = true)
    (same : x = w.transactions i ∨ x = {w.transactions i with failed := true}) :
    Stepped D i w op (.error e) (settle D w i x)
  | ran {op : Operation} {a : op.Answer} {x : Transaction} {position : ℕ}
    (fresh : w.FreshPosition position) (isStatement : op.isStatement = true)
    (encodable : op.texts.any hasNul = false) (healthy : (w.transactions i).failed = false)
    (effects : effect D position i w op = some (.ok (a,x))) :
    Stepped D i w op (.ok a) (settle D w i x)

omit [Fintype ι] in
theorem statement_eq_some {α : Type} {texts : List String} {f : Effect α}
    {reply : Except PyException α} (h : statement D w i texts f = some (reply,w')) :
    (∃ e, reply = .error e ∧ (w' = w ∨ ∃ x, w' = settle D w i x ∧
        (x = w.transactions i ∨ x = {w.transactions i with failed := true}))) ∨
      ∃ a x, reply = .ok a ∧ f = some (.ok (a,x)) ∧ texts.any hasNul = false ∧
        (w.transactions i).failed = false ∧ w' = settle D w i x := by
  simp only [statement] at h
  split at h
  · obtain ⟨rfl,rfl⟩ := Prod.mk.inj (Option.some.inj h)
    exact .inl ⟨_,rfl,.inr ⟨_,rfl,.inl rfl⟩⟩
  · rename_i htexts
    split at h
    · obtain ⟨rfl,rfl⟩ := Prod.mk.inj (Option.some.inj h)
      exact .inl ⟨_,rfl,.inl rfl⟩
    · rename_i hfailed
      split at h
      · cases h
      · obtain ⟨rfl,rfl⟩ := Prod.mk.inj (Option.some.inj h)
        exact .inl ⟨_,rfl,.inr ⟨_,rfl,.inr rfl⟩⟩
      · obtain ⟨rfl,rfl⟩ := Prod.mk.inj (Option.some.inj h)
        exact .inr ⟨_,_,rfl,rfl,by simpa using htexts,by simpa using hfailed,rfl⟩

theorem exec_statement {op : Operation} (h : op.isStatement = true) (position : ℕ) :
    exec D position i w op = statement D w i op.texts (effect D position i w op) := by
  cases op <;> first | rfl | cases h

/-- Every step of the machine is one of the listed ones. -/
theorem SqlStep.stepped {op : Operation} {reply : SqlReply op}
    (h : SqlStep D faulty i w op reply w') : Stepped D i w op reply w' := by
  cases h with
  | executed fresh runs =>
    cases hs : op.isStatement with
    | true =>
      rw [exec_statement hs] at runs
      rcases statement_eq_some runs with ⟨e,rfl,rfl | ⟨x,rfl,hx⟩⟩ | ⟨a,x,rfl,he,htexts,hok,rfl⟩
      · exact .still (by cases op <;> first | rfl | cases hs)
      · exact .refused hs hx
      · exact .ran fresh hs htexts hok he
    | false =>
      cases op with
      | autocommit =>
        obtain ⟨rfl,rfl⟩ := Prod.mk.inj (Option.some.inj runs)
        exact .flag
      | transactionStatus =>
        obtain ⟨rfl,rfl⟩ := Prod.mk.inj (Option.some.inj runs)
        exact .status
      | begin =>
        obtain ⟨rfl,rfl⟩ := Prod.mk.inj (Option.some.inj runs)
        exact .began
      | commit =>
        obtain ⟨rfl,rfl⟩ := Prod.mk.inj (Option.some.inj runs)
        exact .committed
      | rollback =>
        obtain ⟨rfl,rfl⟩ := Prod.mk.inj (Option.some.inj runs)
        exact .rolledBack
      | _ => cases hs
  | failed allowed mayFail =>
    unfold fault
    split
    · rename_i hs
      exact .refused hs (.inr rfl)
    · exact .still mayFail

/-- A connection that does not fail executes its operations. -/
theorem SqlStep.runs {w w' : World ι} {op : Operation} {reply : SqlReply op}
    (h : SqlStep D faulty i w op reply w') (hf : ¬faulty i) :
    ∃ position, exec D position i w op = some (reply,w') := by
  cases h with
  | executed fresh runs => exact ⟨_,runs⟩
  | failed allowed mayFail => exact absurd allowed hf

/-- A successful statement has sent only text the server takes. -/
theorem Stepped.encodable {op : Operation} {a : op.Answer} (h : Stepped D i w op (.ok a) w')
    (hs : op.isStatement = true) : op.texts.any hasNul = false := by
  generalize hr : (Except.ok a : SqlReply op) = reply at h
  cases h with
  | ran _ _ encodable _ _ => exact encodable
  | still _ => cases hr
  | refused _ _ => cases hr
  | _ => cases hs

/-- The transaction after a successful statement. -/
inductive Written (w : World ι) (i : ι) (position : ℕ) : (op : Operation) → op.Answer →
    Transaction → Prop where
  | read {op : Operation} {a : op.Answer} (readOnly : op.isWrite = false) (locks : List (ℤ × ℤ)) :
    Written w i position op a {w.transactions i with advisoryLocks := locks}
  | event {e : OrderEvent} {amount : Numeric} (stored : Numeric.ofDecimal e.amount = .ok amount)
    (nonneg : Numeric.zero.le amount = true) (positive : 0 < e.sequence)
    (newId : ∀ r ∈ (w.visible i).orderEvents, r.acceptedEventId ≠ e.eventId)
    (newIdOthers : ∀ j, j ≠ i → ∀ r ∈ (w.transactions j).orderEvents, r.acceptedEventId ≠ e.eventId)
    (newPlace : ∀ r ∈ (w.visible i).orderEvents, (r.orderId,r.sequence) ≠ (e.orderId,e.sequence))
    (newPlaceOthers : ∀ j, j ≠ i → ∀ r ∈ (w.transactions j).orderEvents,
      (r.orderId,r.sequence) ≠ (e.orderId,e.sequence)) :
    Written w i position (.insertOrderEvent e) () {w.transactions i with
      orderEvents := (w.transactions i).orderEvents ++ [orderEventRow e amount position]}
  | record {p : IdempotencyParameters} {amount : Numeric}
    (stored : Numeric.ofDecimal p.amount = .ok amount)
    (new : ∀ r ∈ (w.visible i).idempotencyRecords, r.requestId ≠ p.requestId)
    (newOthers : ∀ j, j ≠ i → ∀ r ∈ (w.transactions j).idempotencyRecords,
      r.requestId ≠ p.requestId)
    (references : ∃ e ∈ (w.visible i).orderEvents, e.acceptedEventId = p.acceptedEventId) :
    Written w i position (.insertIdempotencyRecord p) () {w.transactions i with
      idempotencyRecords := (w.transactions i).idempotencyRecords ++ [idempotencyRow p amount]}
  | state {p : ProjectionStateParameters} {total paid : Numeric}
    (storedTotal : Numeric.ofDecimal p.totalAmount = .ok total)
    (storedPaid : Numeric.ofDecimal p.paidAmount = .ok paid)
    (unlocked : ∀ j, j ≠ i → ∀ r ∈ (w.transactions j).projectionStates, r.orderId ≠ p.orderId) :
    Written w i position (.upsertProjectionState p) () {w.transactions i with projectionStates :=
      ⟨p.orderId,p.status,total,paid,p.version,p.lastSequence⟩ :: (w.transactions i).projectionStates}
  | progressed {p : ProgressRow} (writes : progressWrite (w.visible i) p = true)
    (unlocked : ∀ j, j ≠ i → ∀ r ∈ (w.transactions j).progress, r.key ≠ p.key) :
    Written w i position (.advanceProgress p) (some p) {w.transactions i with
      progress := p :: (w.transactions i).progress}
  | stale {p : ProgressRow} (writes : progressWrite (w.visible i) p = false) :
    Written w i position (.advanceProgress p) none (w.transactions i)

theorem World.others_eq_false {p : Transaction → Bool} (h : ¬w.others i p = true) :
    ∀ j, j ≠ i → p (w.transactions j) = false := by
  intro j hj
  cases hp : p (w.transactions j) with
  | false => rfl
  | true => exact absurd (decide_eq_true ⟨j,hj,hp⟩) h

theorem not_any_of {α : Type} {l : List α} {p : α → Prop} [DecidablePred p]
    (h : ¬l.any (fun a => decide (p a)) = true) : ∀ a ∈ l, ¬p a := by
  simpa using h

theorem insertOrderEvent_written {e : OrderEvent} {position : ℕ} {a : Unit} {x : Transaction}
    (h : insertOrderEvent w i position e = some (.ok (a,x))) :
    Written w i position (.insertOrderEvent e) a x := by
  simp only [insertOrderEvent] at h
  split at h
  · cases h
  · rename_i amount hamount
    split at h
    · cases h
    · rename_i hcheck
      simp only [failedCheck] at hcheck
      split at hcheck
      · rename_i hnonneg
        split at hcheck
        · rename_i hpositive
          split at h
          · cases h
          · rename_i h1
            split at h
            · cases h
            · rename_i h2
              split at h
              · cases h
              · rename_i h3
                split at h
                · cases h
                · rename_i h4
                  obtain ⟨-,rfl⟩ := Prod.mk.inj (Except.ok.inj (Option.some.inj h))
                  refine .event hamount hnonneg (of_decide_eq_true hpositive)
                    (not_any_of h1) (fun j hj => ?_) (fun r hr hk => ?_) (fun j hj r hr hk => ?_)
                  · have := World.others_eq_false h2 j hj
                    simpa using this
                  · exact not_any_of h3 r hr (Prod.mk.inj hk)
                  · have := World.others_eq_false h4 j hj
                    simp only [List.any_eq_false, decide_eq_true_eq] at this
                    exact this r hr (Prod.mk.inj hk)
        · cases hcheck
      · cases hcheck

theorem insertIdempotencyRecord_written {p : IdempotencyParameters} {position : ℕ} {a : Unit}
    {x : Transaction} (h : insertIdempotencyRecord w i p = some (.ok (a,x))) :
    Written w i position (.insertIdempotencyRecord p) a x := by
  simp only [insertIdempotencyRecord] at h
  split at h
  · cases h
  · rename_i amount hamount
    split at h
    · cases h
    · split at h
      · cases h
      · rename_i h1
        split at h
        · cases h
        · rename_i h2
          split at h
          · rename_i h3
            obtain ⟨-,rfl⟩ := Prod.mk.inj (Except.ok.inj (Option.some.inj h))
            refine .record hamount (not_any_of h1) (fun j hj => ?_) ?_
            · have := World.others_eq_false h2 j hj
              simpa using this
            · simpa using h3
          · cases h

theorem upsertProjectionState_written {p : ProjectionStateParameters} {position : ℕ} {a : Unit}
    {x : Transaction} (h : upsertProjectionState w i p = some (.ok (a,x))) :
    Written w i position (.upsertProjectionState p) a x := by
  simp only [upsertProjectionState] at h
  split at h
  · cases h
  · rename_i total htotal
    split at h
    · cases h
    · rename_i paid hpaid
      split at h
      · cases h
      · split at h
        · cases h
        · rename_i h1
          obtain ⟨-,rfl⟩ := Prod.mk.inj (Except.ok.inj (Option.some.inj h))
          refine .state htotal hpaid (fun j hj => ?_)
          have := World.others_eq_false h1 j hj
          simpa using this

theorem advanceProgress_written {p : ProgressRow} {position : ℕ} {a : Option ProgressRow}
    {x : Transaction} (h : advanceProgress w i p = some (.ok (a,x))) :
    Written w i position (.advanceProgress p) a x := by
  simp only [advanceProgress] at h
  split at h
  · rename_i hw
    split at h
    · cases h
    · split at h
      · cases h
      · rename_i h1
        obtain ⟨rfl,rfl⟩ := Prod.mk.inj (Except.ok.inj (Option.some.inj h))
        refine .progressed hw (fun j hj => ?_)
        have := World.others_eq_false h1 j hj
        simpa using this
  · rename_i hw
    obtain ⟨rfl,rfl⟩ := Prod.mk.inj (Except.ok.inj (Option.some.inj h))
    exact .stale (by simpa using hw)

theorem effect_written {op : Operation} {position : ℕ} {a : op.Answer} {x : Transaction}
    (h : effect D position i w op = some (.ok (a,x))) : Written w i position op a x := by
  cases op with
  | insertIdempotencyRecord p => exact insertIdempotencyRecord_written h
  | insertOrderEvent e => exact insertOrderEvent_written h
  | upsertProjectionState p => exact upsertProjectionState_written h
  | advanceProgress p => exact advanceProgress_written h
  | tryAdvisoryXactLock key1 key2 =>
    simp only [effect, tryAdvisoryXactLock] at h
    split at h
    · obtain ⟨rfl,rfl⟩ := Prod.mk.inj (Except.ok.inj (Option.some.inj h))
      exact .read rfl _
    · obtain ⟨rfl,rfl⟩ := Prod.mk.inj (Except.ok.inj (Option.some.inj h))
      exact .read rfl _
  | selectIdempotencyRecord _ | selectHistory _ | selectCurrentVersion _ | selectEligible _ _ _
  | selectProjectionState _ =>
    obtain ⟨rfl,rfl⟩ := Prod.mk.inj (Except.ok.inj (Option.some.inj h))
    exact .read rfl _
  | _ => cases h

end StreamingCompass
