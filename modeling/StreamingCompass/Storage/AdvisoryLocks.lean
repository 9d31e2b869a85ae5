import StreamingCompass.Storage.Session

/-! # Advisory locks

A transaction-scoped advisory lock is held from the reply that grants it to the commit or
rollback of its transaction, and by one transaction at a time.
-/
namespace StreamingCompass
open Interleaving

/-- The keys a connection holds after one more exchange. -/
def heldStep (held : List (String × String)) : (op : Operation) → SqlReply op → List (String × String)
  | .commit, _ => []
  | .rollback, _ => []
  | .tryAdvisoryXactLock key1 key2, .ok true => (key1,key2) :: held
  | _, _ => held

/-- The keys a connection holds after a log, whose latest exchange comes first. -/
def heldLocks : SqlLog → List (String × String)
  | [] => []
  | x :: log => heldStep (heldLocks log) x.1 x.2

@[simp] theorem heldLocks_nil : heldLocks [] = [] := rfl
@[simp] theorem heldLocks_cons (op : Operation) (reply : SqlReply op) (log : SqlLog) :
    heldLocks (⟨op,reply⟩ :: log) = heldStep (heldLocks log) op reply := rfl

def Operation.endsTransaction : Operation → Bool
  | .commit | .rollback => true
  | _ => false

/-- Locks last until the transaction ends. -/
theorem heldLocks_cons_of_open {op : Operation} (h : op.endsTransaction = false) (reply : SqlReply op)
    (log : SqlLog) : heldLocks log ⊆ heldLocks (⟨op,reply⟩ :: log) := by
  cases op with
  | commit | rollback => cases h
  | tryAdvisoryXactLock key1 key2 =>
    rcases reply with e | _ | _
    · exact List.Subset.refl _
    · exact List.Subset.refl _
    · exact List.subset_cons_self _ _
  | _ => exact List.Subset.refl _

theorem mem_of_heldLocks {log : SqlLog} {key : String × String} (h : key ∈ heldLocks log) :
    (⟨.tryAdvisoryXactLock key.1 key.2,.ok true⟩ : Exchange Operation Operation.Answer PyException) ∈
      log := by
  induction log with
  | nil => cases h
  | cons x log ih =>
    obtain ⟨op,reply⟩ := x
    rw [heldLocks_cons] at h
    have hold (h : key ∈ heldLocks log) := List.mem_cons_of_mem
      (⟨op,reply⟩ : Exchange Operation Operation.Answer PyException) (ih h)
    cases op with
    | commit | rollback => cases h
    | tryAdvisoryXactLock key1 key2 =>
      rcases reply with e | _ | _
      · exact hold h
      · exact hold h
      · rcases List.mem_cons.mp h with rfl | h
        · exact List.mem_cons_self ..
        · exact hold h
    | _ => exact hold h

/-- A pending event is still under the locks it was inserted under. -/
theorem heldLocks_of_pending {log : SqlLog} {e : OrderEvent} {key : String × String}
    (hinsert : ∀ older, ⟨.insertOrderEvent e,.ok ()⟩ :: older <:+ log → key ∈ heldLocks older)
    (he : e ∈ (session log).events) : key ∈ heldLocks log := by
  induction log with
  | nil => simp [Session.idle] at he
  | cons x log ih =>
    obtain ⟨op,reply⟩ := x
    rw [session_cons] at he
    have hkeep (hop : op.endsTransaction = false) (he : e ∈ (session log).events) :
        key ∈ heldLocks (⟨op,reply⟩ :: log) :=
      heldLocks_cons_of_open hop reply log
        (ih (fun older ho => hinsert older (ho.trans (List.suffix_cons _ _))) he)
    cases op with
    | commit | rollback => simp [Session.step, Session.idle] at he
    | insertOrderEvent e' =>
      cases reply with
      | error err => exact hkeep rfl he
      | ok a =>
        rcases List.mem_append.mp he with hold | hnew
        · exact hkeep rfl hold
        · obtain rfl := List.mem_singleton.mp hnew
          exact hinsert log (List.suffix_refl _)
    | advanceProgress p =>
      rcases reply with err | _ | _ <;> exact hkeep rfl he
    | _ => cases reply <;> exact hkeep rfl he

variable {ι : Type} [DecidableEq ι] {D : Database ι} {i : ι} {w w' : World ι}

def Database.lock (D : Database ι) (key : String × String) : ℤ × ℤ :=
  (D.hashtext key.1,D.hashtext key.2)

/-- No lock is held by two transactions. -/
def World.LocksApart (w : World ι) : Prop :=
  ∀ i j, i ≠ j → ∀ l ∈ (w.transactions i).advisoryLocks, l ∉ (w.transactions j).advisoryLocks

/-- The locks of a log are those of the transaction. -/
def Guarded (D : Database ι) (held : List (String × String)) (x : Transaction) : Prop :=
  ∀ key ∈ held, D.lock key ∈ x.advisoryLocks

variable [Fintype ι]

/-- What a successful statement does to the locks of its transaction. -/
inductive LockEffect (D : Database ι) (w : World ι) (i : ι) (held : List (String × String)) :
    (op : Operation) → op.Answer → Transaction → Prop where
  | kept {op : Operation} {a : op.Answer} {x : Transaction} (same : heldStep held op (.ok a) = held)
    (locks : x.advisoryLocks = (w.transactions i).advisoryLocks) : LockEffect D w i held op a x
  | acquired {key1 key2 : String} {x : Transaction}
    (locks : x.advisoryLocks = D.lock (key1,key2) :: (w.transactions i).advisoryLocks)
    (free : ∀ j, j ≠ i → D.lock (key1,key2) ∉ (w.transactions j).advisoryLocks) :
    LockEffect D w i held (.tryAdvisoryXactLock key1 key2) true x

theorem effect_locks (held : List (String × String)) {op : Operation} {position : ℕ} {a : op.Answer}
    {x : Transaction} (h : effect D position i w op = some (.ok (a,x))) : LockEffect D w i held op a x := by
  cases op with
  | tryAdvisoryXactLock key1 key2 =>
    simp only [effect, tryAdvisoryXactLock] at h
    split at h
    · obtain ⟨rfl,rfl⟩ := Prod.mk.inj (Except.ok.inj (Option.some.inj h))
      exact .kept rfl rfl
    · rename_i hfree
      obtain ⟨rfl,rfl⟩ := Prod.mk.inj (Except.ok.inj (Option.some.inj h))
      refine .acquired rfl (fun j hj hmem => ?_)
      have hother := World.others_eq_false hfree j hj
      simp only [List.contains_eq_mem, decide_eq_false_iff_not] at hother
      exact hother hmem
  | insertIdempotencyRecord p =>
    have hw : Written w i position (.insertIdempotencyRecord p) a x := insertIdempotencyRecord_written h
    cases hw with
    | read readOnly _ => cases readOnly
    | record => exact .kept rfl rfl
  | insertOrderEvent e =>
    cases insertOrderEvent_written h with
    | read readOnly _ => cases readOnly
    | event => exact .kept rfl rfl
  | upsertProjectionState p =>
    have hw : Written w i position (.upsertProjectionState p) a x := upsertProjectionState_written h
    cases hw with
    | read readOnly _ => cases readOnly
    | state => exact .kept rfl rfl
  | advanceProgress p =>
    have hw : Written w i position (.advanceProgress p) a x := advanceProgress_written h
    cases hw with
    | read readOnly _ => cases readOnly
    | progressed => exact .kept rfl rfl
    | stale => exact .kept rfl rfl
  | selectIdempotencyRecord _ | selectHistory _ | selectCurrentVersion _ | selectEligible _ _ _
  | selectProjectionState _ =>
    obtain ⟨rfl,rfl⟩ := Prod.mk.inj (Except.ok.inj (Option.some.inj h))
    exact .kept rfl rfl
  | _ => cases h

omit [Fintype ι] in
theorem settle_locks (x : Transaction) :
    ((settle D w i x).transactions i).advisoryLocks ⊆ x.advisoryLocks := by
  rcases settle_eq D w i x with h | h
  · rw [h, World.put_self]
    exact List.Subset.refl _
  · rw [h, World.commit_self]
    exact List.nil_subset _

/-- A lock of a transaction after an operation is an old one, or one nobody else holds. -/
theorem Stepped.locks_subset {op : Operation} {reply : SqlReply op} (hs : Stepped D i w op reply w')
    {l : ℤ × ℤ} (hl : l ∈ (w'.transactions i).advisoryLocks) :
    l ∈ (w.transactions i).advisoryLocks ∨ ∀ j, j ≠ i → l ∉ (w.transactions j).advisoryLocks := by
  cases hs with
  | flag | status | still => exact .inl hl
  | began =>
    rw [World.put_self] at hl
    exact .inl hl
  | committed => simp [Transaction.idle] at hl
  | rolledBack => simp [Transaction.idle] at hl
  | refused _ same =>
    have hx := settle_locks _ hl
    rcases same with rfl | rfl <;> exact .inl hx
  | ran _ _ _ _ effects =>
    have hx := settle_locks _ hl
    cases effect_locks [] effects with
    | kept same locks => exact .inl (locks ▸ hx)
    | acquired locks free =>
      rw [locks, List.mem_cons] at hx
      rcases hx with rfl | hx
      · exact .inr free
      · exact .inl hx

theorem World.LocksApart.step {op : Operation} {reply : SqlReply op} (h : w.LocksApart)
    (hs : Stepped D i w op reply w') : w'.LocksApart := by
  intro j k hjk l hl hl'
  by_cases hj : j = i
  · subst hj
    rw [hs.others hjk.symm] at hl'
    rcases hs.locks_subset hl with hold | hfree
    · exact h _ _ hjk l hold hl'
    · exact hfree k hjk.symm hl'
  · rw [hs.others hj] at hl
    by_cases hk : k = i
    · subst hk
      rcases hs.locks_subset hl' with hold | hfree
      · exact h _ _ hjk l hl hold
      · exact hfree j hjk hl
    · rw [hs.others hk] at hl'
      exact h _ _ hjk l hl hl'

omit [Fintype ι] in
theorem World.LocksApart.rollback (h : w.LocksApart) (i : ι) : (w.rollback i).LocksApart := by
  have hmem (j : ι) {l : ℤ × ℤ} (hl : l ∈ ((w.rollback i).transactions j).advisoryLocks) :
      l ∈ (w.transactions j).advisoryLocks := by
    by_cases hj : j = i
    · subst hj
      simp [Transaction.idle] at hl
    · rwa [World.rollback_ne w hj] at hl
  exact fun j k hjk l hl hl' => h j k hjk l (hmem j hl) (hmem k hl')

/-- Without autocommit a transaction holds the locks its log was granted. -/
theorem Guarded.step {held : List (String × String)} {op : Operation} {reply : SqlReply op}
    (h : Guarded D held (w.transactions i)) (hmanual : D.autocommit i = false)
    (hs : Stepped D i w op reply w') : Guarded D (heldStep held op reply) (w'.transactions i) := by
  have hsettle (x : Transaction) :
      ((settle D w i x).transactions i).advisoryLocks = x.advisoryLocks := by
    rw [settle_explicit (.inl hmanual), World.put_self]
  have herror {op : Operation} {e : PyException} {x : Transaction} (hop : op.endsTransaction = false)
      (hx : x.advisoryLocks = (w.transactions i).advisoryLocks) :
      Guarded D (heldStep held op (.error e)) x := by
    have hstep : heldStep held op (.error e) = held := by cases op <;> first | rfl | cases hop
    rw [hstep]
    exact fun key hkey => hx ▸ h key hkey
  cases hs with
  | flag | status => exact h
  | began =>
    rw [World.put_self]
    exact h
  | committed | rolledBack => exact fun _ hkey => (List.not_mem_nil hkey).elim
  | @still op e mayFail => exact herror (by cases op <;> first | rfl | cases mayFail) rfl
  | @refused op e x isStatement same =>
    refine herror (by cases op <;> first | rfl | cases isStatement) ?_
    rw [hsettle]
    rcases same with rfl | rfl <;> rfl
  | ran _ _ _ _ effects =>
    intro key hkey
    rw [hsettle]
    cases effect_locks held effects with
    | kept same locks =>
      rw [same] at hkey
      exact locks ▸ h key hkey
    | acquired locks free =>
      rw [locks]
      rcases List.mem_cons.mp hkey with rfl | hold
      · exact List.mem_cons_self ..
      · exact List.mem_cons_of_mem _ (h key hold)

end StreamingCompass
