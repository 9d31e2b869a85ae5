import Mathlib.Logic.Relation
import StreamingCompass.Concurrency.Acceptance
import StreamingCompass.Interleaving.Completion

/-! # Waiting

A statement waits for the open transactions that hold its unique key or its row. Each flow
takes its locks class by class, so a transaction that is waited for waits only in a later
class, and no transaction waits for itself.
-/
namespace StreamingCompass
open Interleaving

/-- The rows of a transaction that a statement has to wait for. -/
def Operation.Blocked (x : Transaction) : Operation → Prop
  | .insertOrderEvent e => ∃ r ∈ x.orderEvents,
    r.acceptedEventId = e.eventId ∨ (r.orderId = e.orderId ∧ r.sequence = e.sequence)
  | .insertIdempotencyRecord p => ∃ r ∈ x.idempotencyRecords, r.requestId = p.requestId
  | .upsertProjectionState p => ∃ r ∈ x.projectionStates, r.orderId = p.orderId
  | .advanceProgress p => ∃ r ∈ x.progress, r.key = p.key
  | _ => False

variable {ι : Type} [DecidableEq ι] [Fintype ι] {D : Database ι} {faulty : ι → Prop} {t : Tables}
  {invocations : ι → Invocation} {c : System ι} {i j : ι} {w : World ι}

/-- The next statement of one transaction has to wait for another one. -/
def System.WaitsFor (c : System ι) (i j : ι) : Prop :=
  j ≠ i ∧ ∃ op next, c.program i = some (.call op next) ∧ op.Blocked (c.world.transactions j)

theorem World.exists_other {p : Transaction → Bool} (h : w.others i p = true) :
    ∃ j, j ≠ i ∧ p (w.transactions j) = true := of_decide_eq_true h

/-- A statement without an effect is blocked. -/
theorem effect_waits {op : Operation} {position : ℕ} (hs : op.isStatement = true)
    (h : effect D position i w op = none) : ∃ j, j ≠ i ∧ op.Blocked (w.transactions j) := by
  cases op with
  | insertOrderEvent e =>
    simp only [effect, insertOrderEvent] at h
    repeat' split at h
    all_goals try cases h
    · rename_i hother
      obtain ⟨j,hj,hp⟩ := World.exists_other hother
      obtain ⟨r,hr,hid⟩ := List.any_eq_true.mp hp
      exact ⟨j,hj,r,hr,.inl (of_decide_eq_true hid)⟩
    · rename_i hother
      obtain ⟨j,hj,hp⟩ := World.exists_other hother
      obtain ⟨r,hr,hplace⟩ := List.any_eq_true.mp hp
      exact ⟨j,hj,r,hr,.inr (of_decide_eq_true hplace)⟩
  | insertIdempotencyRecord p =>
    simp only [effect, insertIdempotencyRecord] at h
    repeat' split at h
    all_goals try cases h
    rename_i hother
    obtain ⟨j,hj,hp⟩ := World.exists_other hother
    obtain ⟨r,hr,hid⟩ := List.any_eq_true.mp hp
    exact ⟨j,hj,r,hr,of_decide_eq_true hid⟩
  | upsertProjectionState p =>
    simp only [effect, upsertProjectionState] at h
    repeat' split at h
    all_goals try cases h
    rename_i hother
    obtain ⟨j,hj,hp⟩ := World.exists_other hother
    obtain ⟨r,hr,hid⟩ := List.any_eq_true.mp hp
    exact ⟨j,hj,r,hr,of_decide_eq_true hid⟩
  | advanceProgress p =>
    simp only [effect, advanceProgress] at h
    repeat' split at h
    all_goals try cases h
    rename_i hother
    obtain ⟨j,hj,hp⟩ := World.exists_other hother
    obtain ⟨r,hr,hkey⟩ := List.any_eq_true.mp hp
    exact ⟨j,hj,r,hr,of_decide_eq_true hkey⟩
  | tryAdvisoryXactLock key1 key2 =>
    simp only [effect, tryAdvisoryXactLock] at h
    split at h <;> cases h
  | autocommit | transactionStatus | begin | commit | rollback => cases hs
  | _ => cases h

/-- The server lets a statement wait only for transactions that block it. -/
theorem exec_waits {op : Operation} {position : ℕ} (h : exec D position i w op = none) :
    ∃ j, j ≠ i ∧ op.Blocked (w.transactions j) := by
  have hs : op.isStatement = true := by
    cases op <;> first | rfl | cases h
  rw [exec_statement hs] at h
  simp only [statement] at h
  split at h
  · cases h
  · split at h
    · cases h
    · split at h
      · rename_i heffect
        exact effect_waits hs heffect
      · cases h
      · cases h

/-- The class of locks a statement asks for: the first of its flow, the second, or none. -/
def Operation.lockClass : Operation → ℕ
  | .insertOrderEvent _ | .upsertProjectionState _ => 0
  | .insertIdempotencyRecord _ | .advanceProgress _ => 1
  | _ => 2

def System.lockClass (c : System ι) (i : ι) : ℕ :=
  match c.program i with
  | some (.call op _) => op.lockClass
  | _ => 2

/-- A transaction about to ask for the first class holds nothing. -/
theorem Mirrors.noRows {s : Session} {x : Transaction} (h : Mirrors s x) (hn : s.NoRows) :
    x.orderEvents = [] ∧ x.idempotencyRecords = [] ∧ x.projectionStates = [] ∧ x.progress = [] := by
  have hevents := h.events
  have hrecords := h.records
  have hstates := h.states
  rw [hn.events] at hevents
  rw [hn.records] at hrecords
  rw [hn.states] at hstates
  exact ⟨List.forall₂_nil_left_iff.mp hevents,List.forall₂_nil_left_iff.mp hrecords,
    List.forall₂_nil_left_iff.mp hstates,h.progress.trans hn.progress⟩

namespace Reachable

/-- What a transaction holds before a statement of each class. -/
structure Holds (x : Transaction) (lockClass : ℕ) : Prop where
  first : lockClass = 0 → x.orderEvents = [] ∧ x.projectionStates = []
  second : lockClass ≤ 1 → x.idempotencyRecords = [] ∧ x.progress = []

theorem holds (h : Reachable D faulty t invocations c) {op : Operation}
    {next : SqlReply op → SqlProgram InvocationResult} (hp : c.program i = some (.call op next)) :
    Holds (c.world.transactions i) op.lockClass := by
  have hm := h.mirrors hp
  have hg := h.guard hp
  have hfree (hn : (session (c.log i)).NoRows) : Holds (c.world.transactions i) op.lockClass := by
    obtain ⟨hevents,hrecords,hstates,hprogress⟩ := hm.noRows hn
    exact ⟨fun _ => ⟨hevents,hstates⟩,fun _ => ⟨hrecords,hprogress⟩⟩
  have hrecords := hm.records
  have hprogress := hm.progress
  cases hv : invocations i with
  | write v =>
    rw [hv] at hg
    cases op with
    | insertOrderEvent e => exact hfree hg.1.noRows
    | insertIdempotencyRecord p =>
      obtain ⟨e,hpending,-⟩ := hg
      rw [hpending.records] at hrecords
      rw [hpending.progress] at hprogress
      exact ⟨(nomatch ·),fun _ => ⟨List.forall₂_nil_left_iff.mp hrecords,hprogress⟩⟩
    | upsertProjectionState p => exact hg.elim
    | advanceProgress p => exact hg.elim
    | _ => exact ⟨(nomatch ·),fun hc => absurd hc (by simp [Operation.lockClass])⟩
  | project workerName =>
    rw [hv] at hg
    cases op with
    | insertOrderEvent e => exact hg.elim
    | insertIdempotencyRecord p => exact hg.elim
    | upsertProjectionState p => exact hfree hg.1.noRows
    | advanceProgress p =>
      obtain ⟨row,next,hprojecting,-⟩ := hg
      rw [hprojecting.records] at hrecords
      rw [hprojecting.progress] at hprogress
      exact ⟨(nomatch ·),fun _ => ⟨List.forall₂_nil_left_iff.mp hrecords,hprogress⟩⟩
    | _ => exact ⟨(nomatch ·),fun hc => absurd hc (by simp [Operation.lockClass])⟩

/-- Who is waited for asks for a later class. -/
theorem lockClass_lt (h : Reachable D faulty t invocations c) (hw : c.WaitsFor i j) :
    c.lockClass i < c.lockClass j := by
  obtain ⟨-,op,next,hi,hblocked⟩ := hw
  have hclass : c.lockClass i = op.lockClass := by simp only [System.lockClass, hi]
  rw [hclass]
  have hlt : op.lockClass < 2 := by
    cases op <;> first | exact hblocked.elim | simp [Operation.lockClass]
  cases hj : c.program j with
  | none => simpa only [System.lockClass, hj] using hlt
  | some p =>
    cases p with
    | done r => simpa only [System.lockClass, hj] using hlt
    | call op' next' =>
      have hclass' : c.lockClass j = op'.lockClass := by simp only [System.lockClass, hj]
      rw [hclass']
      have hholds := h.holds hj
      by_contra hle
      cases op with
      | insertOrderEvent e =>
        obtain ⟨r,hr,-⟩ := hblocked
        rw [(hholds.first (Nat.le_zero.mp (not_lt.mp hle))).1] at hr
        cases hr
      | upsertProjectionState p =>
        obtain ⟨r,hr,-⟩ := hblocked
        rw [(hholds.first (Nat.le_zero.mp (not_lt.mp hle))).2] at hr
        cases hr
      | insertIdempotencyRecord p =>
        obtain ⟨r,hr,-⟩ := hblocked
        rw [(hholds.second (not_lt.mp hle)).1] at hr
        cases hr
      | advanceProgress p =>
        obtain ⟨r,hr,-⟩ := hblocked
        rw [(hholds.second (not_lt.mp hle)).2] at hr
        cases hr
      | _ => exact hblocked.elim

/-- No transaction waits, through others, for itself. -/
theorem deadlock_free (h : Reachable D faulty t invocations c) (i : ι) :
    ¬Relation.TransGen c.WaitsFor i i := by
  intro hcycle
  have hlt := hcycle.lift (p := fun a b => a < b) c.lockClass (fun a b hw => h.lockClass_lt hw)
  rw [Relation.transGen_eq_self] at hlt
  exact lt_irrefl _ hlt

/-- A write invocation that has ended left nothing open. -/
theorem idle_of_ended (h : Reachable D faulty t invocations c) {v : WriteInvocation}
    (hv : invocations i = .write v)
    (he : ∀ op next, c.program i ≠ some (.call op next)) : c.world.transactions i = .idle := by
  cases hp : c.program i with
  | none =>
    have hm := h.mirrored i
    rwa [hp] at hm
  | some p =>
    cases p with
    | call op next => exact absurd hp (he op next)
    | done r =>
      have hends := h.meets i _ hp
      rw [hv] at hends
      refine (h.mirrors hp).closed ?_
      cases r with
      | projected _ => exact hends.elim
      | delivered r =>
        cases r with
        | error e => exact hends.1.closed
        | ok d =>
          change Concluded v.writeSide v.signature (c.log i) (.ok d.producerValue.result) at hends
          by_cases ho : d.producerValue.result.outcome = .accepted
          · simp only [Concluded, ho] at hends
            obtain ⟨e,p,rest,hlog,-⟩ := hends
            rw [hlog]
            rfl
          · exact (hends.ended ho).closed

/-- Among running write invocations one can always go on: whoever is waited for stands in a
later class. -/
theorem goes_on (h : Reachable D faulty t invocations c) (hw : ∀ i, ∃ v, invocations i = .write v)
    {op : Operation} {next : SqlReply op → SqlProgram InvocationResult}
    (hp : c.program i = some (.call op next)) :
    ∃ j op next reply w, c.program j = some (.call op next) ∧
      (D.machine faulty).step j c.world op reply w := by
  generalize hn : 2-c.lockClass i = n
  induction n using Nat.strong_induction_on generalizing i op next with
  | _ n ih =>
    cases hserve : D.serve i op c.world with
    | some out => exact ⟨i,op,next,out.1,out.2,hp,D.serve_step i op _ _ _ hserve⟩
    | none =>
      obtain ⟨j,hj,hblocked⟩ := exec_waits hserve
      have hlt := h.lockClass_lt ⟨hj,op,next,hp,hblocked⟩
      by_cases hrunning : ∃ op next, c.program j = some (.call op next)
      · obtain ⟨op',next',hp'⟩ := hrunning
        have hbound : c.lockClass j ≤ 2 := by
          simp only [System.lockClass, hp']
          cases op' <;> simp [Operation.lockClass]
        exact ih (2-c.lockClass j) (by omega) hp' rfl
      · obtain ⟨v,hv⟩ := hw j
        rw [h.idle_of_ended hv (fun op next hp' => hrunning ⟨op,next,hp'⟩)] at hblocked
        cases op <;> simp [Operation.Blocked, Transaction.idle] at hblocked

/-- A run of write invocations can be continued until all have ended. -/
theorem completes (h : Reachable D faulty t invocations c) (hw : ∀ i, ∃ v, invocations i = .write v) :
    ∃ c' : System ι, Reaches (D.machine faulty) c c' ∧
      ∀ i, (c'.program i).isSome = true → ∃ r, c'.delivered i = some r := by
  obtain ⟨c',hr,hdone⟩ := Reaches.completes (fun c hr i op next hp =>
    goes_on (c := c) (h.trans hr) hw hp) (Relation.ReflTransGen.refl (a := c))
  refine ⟨c',hr,fun i hi => ?_⟩
  obtain ⟨p,hp⟩ := Option.isSome_iff_exists.mp hi
  obtain ⟨r,rfl⟩ := hdone i p hp
  obtain ⟨v,hv⟩ := hw i
  have hends := Reachable.meets (h.trans hr) i _ hp
  rw [hv] at hends
  cases r with
  | delivered r => exact ⟨r,System.delivered_eq_some.mpr hp⟩
  | projected _ => exact hends.elim

end Reachable

/-- Both racers stand before the event of the one slot; the second has inserted it. -/
def RacingCreations.waiting : System (Fin 2) :=
  ((System.start .empty racers).drive server.serve
    [0,0,0,0,0,0,1,1,1,1,1,1,1]).get (by decide +kernel)

theorem RacingCreations.waiting_reachable :
    Reachable server (fun _ => False) .empty racers waiting :=
  Reachable.of_drive (Option.some_get _).symm

theorem Reachable.deadlock_free_waiting :
    (RacingCreations.waiting.drive RacingCreations.server.serve [0]).isNone = true ∧
      ¬Relation.TransGen RacingCreations.waiting.WaitsFor 0 0 :=
  ⟨by decide +kernel,
    Reachable.deadlock_free RacingCreations.waiting_reachable 0⟩

end StreamingCompass
