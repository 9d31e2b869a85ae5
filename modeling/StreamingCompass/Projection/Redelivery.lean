import Mathlib.Logic.Relation
import StreamingCompass.Projection.InMemoryWorker

/-! # Redelivery to the in-memory worker

Records are delivered at least once: a run may resume at any earlier point, and stop between
any two calls of a delivery. The checkpoint then trails the states, by one record at most.
-/
namespace StreamingCompass
open Interleaving ProjectionWorker

/-! ## Accepted streams -/

def eventsOf (stream : List ProjectionRecord) (orderId : String) : List OrderEvent :=
  (stream.map (fun r => r.event)).filter (fun e => e.orderId = orderId)

/-- The plain fold of the reducer over a stream: nothing for an order without events. -/
def foldOf (stream : List ProjectionRecord) (orderId : String) : Option OrderState :=
  match eventsOf stream orderId with
  | [] => none
  | events => (reduceHistory orderId events).toOption

/-- Accepted records at increasing offsets, gap-free and legal for the reducer in each order. -/
structure AcceptedStream (stream : List ProjectionRecord) : Prop where
  increasing : stream.Pairwise (fun r r' => r.offset < r'.offset)
  legal : ∀ orderId, ∃ s, reduceHistory orderId (eventsOf stream orderId) = .ok s

/-- The checkpoint after the first `n` records. -/
def offsetAt (stream : List ProjectionRecord) : ℕ → ℤ
  | 0 => -1
  | n+1 => (stream[n]?.map (fun r => r.offset)).getD (-1)

section Stream
variable {stream : List ProjectionRecord} {r : ProjectionRecord} {m n i : ℕ} {orderId : String}

theorem reduceHistory_prefix {h t : List OrderEvent} {s : OrderState}
    (hs : reduceHistory orderId (h ++ t) = .ok s) : ∃ s', reduceHistory orderId h = .ok s' := by
  rw [reduceHistory, List.foldlM_append] at hs
  obtain ⟨s',hs',-⟩ := bind_eq_ok.mp hs
  exact ⟨s',hs'⟩

theorem eventsOf_append (before after : List ProjectionRecord) (orderId : String) :
    eventsOf (before ++ after) orderId = eventsOf before orderId ++ eventsOf after orderId := by
  simp [eventsOf]

theorem eventsOf_take_succ (hr : stream[m]? = some r) (orderId : String) :
    eventsOf (stream.take (m+1)) orderId = eventsOf (stream.take m) orderId ++
      if r.event.orderId = orderId then [r.event] else [] := by
  rw [List.take_add_one, eventsOf_append, hr]
  congr 1
  by_cases h : r.event.orderId = orderId
  · simp [eventsOf, h]
  · simp [eventsOf, h]

/-- The reducer takes the next event on the fold of the events before it. -/
theorem AcceptedStream.reduces (hs : AcceptedStream stream) (hr : stream[m]? = some r) :
    ∃ s s', reduceHistory r.event.orderId (eventsOf (stream.take m) r.event.orderId) = .ok s ∧
      reduceOrderEvent s r.event = .ok s' := by
  obtain ⟨last,hlast⟩ := hs.legal r.event.orderId
  rw [← List.take_append_drop (m+1) stream, eventsOf_append] at hlast
  obtain ⟨s',hs'⟩ := reduceHistory_prefix hlast
  rw [eventsOf_take_succ hr, if_pos rfl, reduceHistory_append] at hs'
  obtain ⟨s,hs,hreduce⟩ := bind_eq_ok.mp hs'
  exact ⟨s,s',hs,hreduce⟩

theorem foldOf_of_reduce {s : OrderState} (hs : reduceHistory orderId (eventsOf stream orderId) = .ok s) :
    (foldOf stream orderId).getD (buildEmptyProjectionState orderId) = s := by
  unfold foldOf
  cases he : eventsOf stream orderId with
  | nil =>
    rw [he] at hs
    exact Except.ok.inj hs
  | cons e t =>
    rw [he] at hs
    simp only [hs, Except.toOption, Option.getD_some]

/-- Saving the reduced state is folding one more record. -/
theorem AcceptedStream.foldOf_succ (hr : stream[m]? = some r) {s s' : OrderState}
    (hs : reduceHistory r.event.orderId (eventsOf (stream.take m) r.event.orderId) = .ok s)
    (hreduce : reduceOrderEvent s r.event = .ok s') :
    foldOf (stream.take (m+1)) = Function.update (foldOf (stream.take m)) s'.orderId (some s') := by
  have hreduced := reduceOrderEvent_reduced hreduce
  have horder : s'.orderId = r.event.orderId := hreduced.orderId.trans hreduced.order.symm
  funext orderId
  by_cases h : orderId = s'.orderId
  · subst h
    rw [Function.update_self, foldOf, horder, eventsOf_take_succ hr, if_pos rfl]
    have hnext : reduceHistory r.event.orderId
        (eventsOf (stream.take m) r.event.orderId ++ [r.event]) = .ok s' := by
      rw [reduceHistory_append, hs]
      exact hreduce
    cases he : eventsOf (stream.take m) r.event.orderId ++ [r.event] with
    | nil => simp at he
    | cons e t =>
      rw [he] at hnext
      simp only [hnext, Except.toOption]
  · have hother : r.event.orderId ≠ orderId := fun heq => h (heq.symm.trans horder.symm)
    rw [Function.update_of_ne h, foldOf, foldOf, eventsOf_take_succ hr, if_neg hother, List.append_nil]

theorem length_eventsOf_take_mono (hnm : n ≤ m) (orderId : String) :
    (eventsOf (stream.take n) orderId).length ≤ (eventsOf (stream.take m) orderId).length := by
  have hsplit := List.take_append_drop n (stream.take m)
  rw [List.take_take, min_eq_left hnm] at hsplit
  rw [← hsplit, eventsOf_append, List.length_append]
  omega

/-- An event among the folded ones is not newer than the state. -/
theorem AcceptedStream.late (hs : AcceptedStream stream) (hr : stream[n]? = some r) (hnm : n < m)
    {s : OrderState}
    (hstate : reduceHistory r.event.orderId (eventsOf (stream.take m) r.event.orderId) = .ok s) :
    r.event.sequence ≤ s.version := by
  obtain ⟨before,after,hbefore,hreduce⟩ := hs.reduces hr
  have hsequence := (reduceOrderEvent_reduced hreduce).sequence
  have hbefore := (reduceHistory_version hbefore).2
  have hversion := (reduceHistory_version hstate).2
  have hlength : (eventsOf (stream.take (n+1)) r.event.orderId).length ≤
      (eventsOf (stream.take m) r.event.orderId).length := length_eventsOf_take_mono hnm _
  rw [eventsOf_take_succ hr, if_pos rfl, List.length_append, List.length_singleton] at hlength
  omega

theorem offsetAt_succ (hr : stream[n]? = some r) : offsetAt stream (n+1) = r.offset := by
  rw [offsetAt, hr]
  rfl

theorem AcceptedStream.offset_le (hs : AcceptedStream stream) (hr : stream[i]? = some r) (hin : i < n)
    (hn : n ≤ stream.length) : r.offset ≤ offsetAt stream n := by
  obtain ⟨k,rfl⟩ : ∃ k, n = k+1 := ⟨n-1,by omega⟩
  have hk : k < stream.length := hn
  have hi : i < stream.length := by omega
  obtain rfl : stream[i] = r := by simpa [hi] using hr
  rw [offsetAt, List.getElem?_eq_getElem hk]
  rcases Nat.lt_succ_iff_lt_or_eq.mp hin with hlt | rfl
  · exact (List.pairwise_iff_getElem.mp hs.increasing i k hi hk hlt).le
  · exact le_rfl

theorem AcceptedStream.offsetAt_lt (hs : AcceptedStream stream)
    (hpositions : ∀ r ∈ stream, 0 ≤ r.offset) (hr : stream[n]? = some r) :
    offsetAt stream n < r.offset := by
  have hn : n < stream.length := (List.getElem?_eq_some_iff.mp hr).1
  obtain rfl : stream[n] = r := by simpa [hn] using hr
  cases n with
  | zero =>
    have hnonneg := hpositions _ (List.getElem_mem hn)
    rw [offsetAt]
    omega
  | succ k =>
    have hk : k < stream.length := by omega
    rw [offsetAt, List.getElem?_eq_getElem hk]
    exact List.pairwise_iff_getElem.mp hs.increasing k (k+1) hk hn (Nat.lt_succ_self k)

end Stream

/-! ## Runs -/

/-- One delivery: of a record not past the first that is still undelivered, which returns, raises
or is stopped between two calls. The second component is one past the furthest delivered. -/
inductive RecordDelivered (workerName : String) (stream : List ProjectionRecord) :
    ProjectionStores × ℕ → ProjectionStores × ℕ → Prop where
  | returned {w w' : ProjectionStores} {next i : ℕ} {r : ProjectionRecord}
    {result : ProjectionProcessResult} (earlier : i ≤ next) (record : stream[i]? = some r)
    (run : (processRecord workerName r).run serveStores () w = some ((.ok result,()),w')) :
    RecordDelivered workerName stream (w,next) (w',max next (i+1))
  | raised {w w' : ProjectionStores} {next i : ℕ} {r : ProjectionRecord} {e : PyException}
    (earlier : i ≤ next) (record : stream[i]? = some r)
    (run : (processRecord workerName r).run serveStores () w = some ((.error e,()),w')) :
    RecordDelivered workerName stream (w,next) (w',next)
  | stopped {w w' : ProjectionStores} {next i : ℕ} {r : ProjectionRecord} (earlier : i ≤ next)
    (record : stream[i]? = some r)
    (visits : Routine.Visits serveStores (processRecord workerName r) () w w') :
    RecordDelivered workerName stream (w,next) (w',next)

/-- The first `checkpointed` records are behind the checkpoint, and the first `folded` in the
states: at most one record is folded whose checkpoint a crash lost. -/
structure Progress (workerName : String) (stream : List ProjectionRecord) (w : ProjectionStores)
    (next checkpointed folded : ℕ) : Prop where
  delivered : next ≤ checkpointed
  trailing : checkpointed ≤ folded
  within : folded ≤ stream.length
  states : w.states = foldOf (stream.take folded)
  checkpoint : w.loadOffset workerName = offsetAt stream checkpointed

namespace Progress
variable {workerName : String} {stream : List ProjectionRecord} {w w' : ProjectionStores}
  {next n m i : ℕ} {r : ProjectionRecord}

/-- The state a delivery loads is the fold of the folded events of its order. -/
theorem current (h : Progress workerName stream w next n m) {orderId : String} {s : OrderState}
    (hs : reduceHistory orderId (eventsOf (stream.take m) orderId) = .ok s) :
    w.current orderId = s := by
  rw [ProjectionStores.current, h.states]
  exact foldOf_of_reduce hs

/-- A delivery is of a record behind the checkpoint, or of the record after it. -/
theorem cases (h : Progress workerName stream w next n m) (hs : AcceptedStream stream)
    (hpositions : ∀ r ∈ stream, 0 ≤ r.offset) (hi : i ≤ next) (hr : stream[i]? = some r) :
    i < n ∧ r.offset ≤ w.loadOffset workerName ∨
      i = n ∧ w.loadOffset workerName < r.offset ∧
        (n < m ∧ r.event.sequence ≤ (w.current r.event.orderId).version ∨
          n = m ∧ ∃ s', reduceOrderEvent (w.current r.event.orderId) r.event = .ok s' ∧
            foldOf (stream.take (m+1)) = Function.update w.states s'.orderId (some s')) := by
  have hdelivered := h.delivered
  have htrailing := h.trailing
  rcases Nat.lt_or_ge i n with hlt | hge
  · left
    refine ⟨hlt,?_⟩
    rw [h.checkpoint]
    exact hs.offset_le hr hlt (htrailing.trans h.within)
  · right
    obtain rfl : i = n := by omega
    refine ⟨rfl,?_,?_⟩
    · rw [h.checkpoint]
      exact hs.offsetAt_lt hpositions hr
    · rcases Nat.lt_or_ge i m with hlt | hge
      · left
        obtain ⟨last,hlast⟩ := hs.legal r.event.orderId
        rw [← List.take_append_drop m stream, eventsOf_append] at hlast
        obtain ⟨s,hstate⟩ := reduceHistory_prefix hlast
        rw [h.current hstate]
        exact ⟨hlt,hs.late hr hlt hstate⟩
      · right
        obtain rfl : i = m := by omega
        obtain ⟨s,s',hstate,hreduce⟩ := hs.reduces hr
        refine ⟨rfl,s',?_,?_⟩
        · rw [h.current hstate]
          exact hreduce
        · rw [h.states]
          exact AcceptedStream.foldOf_succ hr hstate hreduce

/-- A delivery returns, and keeps the progress. -/
theorem run (h : Progress workerName stream w next n m) (hs : AcceptedStream stream)
    (hpositions : ∀ r ∈ stream, 0 ≤ r.offset) (hi : i ≤ next) (hr : stream[i]? = some r)
    {outcome : Except PyException ProjectionProcessResult}
    (hrun : (processRecord workerName r).run serveStores () w = some ((outcome,()),w')) :
    (∃ result, outcome = .ok result) ∧
      ∃ n' m', Progress workerName stream w' (max next (i+1)) n' m' := by
  have hdelivered := h.delivered
  have htrailing := h.trailing
  have hwithin := h.within
  have hlength := (List.getElem?_eq_some_iff.mp hr).1
  obtain ⟨outcome',w₁,hends,hprocessed⟩ := run_processRecord workerName r w
  obtain ⟨hsame,rfl⟩ := Prod.mk.inj (Option.some.inj (hends.symm.trans hrun))
  obtain rfl := (Prod.mk.inj hsame).1
  rcases h.cases hs hpositions hi hr with ⟨hlt,hold⟩ | ⟨rfl,hnew,hrest⟩
  · cases hprocessed with
    | consumed => exact ⟨⟨_,rfl⟩,n,m,by omega,htrailing,hwithin,h.states,h.checkpoint⟩
    | projected new => exact absurd hold (not_le.mpr new)
    | refused new => exact absurd hold (not_le.mpr new)
    | applied new => exact absurd hold (not_le.mpr new)
  · rcases hrest with ⟨hlt,hlate⟩ | ⟨rfl,s',hreduce,hfold⟩
    · cases hprocessed with
      | consumed old => exact absurd old (not_le.mpr hnew)
      | projected =>
        refine ⟨⟨_,rfl⟩,i+1,m,by omega,hlt,hwithin,h.states,?_⟩
        rw [offsetAt_succ hr, ProjectionStores.loadOffset_saveOffset]
      | refused new early => exact absurd hlate (not_le.mpr early)
      | applied new reduced =>
        have hsequence := (reduceOrderEvent_reduced reduced).sequence
        omega
    · have hsequence := (reduceOrderEvent_reduced hreduce).sequence
      cases hprocessed with
      | consumed old => exact absurd old (not_le.mpr hnew)
      | projected new late => omega
      | refused new early none => exact absurd hreduce (none s')
      | applied new reduced =>
        obtain rfl := Except.ok.inj (hreduce.symm.trans reduced)
        refine ⟨⟨_,rfl⟩,i+1,i+1,by omega,le_rfl,hlength,?_,?_⟩
        · rw [hfold]
          rfl
        · rw [offsetAt_succ hr, ProjectionStores.loadOffset_saveOffset]

/-- A delivery that is stopped keeps the progress of the run before it. -/
theorem stopped (h : Progress workerName stream w next n m) (hs : AcceptedStream stream)
    (hpositions : ∀ r ∈ stream, 0 ≤ r.offset) (hi : i ≤ next) (hr : stream[i]? = some r)
    (hvisits : Routine.Visits serveStores (processRecord workerName r) () w w') :
    ∃ n' m', Progress workerName stream w' next n' m' := by
  have hlength := (List.getElem?_eq_some_iff.mp hr).1
  rcases visits_processRecord hvisits with rfl | ⟨s,hnew,hreduce,rfl⟩ | ⟨outcome,hrun⟩
  · exact ⟨n,m,h⟩
  · have hsequence := (reduceOrderEvent_reduced hreduce).sequence
    rcases h.cases hs hpositions hi hr with ⟨-,hold⟩ | ⟨rfl,-,⟨hlt,hlate⟩ | ⟨rfl,s',hreduce',hfold⟩⟩
    · exact absurd hold (not_le.mpr hnew)
    · omega
    · obtain rfl := Except.ok.inj (hreduce.symm.trans hreduce')
      exact ⟨i,i+1,h.delivered,by omega,hlength,hfold.symm,h.checkpoint⟩
  · obtain ⟨-,n',m',hprogress⟩ := h.run hs hpositions hi hr hrun
    exact ⟨n',m',{hprogress with delivered := (le_max_left ..).trans hprogress.delivered}⟩

end Progress

section Runs
variable {workerName : String} {stream : List ProjectionRecord} {w w' : ProjectionStores}
  {next : ℕ}

def Redelivered (workerName : String) (stream : List ProjectionRecord) :
    ProjectionStores × ℕ → Prop :=
  Relation.ReflTransGen (RecordDelivered workerName stream) (.empty,0)

theorem Redelivered.progress {x : ProjectionStores × ℕ} (h : Redelivered workerName stream x)
    (hs : AcceptedStream stream) (hpositions : ∀ r ∈ stream, 0 ≤ r.offset) :
    ∃ n m, Progress workerName stream x.1 x.2 n m := by
  induction h with
  | refl =>
    refine ⟨0,0,le_rfl,le_rfl,Nat.zero_le _,?_,rfl⟩
    funext orderId
    simp [foldOf, eventsOf, ProjectionStores.empty]
  | tail hrun hstep ih =>
    obtain ⟨n,m,hprogress⟩ := ih
    cases hstep with
    | returned earlier record run => exact (hprogress.run hs hpositions earlier record run).2
    | raised earlier record run =>
      obtain ⟨⟨result,hresult⟩,-⟩ := hprogress.run hs hpositions earlier record run
      cases hresult
    | stopped earlier record visits => exact hprogress.stopped hs hpositions earlier record visits

/-- No delivery takes the checkpoint back. -/
theorem processRecord_checkpoint {r : ProjectionRecord}
    (h : Routine.Visits serveStores (processRecord workerName r) () w w') :
    w.loadOffset workerName ≤ w'.loadOffset workerName := by
  rcases visits_processRecord h with rfl | ⟨s,-,-,rfl⟩ | ⟨outcome,hrun⟩
  · exact le_rfl
  · exact le_rfl
  · obtain ⟨outcome',w₁,hends,hprocessed⟩ := run_processRecord workerName r w
    obtain ⟨-,rfl⟩ := Prod.mk.inj (Option.some.inj (hends.symm.trans hrun))
    cases hprocessed with
    | consumed => exact le_rfl
    | projected new =>
      rw [ProjectionStores.loadOffset_saveOffset]
      exact new.le
    | refused => exact le_rfl
    | applied new =>
      rw [ProjectionStores.loadOffset_saveOffset]
      exact new.le

theorem RecordDelivered.checkpoint {x y : ProjectionStores × ℕ} (h : RecordDelivered workerName stream x y) :
    x.1.loadOffset workerName ≤ y.1.loadOffset workerName := by
  cases h with
  | returned earlier record run => exact processRecord_checkpoint (Program.visits_of_run run)
  | raised earlier record run => exact processRecord_checkpoint (Program.visits_of_run run)
  | stopped earlier record visits => exact processRecord_checkpoint visits

/-- A replay from an earlier point, stopped anywhere, is a sequence of deliveries. -/
theorem replay_delivers {records : List ProjectionRecord} {k : ℕ} (hrecords : stream.drop k = records)
    (hk : k ≤ next) (h : Routine.Visits serveStores (replay workerName records) () w w') :
    ∃ next', Relation.ReflTransGen (RecordDelivered workerName stream) (w,next) (w',next') := by
  induction records generalizing k next w with
  | nil =>
    obtain rfl := Routine.visits_pure _ |>.mp h
    exact ⟨next,.refl⟩
  | cons r records ih =>
    have hr : stream[k]? = some r := by
      rw [← List.head?_drop, hrecords]
      rfl
    have htail : stream.drop (k+1) = records := by
      rw [← List.tail_drop, hrecords]
      rfl
    rw [replay, Routine.visits_bind] at h
    rcases h with h | ⟨result,⟨⟩,w₁,hrun,h⟩
    · exact ⟨next,.single (.stopped hk hr h)⟩
    · have hstep : RecordDelivered workerName stream (w,next) (w₁,max next (k+1)) := .returned hk hr hrun
      rw [Routine.visits_bind] at h
      have hrest : Routine.Visits serveStores (replay workerName records) () w₁ w' := by
        rcases h with h | ⟨results,⟨⟩,w₂,hrun,rfl⟩
        · exact h
        · exact Program.visits_of_run hrun
      obtain ⟨next',hreached⟩ := ih htail (le_max_right ..) hrest
      exact ⟨next',hreached.head hstep⟩

end Runs

/-- At-least-once delivery of a stream at non-negative offsets: every delivery returns, the
states end as the fold and the checkpoint at the last offset, the checkpoint never goes back,
and a delivery that raises changes neither store. -/
theorem at_least_once {workerName : String} {stream : List ProjectionRecord}
    (hs : AcceptedStream stream) (hpositions : ∀ r ∈ stream, 0 ≤ r.offset) :
    (∀ w, Redelivered workerName stream (w,stream.length) →
      w.states = foldOf stream ∧
        ∀ last, stream.getLast? = some last → w.loadOffset workerName = last.offset) ∧
    (∀ w next i r, Redelivered workerName stream (w,next) → i ≤ next → stream[i]? = some r →
      ∃ result w', (processRecord workerName r).run serveStores () w = some ((.ok result,()),w')) ∧
    (∀ x y, Relation.ReflTransGen (RecordDelivered workerName stream) x y →
      x.1.loadOffset workerName ≤ y.1.loadOffset workerName) ∧
    ∀ r w w' e, (processRecord workerName r).run serveStores () w = some ((.error e,()),w') →
      w' = w := by
  refine ⟨fun w h => ?_,fun w next i r h hi hr => ?_,fun x y hrun => ?_,fun r w w' e hrun => ?_⟩
  · obtain ⟨n,m,hprogress⟩ := h.progress hs hpositions
    have hdelivered := hprogress.delivered
    have htrailing := hprogress.trailing
    have hwithin := hprogress.within
    obtain rfl : m = stream.length := le_antisymm hwithin (hdelivered.trans htrailing)
    obtain rfl : n = stream.length := le_antisymm htrailing hdelivered
    refine ⟨by simpa using hprogress.states,fun last hlast => ?_⟩
    rw [List.getLast?_eq_getElem?] at hlast
    have hpos : 0 < stream.length := by
      have := (List.getElem?_eq_some_iff.mp hlast).1
      omega
    rw [hprogress.checkpoint, ← offsetAt_succ hlast, Nat.sub_add_cancel hpos]
  · obtain ⟨n,m,hprogress⟩ := h.progress hs hpositions
    obtain ⟨outcome,w',hrun,-⟩ := run_processRecord workerName r w
    obtain ⟨⟨result,rfl⟩,-⟩ := hprogress.run hs hpositions hi hr hrun
    exact ⟨result,w',hrun⟩
  · induction hrun with
    | refl => exact le_rfl
    | tail _ hstep ih => exact ih.trans hstep.checkpoint
  · obtain ⟨outcome,w₁,hends,hprocessed⟩ := run_processRecord workerName r w
    obtain ⟨hsame,rfl⟩ := Prod.mk.inj (Option.some.inj (hends.symm.trans hrun))
    obtain rfl := (Prod.mk.inj hsame).1
    cases hprocessed with
    | refused => rfl

theorem AcceptedStream.of_order {stream : List ProjectionRecord} {orderId : String}
    (horder : ∀ r ∈ stream, r.event.orderId = orderId)
    (hincreasing : stream.Pairwise (fun r r' => r.offset < r'.offset)) {s : OrderState}
    (hs : reduceHistory orderId (stream.map (fun r => r.event)) = .ok s) : AcceptedStream stream := by
  refine ⟨hincreasing,fun orderId' => ?_⟩
  by_cases h : orderId' = orderId
  · subst h
    have hall : eventsOf stream orderId' = stream.map (fun r => r.event) := by
      simpa [eventsOf] using horder
    exact ⟨s,hall ▸ hs⟩
  · have hnone : eventsOf stream orderId' = [] := by
      simp only [eventsOf, List.filter_eq_nil_iff, List.mem_map, decide_eq_true_eq]
      rintro e ⟨r,hr,rfl⟩ heq
      exact h (heq.symm.trans (horder r hr))
    exact ⟨buildEmptyProjectionState orderId',by rw [hnone]; rfl⟩

/-- The creation of an order, and its payment, from an offset on. -/
def creationRecord (offset : ℤ) : ProjectionRecord :=
  ⟨offset,⟨"e-1","r-1","o-1",1,.created,.ofCents false 1000,0,⟨.init,0,none⟩⟩⟩
def paymentRecord (offset : ℤ) : ProjectionRecord :=
  ⟨offset,⟨"e-2","r-2","o-1",2,.paid,.ofCents false 1000,0,⟨.created,1,some "e-1"⟩⟩⟩

def createdStores : ProjectionStores :=
  (ProjectionStores.empty.saveState ⟨"o-1",.created,.ofCents false 1000,.zero,1⟩).saveOffset "worker" 0
/-- The payment folded, and its checkpoint lost. -/
def stoppedStores : ProjectionStores :=
  createdStores.saveState ⟨"o-1",.paid,.ofCents false 1000,.ofCents false 1000,2⟩

/-- The creation delivered twice, then a crash between `save_state` and `save_offset` of the
payment, then the payment again. -/
theorem at_least_once_paid :
    Redelivered "worker" [creationRecord 0,paymentRecord 1] (stoppedStores,1) ∧
      stoppedStores.loadOffset "worker" = 0 ∧
      ∃ w, Redelivered "worker" [creationRecord 0,paymentRecord 1] (w,2) ∧
        w.states = foldOf [creationRecord 0,paymentRecord 1] ∧ w.loadOffset "worker" = 1 := by
  have hlegal : reduceHistory "o-1" ([creationRecord 0,paymentRecord 1].map (fun r => r.event)) =
      .ok ⟨"o-1",.paid,.ofCents false 1000,.ofCents false 1000,2⟩ := by decide +kernel
  have hs : AcceptedStream [creationRecord 0,paymentRecord 1] :=
    .of_order (by simp [creationRecord, paymentRecord]) (by simp [creationRecord, paymentRecord]) hlegal
  obtain ⟨hends,hreturns,-,-⟩ := @at_least_once "worker" _ hs
    (by simp [creationRecord, paymentRecord])
  have hcreated : ∃ result, (processRecord "worker" (creationRecord 0)).run serveStores () .empty =
      some ((.ok result,()),createdStores) := ⟨_,rfl⟩
  have hagain : ∃ result, (processRecord "worker" (creationRecord 0)).run serveStores () createdStores =
      some ((.ok result,()),createdStores) := ⟨_,rfl⟩
  -- the offset and the state are loaded, the state is saved, and the worker stops
  have hstopped : Routine.Visits serveStores (processRecord "worker" (paymentRecord 1)) ()
      createdStores stoppedStores := .inr ⟨_,rfl,.inr ⟨_,rfl,.inr ⟨_,rfl,.inl rfl⟩⟩⟩
  obtain ⟨_,hcreated⟩ := hcreated
  obtain ⟨_,hagain⟩ := hagain
  have h₁ : Redelivered "worker" [creationRecord 0,paymentRecord 1] (createdStores,1) :=
    .single (.returned le_rfl rfl hcreated)
  have h₂ : Redelivered "worker" [creationRecord 0,paymentRecord 1] (createdStores,1) :=
    h₁.tail (.returned (Nat.zero_le 1) rfl hagain)
  have h₃ : Redelivered "worker" [creationRecord 0,paymentRecord 1] (stoppedStores,1) :=
    h₂.tail (.stopped le_rfl rfl hstopped)
  obtain ⟨result,w,hrun⟩ := hreturns stoppedStores 1 1 _ h₃ le_rfl rfl
  have h₄ : Redelivered "worker" [creationRecord 0,paymentRecord 1] (w,2) :=
    h₃.tail (.returned le_rfl rfl hrun)
  obtain ⟨hstates,hoffset⟩ := hends w h₄
  exact ⟨h₃,rfl,w,h₄,hstates,hoffset _ rfl⟩

/-- The checkpoint of a fresh worker is `-1`, so a record at that offset is never folded. -/
theorem redelivery_negative_offset :
    AcceptedStream [creationRecord (-1)] ∧ Redelivered "worker" [creationRecord (-1)] (.empty,1) ∧
      ProjectionStores.empty.states ≠ foldOf [creationRecord (-1)] := by
  have hlegal : reduceHistory "o-1" ([creationRecord (-1)].map (fun r => r.event)) =
      .ok ⟨"o-1",.created,.ofCents false 1000,.zero,1⟩ := by decide +kernel
  refine ⟨.of_order (by simp [creationRecord]) (List.pairwise_singleton ..) hlegal,?_,?_⟩
  · obtain ⟨outcome,w',hrun,hprocessed⟩ := run_processRecord "worker" (creationRecord (-1)) .empty
    have hold : (creationRecord (-1)).offset ≤ ProjectionStores.empty.loadOffset "worker" := le_rfl
    cases hprocessed with
    | consumed => exact .single (.returned le_rfl rfl hrun)
    | projected new => exact absurd hold (not_le.mpr new)
    | refused new => exact absurd hold (not_le.mpr new)
    | applied new => exact absurd hold (not_le.mpr new)
  · intro h
    have horder := congrFun h "o-1"
    have hnone : (foldOf [creationRecord (-1)] "o-1").isSome = true := by decide +kernel
    rw [← horder] at hnone
    cases hnone

end StreamingCompass
