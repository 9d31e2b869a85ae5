import StreamingCompass.Concurrency.Linearization
import StreamingCompass.Concurrency.Projection

/-! # Projections of linearized commands

What the read side serves is what the in-memory registry held after a prefix of the
linearized commands, one order of commands for the projections of all orders.
-/
namespace StreamingCompass
open Interleaving

/-- A projection shows what its aggregate is. -/
structure Shows (s : OrderState) (a : OrderAggregate) : Prop where
  orderId : s.orderId = a.orderId
  version : s.version = a.currentVersion
  status : s.status = a.status
  totalAmount : s.totalAmount = a.totalAmount
  paidAmount : s.paidAmount = a.paidAmount

/-- The reducer and the aggregate take a history to the same state. -/
theorem projectionOf_shows (orderId : String) (h : List OrderEvent) :
    Shows (projectionOf orderId h) (aggregateOf orderId h) := by
  rcases h with _ | ⟨e,_ | ⟨p,h⟩⟩ <;> exact ⟨rfl,rfl,rfl,rfl,rfl⟩

/-- The projection of an order as tables hold it is the one a registry would show. -/
structure Tables.Serves (t : Tables) (r : OrderRegistry) (orderId : String) : Prop where
  progress : t.lastSequence (progressKey orderId) = (r.store orderId).length
  rebuilt : reduceHistory orderId (r.store orderId) = .ok (t.projection orderId)
  aggregate : isBlank orderId = false →
    ∃ a, rehydrate orderId (r.store orderId) = .ok a ∧ Shows (t.projection orderId) a

theorem Tables.ProjectedTo.le_events {t : Tables} {orderId : String} {k : ℕ}
    (h : t.ProjectedTo orderId k) : k ≤ (t.events orderId).length := by
  rw [Tables.events, List.length_map]
  exact h.le_length

theorem Tables.ProjectedTo.serves {t : Tables} {orderId : String} {k : ℕ} {r : OrderRegistry}
    (h : t.ProjectedTo orderId k) (hl : LegalHistory orderId (t.events orderId))
    (hr : r.store orderId = (t.events orderId).take k) : t.Serves r orderId := by
  have hfold := h.fold_eq
  have htake : LegalHistory orderId ((t.events orderId).take k) := hl.take k
  have hprojection : t.projection orderId = projectionOf orderId ((t.events orderId).take k) :=
    Except.ok.inj (hfold.symm.trans htake.reduce)
  refine ⟨?_,?_,fun hn => ?_⟩
  · rw [h.lastSequence_eq, hr, List.length_take, Nat.min_eq_left h.le_events]
  · rw [hr, hfold]
  · refine ⟨_,by rw [hr]; exact htake.rehydrate_eq hn,?_⟩
    rw [hprojection]
    exact projectionOf_shows orderId _

/-- A command appends one event to its order's stream, or none. -/
theorem OrderRegistry.handle_store (r : OrderRegistry) (mode : ValidationMode) (s : RequestSignature)
    (draw : Draw) (orderId : String) :
    (r.handle mode s draw).2.store orderId = r.store orderId ∨
      ∃ e, (r.handle mode s draw).2.store orderId = r.store orderId ++ [e] := by
  rw [OrderRegistry.handle_eq]
  unfold OrderRegistry.serve
  split
  · exact .inl rfl
  · split
    · exact .inl rfl
    · rename_i e he
      by_cases ho : orderId = e.orderId
      · subst ho
        exact .inr ⟨e,Function.update_self ..⟩
      · exact .inl (Function.update_of_ne ho ..)

theorem Invocation.serve_store (mode : ValidationMode) (orderId : String) (r : OrderRegistry)
    (v : Invocation) : (Invocation.serve mode r v).2.store orderId = r.store orderId ∨
      ∃ e, (Invocation.serve mode r v).2.store orderId = r.store orderId ++ [e] := by
  cases v with
  | write v => exact r.handle_store mode v.signature.canonical v.draw orderId
  | project workerName => exact .inl rfl

theorem Tables.empty_registry : Tables.empty.registry = .empty := rfl

variable {ι : Type} [DecidableEq ι] [Fintype ι] {D : Database ι} {faulty : ι → Prop}
  {invocations : ι → Invocation} {c : System ι}

/-- At every moment of every run one linearization of the invocations explains both sides:
the tables hold what the registry ends with, and each order's projection is what the
registry showed after some prefix of the commands, after all of them once it has caught up. -/
theorem Reachable.projections_linearized (h : Reachable D faulty .empty invocations c)
    (mode : ValidationMode) :
    ∃ order, Linearizes D faulty .empty invocations mode c order ∧ ∀ orderId, ∃ served, served <+: order ∧
      c.world.tables.Serves ((Invocation.serve mode).run .empty
        (served.map (fun x => invocations x.thread))).2 orderId ∧
      (c.world.tables.lastSequence (progressKey orderId) = (c.world.tables.events orderId).length →
        served = order) := by
  obtain ⟨place,hplace⟩ : ∃ place, PlacedReads D faulty .empty invocations c place :=
    PlacedReads.exists_place
  have hlinear := hplace.linearizes h .initial .empty mode
  refine ⟨_,hlinear,fun orderId => ?_⟩
  have hlegal := (h.sound .initial .empty).legal_events orderId
  obtain ⟨answers,hrun,-⟩ := hlinear.serial
  rw [Tables.empty_registry] at hrun
  obtain ⟨k,hk⟩ := h.projectedTo orderId
  by_cases hall : k = (c.world.tables.events orderId).length
  · -- caught up: the whole order was served
    refine ⟨_,List.prefix_refl _,hk.serves hlegal ?_,fun _ => rfl⟩
    rw [hrun, hall, List.take_length]
    rfl
  · have hle : k ≤ (((Invocation.serve mode).run .empty ((effectiveSteps invocations place c).map
        (fun x => invocations x.thread))).2.store orderId).length := by
      rw [hrun]
      exact hk.le_events
    obtain ⟨served,hserved,hstore⟩ := SequentialObject.exists_served (Invocation.serve mode)
      (fun r => r.store orderId) (Invocation.serve_store mode orderId) (Nat.zero_le k) hle
    obtain ⟨first,hfirst,rfl⟩ := List.prefix_map_iff.mp hserved
    refine ⟨first,hfirst,hk.serves hlegal ?_,fun hcaught => ?_⟩
    · rw [hstore, hrun]
      rfl
    · rw [hk.lastSequence_eq] at hcaught
      exact absurd (Int.natCast_inj.mp hcaught) hall

/-- Of two racing workers one has projected the creation; nothing else was served. -/
theorem Reachable.projections_linearized_racing :
    RacingWorkers.final.world.tables.lastSequence (progressKey "A") = 1 ∧
      ∃ order, Linearizes RacingWorkers.server (fun _ => False) .empty RacingWorkers.racers .off
          RacingWorkers.final order ∧
        RacingWorkers.final.world.tables.Serves ((Invocation.serve .off).run .empty
          (order.map (fun x => RacingWorkers.racers x.thread))).2 "A" := by
  have hcaught : RacingWorkers.final.world.tables.lastSequence (progressKey "A") =
      (RacingWorkers.final.world.tables.events "A").length := by decide +kernel
  obtain ⟨order,hlinear,hserved⟩ := Reachable.projections_linearized RacingWorkers.reachable .off
  obtain ⟨served,-,hserves,hall⟩ := hserved "A"
  obtain rfl := hall hcaught
  exact ⟨by decide +kernel,served,hlinear,hserves⟩

end StreamingCompass
