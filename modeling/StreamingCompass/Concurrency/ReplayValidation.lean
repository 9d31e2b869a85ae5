import StreamingCompass.Concurrency.Projection
import StreamingCompass.Projection.RepeatableRead
import StreamingCompass.Projection.SnapshotReplay

/-! # Replay validation beside running writers

`DurableReplayValidator.validate_order` on a connection of its own, while write
invocations and projection workers go on committing.
-/
namespace StreamingCompass
open Interleaving

/-! ## Which states differ -/

theorem LegalHistory.projectionOf_eq_self {orderId : String} {h : List OrderEvent}
    (hl : LegalHistory orderId h) : (projectionOf orderId h).eq (projectionOf orderId h) = true := by
  have hc := hl.canonical
  obtain ⟨q,hq⟩ := hc.totalAmount
  have htotal : (projectionOf orderId h).totalAmount.eq (projectionOf orderId h).totalAmount = true :=
    Decimal.eq_self (by rw [hq]; simp [Decimal.ofCents])
  have hpaid : (projectionOf orderId h).paidAmount.eq (projectionOf orderId h).paidAmount = true := by
    rcases hc.paidAmount with hz | hz
    · rw [hz]
      rfl
    · rw [hz]
      exact htotal
  exact OrderState.eq_iff.mpr ⟨rfl,rfl,htotal,hpaid,rfl⟩

/-- Projections of prefixes of one legal history are equal only when the prefixes are. -/
theorem LegalHistory.projection_eq_iff {orderId : String} {h : List OrderEvent}
    (hl : LegalHistory orderId h) {k : ℕ} (hk : k ≤ h.length) :
    (projectionOf orderId (h.take k)).eq (projectionOf orderId h) = true ↔ k = h.length := by
  constructor
  · intro heq
    have hversion := (OrderState.eq_iff.mp heq).2.2.2.2
    rw [(reduceHistory_version (hl.take k).reduce).2, (reduceHistory_version hl.reduce).2,
      List.length_take] at hversion
    omega
  · rintro rfl
    rw [List.take_length]
    exact hl.projectionOf_eq_self

namespace DurableReplayValidator

/-- The answer for an order with `n` accepted events of which `k` are projected. -/
structure Verdict (result : ReplayValidationResult) (n k : ℕ) : Prop where
  noAcceptedHistory : result.status = .noAcceptedHistory ↔ n = 0
  missingProjection : result.status = .missingProjection ↔ 0 < n ∧ k = 0
  drift : result.status = .drift ↔ 0 < k ∧ k < n
  agreement : result.status = .match ↔ 0 < k ∧ k = n

theorem verdict_noAcceptedHistory {result : ReplayValidationResult}
    (hs : result.status = .noAcceptedHistory) : Verdict result 0 0 := by
  constructor <;> simp [hs]

theorem verdict_missingProjection {result : ReplayValidationResult} {n : ℕ}
    (hs : result.status = .missingProjection) (hn : 0 < n) : Verdict result n 0 := by
  constructor <;> simp [hs] <;> omega

theorem verdict_drift {result : ReplayValidationResult} {n k : ℕ} (hs : result.status = .drift)
    (hk : 0 < k) (hn : k < n) : Verdict result n k := by
  constructor <;> simp only [hs, reduceCtorEq, false_iff, true_iff] <;> omega

theorem verdict_agreement {result : ReplayValidationResult} {n : ℕ} (hs : result.status = .match)
    (hn : 0 < n) : Verdict result n n := by
  constructor <;> simp only [hs, reduceCtorEq, false_iff, true_iff, and_true] <;> omega

theorem compare_orderId (orderId : String) (expected : OrderState) (persisted : Option OrderState) :
    (compare orderId expected persisted).orderId = orderId := by
  cases persisted with
  | none => rfl
  | some state =>
    rw [compare]
    split <;> rfl

variable {t : Tables} {orderId : String} {k : ℕ}

/-- Where the projection stands decides the comparison. -/
theorem compare_verdict (hsound : t.Sound) (hk : t.ProjectedTo orderId k)
    (hpos : 0 < (t.events orderId).length) :
    Verdict (compare orderId (projectionOf orderId (t.events orderId))
      ((t.projectionStates orderId).map PostgresProjectionWorker.stateOfRow))
      (t.events orderId).length k := by
  have hl := hsound.legal_events orderId
  have hle : k ≤ (t.events orderId).length := by
    rw [Tables.events, List.length_map]
    exact hk.le_length
  cases hk with
  | absent progress state =>
    rw [state]
    exact verdict_missingProjection rfl hpos
  | @upTo k row stored event sequence progress state fold =>
    rw [(hl.take (k+1)).reduce] at fold
    rw [state, Option.map_some, ← Except.ok.inj fold]
    have heq := hl.projection_eq_iff hle
    rcases hle.lt_or_eq with hlt | hlast
    · have hne : (projectionOf orderId ((t.events orderId).take (k+1))).eq
          (projectionOf orderId (t.events orderId)) = false := by
        rw [Bool.eq_false_iff]
        exact fun h => hlt.ne (heq.mp h)
      refine verdict_drift ?_ (Nat.succ_pos k) hlt
      rw [compare, hne]
      rfl
    · have hstatus : (compare orderId (projectionOf orderId (t.events orderId))
          (some (projectionOf orderId ((t.events orderId).take (k+1))))).status = .match := by
        rw [compare, heq.mpr hlast]
        rfl
      exact hlast ▸ verdict_agreement (hlast ▸ hstatus) (Nat.succ_pos k)

/-- Against accepted tables the validator never raises. -/
theorem answer_verdict (hsound : t.Sound) (hk : t.ProjectedTo orderId k)
    (hn : hasNul orderId = false) :
    ∃ result, answer t orderId = .ok result ∧ result.orderId = orderId ∧
      Verdict result (t.events orderId).length k := by
  have hl := hsound.legal_events orderId
  rw [answer, if_neg (by simp [hn])]
  dsimp only
  cases he : t.events orderId with
  | nil =>
    have hzero : k = 0 := by
      have hle := hk.le_length
      have hlength : (t.history orderId).length = (t.events orderId).length := by
        rw [Tables.events, List.length_map]
      rw [hlength, he] at hle
      exact Nat.le_zero.mp hle
    subst hzero
    exact ⟨_,rfl,rfl,verdict_noAcceptedHistory rfl⟩
  | cons e rest =>
    have hpos : 0 < (t.events orderId).length := by simp [he]
    rw [← he, hl.reduce]
    refine ⟨compare orderId (projectionOf orderId (t.events orderId))
      ((t.projectionStates orderId).map PostgresProjectionWorker.stateOfRow),?_,
      compare_orderId ..,compare_verdict hsound hk hpos⟩
    rw [if_neg (by simp [he])]
    rfl

end DurableReplayValidator

variable {ι : Type} [DecidableEq ι] [Fintype ι] {D : Database ι} {faulty : ι → Prop}
  {invocations : ι → Invocation} {c₀ c : System ι}

/-- A validation that runs beside the system returns, and its status says where the
projection stood in one state committed while it ran. -/
theorem Reachable.validation_verdict (h : Reachable D faulty .empty invocations c₀)
    {orderId : String} (hn : hasNul orderId = false) {x : ReadSession}
    {r : Except PyException ReplayValidationResult}
    (hr : Observed (Step (D.machine faulty)) (fun c => c.world.tables) c₀
      (DurableReplayValidator.program orderId) c x (.done r)) :
    ∃ c₁ k result, Reaches (D.machine faulty) c₀ c₁ ∧ Reaches (D.machine faulty) c₁ c ∧
      c₁.world.tables.ProjectedTo orderId k ∧ r = .ok result ∧ result.orderId = orderId ∧
      DurableReplayValidator.Verdict result (c₁.world.tables.events orderId).length k := by
  obtain ⟨c₁,hbefore,hafter,hserial⟩ := hr.serial (DurableReplayValidator.program_confined orderId)
  rw [DurableReplayValidator.program_serial, Option.some.injEq] at hserial
  have h₁ : Reachable D faulty .empty invocations c₁ := Relation.ReflTransGen.trans h hbefore
  obtain ⟨k,hk⟩ := h₁.projectedTo orderId
  obtain ⟨result,hanswer,horder,hverdict⟩ :=
    DurableReplayValidator.answer_verdict (h₁.sound .initial .empty) hk hn
  exact ⟨c₁,k,result,hbefore,hafter,hk,hserial.symm.trans hanswer,horder,hverdict⟩

/-- A validator started with the racing workers that reads after them. -/
theorem RacingWorkers.observed (orderId : String) : ∃ x, Observed
    (Step (server.machine (fun _ => False))) (fun c => c.world.tables) (System.start .empty racers)
    (DurableReplayValidator.program orderId) final x
    (.done (DurableReplayValidator.answer final.world.tables orderId)) := by
  obtain ⟨⟨a,x⟩,hrun,ha⟩ := Option.map_eq_some_iff.mp
    (DurableReplayValidator.program_serial final.world.tables orderId)
  obtain rfl : a = _ := ha
  exact ⟨x,(Observed.start.trans reachable).finish hrun⟩

theorem Reachable.validation_verdict_racing :
    DurableReplayValidator.answer RacingWorkers.final.world.tables "A" = .ok ⟨"A",.match,
      some ⟨"A",.created,.ofCents false 1000,.zero,1⟩,some ⟨"A",.created,.ofCents false 1000,.zero,1⟩,
      "Persisted projection state matches replay-derived state"⟩ ∧
    ∃ c₁ k result, Reaches (RacingWorkers.server.machine (fun _ => False)) c₁ RacingWorkers.final ∧
      c₁.world.tables.ProjectedTo "A" k ∧
      DurableReplayValidator.answer RacingWorkers.final.world.tables "A" = .ok result ∧
      DurableReplayValidator.Verdict result (c₁.world.tables.events "A").length k := by
  obtain ⟨x,hx⟩ := RacingWorkers.observed "A"
  obtain ⟨c₁,k,result,-,hafter,hk,hr,-,hv⟩ :=
    Reachable.validation_verdict .refl (by decide +kernel) hx
  exact ⟨by decide +kernel,c₁,k,result,hafter,hk,hr,hv⟩

/-- An order id with a NUL character makes the validation raise. -/
theorem nul_order_not_validated : ∃ x e, Observed
    (Step (RacingWorkers.server.machine (fun _ => False))) (fun c => c.world.tables)
    (System.start .empty RacingWorkers.racers) (DurableReplayValidator.program "A\x00")
    RacingWorkers.final x (.done (.error e)) := by
  obtain ⟨x,hx⟩ := RacingWorkers.observed "A\x00"
  have hnul : DurableReplayValidator.answer RacingWorkers.final.world.tables "A\x00" =
      .error nulInText := if_pos (by decide +kernel)
  exact ⟨x,nulInText,hnul ▸ hx⟩

end StreamingCompass
