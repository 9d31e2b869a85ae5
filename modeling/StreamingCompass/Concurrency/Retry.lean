import StreamingCompass.Concurrency.Atomicity

/-! # The retry law

An invocation that starts after its request was accepted reads the committed record
whatever else runs, and ends with it: as a replay when the payload is the same, as a
conflict otherwise.
-/
namespace StreamingCompass
open Interleaving

/-! ## What a retry does -/

/-- The replies of a healthy connection whose request id is recorded. -/
def retryReplies (pair : IdempotencyRow × OrderEventRow) : (op : Operation) → SqlReply op → Prop
  | .autocommit, r => r = .ok false
  | .selectIdempotencyRecord _, r => r = .ok (some pair)
  | .rollback, r => r = .ok ()
  | _, _ => True

/-- The operations a retry issues, while nothing is pending. -/
structure RetryGuard (W : WriteSide) (s : RequestSignature) (log : SqlLog) (op : Operation) : Prop where
  clean : (session log).dirty = false
  noRows : (session log).NoRows
  issued : op = .autocommit ∧ W.placement = .inTransaction ∨
    op = .selectIdempotencyRecord s.requestId ∨ op = .rollback

def retryContract (W : WriteSide) (s : RequestSignature) (pair : IdempotencyRow × OrderEventRow) :
    Contract Operation Operation.Answer PyException where
  allowed _ := retryReplies pair
  guard := RetryGuard W s

namespace WriteInvocation
variable {v : WriteInvocation} {pair : IdempotencyRow × OrderEventRow} {d : IdempotencyDecision}

/-- A retry ends with the decision on its record. -/
theorem primary_retry
    (hd : PostgresIdempotencyStore.classify v.signature (some pair) = .ok d) (hmiss : d.verdict ≠ .miss) :
    v.primary.Meets (retryContract v.writeSide v.signature pair)
      (fun _ r => r = .ok (.decided d none)) [] := by
  rw [primary, Program.meets_bind]
  have h : (v.writeSide.primary v.signature).Meets (retryContract v.writeSide v.signature pair) () []
      (fun _ r _ => r = .ok (.decided d none)) := by
    unfold WriteSide.primary
    split
    · rename_i hp
      simp only [WriteSide.primaryInTransaction, primaryUnitOfWork, Routine.meets_bind,
        Routine.meets_perform]
      refine ⟨⟨rfl,⟨rfl,rfl,rfl,rfl⟩,.inl ⟨rfl,hp⟩⟩,fun reply hr => ?_⟩
      obtain rfl : reply = .ok false := hr
      simp only [Bool.false_eq_true, if_false, Routine.meets_bind, Routine.meets_attempt,
        PostgresIdempotencyStore.check, Routine.meets_perform]
      refine ⟨⟨rfl,⟨rfl,rfl,rfl,rfl⟩,.inr (.inl rfl)⟩,fun reply hr => ?_⟩
      obtain rfl : reply = .ok (some pair) := hr
      simp only [Routine.meets_ofExcept, hd, hmiss, ne_eq, not_false_eq_true, if_true,
        Routine.meets_bind, Routine.meets_perform]
      refine ⟨⟨rfl,⟨rfl,rfl,rfl,rfl⟩,.inr (.inr rfl)⟩,fun reply hr => ?_⟩
      obtain rfl : reply = .ok () := hr
      simp only [Routine.meets_pure, PostgresWriteSideResult.decided_outcome_ne, if_false]
    · simp only [WriteSide.primaryPreTransaction, WriteSide.primaryReads, Routine.meets_bind,
        Routine.meets_tryFinally, PostgresIdempotencyStore.check, Routine.meets_perform]
      refine ⟨⟨rfl,⟨rfl,rfl,rfl,rfl⟩,.inr (.inl rfl)⟩,fun reply hr => ?_⟩
      obtain rfl : reply = .ok (some pair) := hr
      simp only [Routine.meets_ofExcept, hd, hmiss, ne_eq, not_false_eq_true, if_true,
        Routine.meets_pure]
      refine ⟨⟨rfl,⟨rfl,rfl,rfl,rfl⟩,.inr (.inr rfl)⟩,fun reply hr => ?_⟩
      obtain rfl : reply = .ok () := hr
      simp only [Routine.cleanedUp, Routine.meets_pure]
  exact h

end WriteInvocation

/-! ## Retries in a run -/

variable {ι : Type} [DecidableEq ι] [Fintype ι] {D : Database ι} {faulty : ι → Prop} {t : Tables}
  {invocations : ι → Invocation} {c c' : System ι} {i j : ι} {v u : WriteInvocation}

/-- The record of a committed request is found in every later state. -/
theorem AcceptedAs.loadRecord {t t' : Tables} {s : RequestSignature} {e : OrderEvent}
    {row : OrderEventRow} {record : IdempotencyRow} (h : AcceptedAs t s e row record)
    (hevents : t.orderEvents <+: t'.orderEvents)
    (hrecords : t.idempotencyRecords <+: t'.idempotencyRecords)
    (hids : (t'.orderEvents.map (fun e => e.acceptedEventId)).Nodup)
    (hrequests : (t'.idempotencyRecords.map (fun r => r.requestId)).Nodup) :
    t'.loadRecord s.requestId = some (record,row) := by
  have hrecord : t'.idempotencyRecords.find? (fun r => r.requestId = s.requestId) = some record :=
    h.requestId ▸ find?_key hrequests (hrecords.subset h.recordCommitted)
  have hevent : t'.orderEvents.find? (fun e => e.acceptedEventId = record.acceptedEventId) = some row :=
    h.recorded.acceptedEventId ▸ find?_key hids (hevents.subset h.eventCommitted)
  simp [Tables.loadRecord, hrecord, hevent]

/-- The same command on the same order with the same canonical amount. -/
def SamePayload (s s' : RequestSignature) : Prop :=
  s.commandType = s'.commandType ∧ s.orderId = s'.orderId ∧
    normalizeMoney s.amount = normalizeMoney s'.amount

theorem AcceptedAs.classify {t : Tables} {s s' : RequestSignature} {e : OrderEvent}
    {row : OrderEventRow} {record : IdempotencyRow} {b : Decimal} (h : AcceptedAs t s e row record)
    (hb : normalizeMoney s'.amount = .ok b) :
    ∃ held d, held.acceptedEvent = e ∧
      PostgresIdempotencyStore.classify s' (some (record,row)) = .ok d ∧
      (SamePayload s s' ∧ d = .replay held ∨ ¬SamePayload s s' ∧ d = .conflict held) := by
  obtain ⟨hnorm,q,-,-,hq⟩ := ensurePositiveMoney_eq_ok.mp h.amount
  have hamount : record.amount.toDecimal = .ofCents false q := by
    rw [h.recorded.amount, ← hq, ← h.stored]
    rfl
  have hclass := PostgresIdempotencyStore.classify_some (record,row) h.recorded.fingerprintVersion
    (h.recorded.semanticFingerprint.trans (by rw [hamount])) hb
  have hsame : (record.commandType = s'.commandType ∧ record.orderId = s'.orderId ∧
      Decimal.ofCents false q = b) ↔ SamePayload s s' := by
    rw [SamePayload, h.commandType, h.orderId, hnorm, hb, hq, Except.ok.injEq]
  refine ⟨PostgresIdempotencyStore.rowToIdempotencyRecord (record,row),_,h.stored,hclass,?_⟩
  by_cases hp : SamePayload s s'
  · exact .inl ⟨hp,if_pos (hsame.mpr hp)⟩
  · exact .inr ⟨hp,if_neg (fun hf => hp (hsame.mp hf))⟩

theorem Invocation.program_retry {pair : IdempotencyRow × OrderEventRow} {d : IdempotencyDecision}
    (hd : PostgresIdempotencyStore.classify v.signature (some pair) = .ok d) (hmiss : d.verdict ≠ .miss) :
    (Invocation.write v).program.Meets (retryContract v.writeSide v.signature pair)
      (fun _ r => ∃ d', r = .delivered (.ok d') ∧ d'.producerValue.result = .decided d none) [] := by
  simp only [program, Program.meets_bind, Program.meets_done]
  refine (v.program_primary.meets (WriteInvocation.primary_retry hd hmiss)).mono (fun log r h => ?_)
  obtain ⟨r',hr,rfl⟩ := h
  cases r with
  | error e => cases hr
  | ok d' => exact ⟨d',rfl,Except.ok.inj hr⟩

theorem exec_selectIdempotencyRecord {w : World ι} {position : ℕ} {requestId : String}
    (hnul : hasNul requestId = false) (hok : (w.transactions i).failed = false) :
    exec D position i w (.selectIdempotencyRecord requestId) =
      some (.ok ((w.visible i).loadRecord requestId),settle D w i (w.transactions i)) := by
  simp [exec, statement, Operation.texts, hnul, hok, effect, read]

theorem serve_selectIdempotencyRecord (w : World ι) (requestId : String) :
    ∃ reply w', D.serve i (.selectIdempotencyRecord requestId) w = some (reply,w') := by
  simp only [Database.serve, exec, statement, effect, read]
  split
  · exact ⟨_,_,rfl⟩
  · split
    · exact ⟨_,_,rfl⟩
    · exact ⟨_,_,rfl⟩

namespace Reachable

/-- Once a request was accepted, an invocation that starts later with its id returns, and
returns a replay of the accepted event for the same payload and a conflict otherwise; the
event is the one its order's history holds, and the tables stay as they are. -/
theorem retry_law (h : Reachable D faulty .empty invocations c) (hv : invocations i = .write v)
    {d : PostgresWriteSideDelivery} (hd : c.delivered i = some (.ok d))
    (ho : d.producerValue.result.outcome = .accepted) (hu : invocations j = .write u)
    (hid : u.signature.requestId = v.signature.requestId) {b : Decimal}
    (hb : normalizeMoney u.signature.amount = .ok b) (hstart : c.log j = [])
    (hmanual : u.placement = .inTransaction → D.autocommit j = false) (hhealthy : ¬faulty j)
    (hr : Reaches (D.machine faulty) c c') :
    ∃ e, d.producerValue.result.acceptedEvent = some e ∧
      (∃ k : ℕ, e.sequence = k+1 ∧ (c'.world.tables.events v.signature.orderId)[k]? = some e) ∧
      (∀ r, c'.delivered j = some r → ∃ d', r = .ok d' ∧
        (d'.producerValue.result.outcome = .replay ↔ SamePayload v.signature u.signature) ∧
        (d'.producerValue.result.outcome = .conflict ↔ ¬SamePayload v.signature u.signature) ∧
        (d'.producerValue.result.outcome = .replay →
          d'.producerValue.result.acceptedEvent = some e) ∧
        ∀ x ∈ ownSteps j c'.trace, x.after.tables = x.before.tables) ∧
      ((c'.program j).isSome = true →
        ∃ (c'' : System ι) (r : _), Reaches (D.machine faulty) c' c'' ∧ c''.delivered j = some r) := by
  obtain ⟨e,row,record,ha,hevent⟩ := h.acceptedAs hv hd ho
  have hsound : c'.world.tables.Sound := (Reachable.sound (h.trans hr) .initial .empty)
  have hnul : hasNul u.signature.requestId = false := by
    rw [hid, ← ha.requestId, ha.recorded.requestId]
    exact ((h.sound .initial .empty).texts row ha.eventCommitted).requestId
  obtain ⟨held,decision,hheld,hdecision,hverdict⟩ := ha.classify hb
  have hmiss : decision.verdict ≠ .miss := by
    rcases hverdict with ⟨-,rfl⟩ | ⟨-,rfl⟩
    · simp [IdempotencyDecision.replay]
    · simp [IdempotencyDecision.conflict]
  have hallowed : ∀ c₁, Reaches (D.machine faulty) c c₁ → ∀ op next,
      c₁.program j = some (.call op next) → RetryGuard u.writeSide u.signature (c₁.log j) op →
      ∀ reply w, (D.machine faulty).step j c₁.world op reply w → retryReplies (record,row) op reply := by
    intro c₁ hr₁ op next hp hg reply w hstep
    obtain ⟨position,hruns⟩ := SqlStep.runs hstep hhealthy
    have hreach : Reachable D faulty .empty invocations c₁ := h.trans hr₁
    have hm := hreach.mirrors hp
    rcases hg.issued with ⟨rfl,hplacement⟩ | rfl | rfl
    · obtain ⟨rfl,-⟩ := Prod.mk.inj (Option.some.inj hruns)
      exact congrArg Except.ok (hmanual hplacement)
    · have hok : (c₁.world.transactions j).failed = false := by
        cases hf : (c₁.world.transactions j).failed with
        | false => rfl
        | true => exact absurd (hm.failed hf) (by simp [hg.clean])
      have hgrow := h.grows hr₁
      have hintegral := hreach.integral .initial
      rw [exec_selectIdempotencyRecord hnul hok, hm.visible_eq hg.noRows, hid,
        ha.loadRecord hgrow.1 hgrow.2 hintegral.eventId.settled hintegral.request.settled] at hruns
      obtain ⟨rfl,-⟩ := Prod.mk.inj (Option.some.inj hruns)
      rfl
    · obtain ⟨rfl,-⟩ := Prod.mk.inj (Option.some.inj hruns)
      rfl
  have hbegins : ∀ p, c.program j = some p → p.Meets (retryContract u.writeSide u.signature (record,row))
      (fun _ r => ∃ d', r = .delivered (.ok d') ∧ d'.producerValue.result = .decided decision none)
      (c.log j) := by
    intro p hp
    have hstarted := Reaches.unstarted h hstart p hp
    obtain rfl : (invocations j).program = p := Option.some.inj hstarted
    rw [hstart, hu]
    exact Invocation.program_retry hdecision hmiss
  have henabled : ∀ c₁, Reaches (D.machine faulty) c c₁ → ∀ op,
      RetryGuard u.writeSide u.signature (c₁.log j) op →
      ∃ reply w, (D.machine faulty).step j c₁.world op reply w := by
    intro c₁ _ op hg
    obtain ⟨reply,w,hw⟩ : ∃ reply w, D.serve j op c₁.world = some (reply,w) := by
      rcases hg.issued with ⟨rfl,-⟩ | rfl | rfl
      · exact ⟨_,_,D.serve_autocommit⟩
      · exact serve_selectIdempotencyRecord _ _
      · exact ⟨_,_,D.serve_rollback⟩
    exact ⟨reply,w,D.serve_step j op _ reply w hw⟩
  refine ⟨e,hevent,?_,fun r hret => ?_,fun hp => ?_⟩
  · obtain ⟨k,hk,hsequence⟩ := hsound.getElem_history ((h.grows hr).1.subset ha.eventCommitted)
    have horder : row.orderId = v.signature.orderId := by rw [← ha.recorded.orderId, ha.orderId]
    rw [horder] at hk
    have he : e.sequence = k+1 := by rw [← hsequence, ← ha.stored]; rfl
    refine ⟨k,he,?_⟩
    rw [Tables.events, List.getElem?_map, hk, Option.map_some, ha.stored]
  · obtain ⟨d',hr',hresult⟩ := Reaches.meets hallowed hbegins hr _ (System.delivered_eq_some.mp hret)
    obtain rfl : r = .ok d' := InvocationResult.delivered.inj hr'
    have hends := Reachable.meets (h.trans hr) j _ (System.delivered_eq_some.mp hret)
    rw [hu] at hends
    have hended := Concluded.ended (v := d'.producerValue.result) hends (by
      rw [hresult]
      exact PostgresWriteSideResult.decided_outcome_ne)
    have hsame := Reachable.added_of_uncommitted (h.trans hr) hended.uncommitted
    rcases hverdict with ⟨hp,rfl⟩ | ⟨hp,rfl⟩
    · exact ⟨d',rfl,by simp [hresult, hp],by simp [hresult, hp],fun _ => by simp [hresult, hheld],hsame⟩
    · exact ⟨d',rfl,by simp [hresult, hp],by simp [hresult, hp],fun ho => by simp [hresult] at ho,hsame⟩
  · obtain ⟨p,hp⟩ := Option.isSome_iff_exists.mp hp
    obtain ⟨c'',a,hr'',hdone⟩ := Reaches.finishes hallowed henabled hbegins hr hp
    obtain ⟨d',rfl,-⟩ := Reaches.meets hallowed hbegins (hr.trans hr'') _ hdone
    exact ⟨c'',_,hr'',System.delivered_eq_some.mpr hdone⟩

end Reachable

/-! A creation is accepted, and sent again with its amount written differently. -/
namespace RepeatedCreation

def create : WriteInvocation :=
  ⟨.preTransaction,.optimistic,invokeValidation .strict,⟨"r",.create,"A|B",.int 20⟩,⟨0,0⟩,false,none⟩
def retry : WriteInvocation :=
  ⟨.inTransaction,.pessimistic,invokeValidation .off,
    ⟨"r",.create,"A|B",.decimal (.finite false 20004 (-3))⟩,⟨1,0⟩,true,none⟩

def calls : Fin 2 → Invocation
  | 0 => .write create
  | 1 => .write retry

def accepted : System (Fin 2) :=
  ((System.start .empty calls).drive RacingCreations.server.serve
    [0,0,0,0,0,0,0,0,0]).get (by decide +kernel)

def final : System (Fin 2) :=
  (accepted.drive RacingCreations.server.serve [1,1,1]).get (by decide +kernel)

end RepeatedCreation

theorem Reachable.retry_law_repeated : ∃ d, RepeatedCreation.final.delivered 1 = some (.ok d) ∧
    d.producerValue.result.outcome = .replay := by
  have h : Reachable RacingCreations.server (fun _ => False) .empty RepeatedCreation.calls
      RepeatedCreation.accepted := Reachable.of_drive (Option.some_get _).symm
  have hr : Reaches (RacingCreations.server.machine (fun _ => False)) RepeatedCreation.accepted
      RepeatedCreation.final :=
    Config.drive_reaches (fun _ _ _ _ _ hs => Database.serve_step _ _ _ _ _ hs) (Option.some_get _).symm
  have haccepted : (RepeatedCreation.accepted.delivered 0).map (fun r => r.map (fun d =>
      d.producerValue.result.outcome)) = some (.ok .accepted) := by decide +kernel
  have hreturned : (RepeatedCreation.final.delivered 1).isSome = true := by decide +kernel
  obtain ⟨r,hr0,hr0'⟩ := Option.map_eq_some_iff.mp haccepted
  obtain ⟨r1,hr1⟩ := Option.isSome_iff_exists.mp hreturned
  cases r with
  | error e => cases hr0'
  | ok d =>
    obtain ⟨e,-,-,hlaw,-⟩ := Reachable.retry_law h (i := 0) (j := 1)
      (v := RepeatedCreation.create) (u := RepeatedCreation.retry) rfl hr0 (Except.ok.inj hr0') rfl rfl
      (b := .ofCents false 2000) (by decide +kernel) (by decide +kernel) (fun _ => rfl) (fun hf => hf) hr
    obtain ⟨d',rfl,hreplay,-⟩ := hlaw r1 hr1
    exact ⟨d',hr1,hreplay.mpr ⟨rfl,rfl,by decide +kernel⟩⟩

end StreamingCompass
