import StreamingCompass.Compass.ReinvocationAuthority
import StreamingCompass.Concurrency.Atomicity

/-! # Re-invocation authority under interleaving

Authority follows the two ways in which other writers can stop an invocation that found
no record, and an invocation that receives it has committed nothing.
-/
namespace StreamingCompass
open Interleaving

theorem failedCheck_error {relation : String} {checks : List (String × Bool)} {e : PyException}
    (h : failedCheck relation checks = some e) : ∃ sqlstate message, e = .databaseError sqlstate message := by
  induction checks with
  | nil => cases h
  | cons check rest ih =>
    simp only [failedCheck] at h
    split at h
    · exact ih h
    · exact ⟨_,_,(Option.some.inj h).symm⟩

section Server
variable {ι : Type} [DecidableEq ι] [Fintype ι] {D : Database ι} {w w' : World ι} {i : ι}

/-- What the server reports for a statement of the append. -/
inductive AppendReports (w : World ι) (i : ι) : Operation → PyException → Prop where
  | database {op : Operation} (sqlstate message : String) :
    AppendReports w i op (.databaseError sqlstate message)
  | sameId {op : Operation} : AppendReports w i op (duplicateKey "order_events_pkey")
  | samePlace {e : OrderEvent} {row : OrderEventRow} (visible : row ∈ (w.visible i).orderEvents)
    (orderId : row.orderId = e.orderId) (sequence : row.sequence = e.sequence) :
    AppendReports w i (.insertOrderEvent e) (duplicateKey "uq_order_events_order_id_sequence")

theorem insertOrderEvent_error {e : OrderEvent} {position : ℕ} {cause : PyException}
    (h : insertOrderEvent w i position e = some (.error cause)) :
    AppendReports w i (.insertOrderEvent e) cause := by
  simp only [insertOrderEvent] at h
  split at h
  · rename_i err hn
    obtain rfl := Except.error.inj (Option.some.inj h)
    obtain ⟨sqlstate,message,rfl⟩ := Numeric.ofDecimal_error hn
    exact .database _ _
  · split at h
    · rename_i err hc
      obtain rfl := Except.error.inj (Option.some.inj h)
      obtain ⟨sqlstate,message,rfl⟩ := failedCheck_error hc
      exact .database _ _
    · split at h
      · obtain rfl := Except.error.inj (Option.some.inj h)
        exact .sameId
      · split at h
        · cases h
        · split at h
          · rename_i hplace
            obtain rfl := Except.error.inj (Option.some.inj h)
            obtain ⟨row,hrow,hr⟩ := List.any_eq_true.mp hplace
            obtain ⟨horder,hsequence⟩ := of_decide_eq_true hr
            exact .samePlace hrow horder hsequence
          · split at h <;> cases h

theorem exec_append_error {op : Operation} (hop : op.isAppend = true) {position : ℕ}
    {cause : PyException} (h : exec D position i w op = some (.error cause,w')) :
    AppendReports w i op cause := by
  have hs : op.isStatement = true := by cases op <;> first | rfl | cases hop
  rw [exec_statement hs] at h
  simp only [statement] at h
  split at h
  · obtain rfl := Except.error.inj (Prod.mk.inj (Option.some.inj h)).1
    exact .database _ _
  · split at h
    · obtain rfl := Except.error.inj (Prod.mk.inj (Option.some.inj h)).1
      exact .database _ _
    · split at h
      · cases h
      · rename_i e heffect
        obtain rfl := Except.error.inj (Prod.mk.inj (Option.some.inj h)).1
        cases op with
        | selectCurrentVersion orderId => cases heffect
        | insertOrderEvent e => exact insertOrderEvent_error heffect
        | _ => cases hop
      · cases h

theorem exec_ne_mismatch {op : Operation} (hop : op.isAppend = true) {position : ℕ}
    {expected observed : ℤ} :
    exec D position i w op ≠ some (.error (.appendVersionMismatchError expected observed),w') :=
  fun h => nomatch exec_append_error hop h

end Server

variable {ι : Type} [DecidableEq ι] [Fintype ι] {D : Database ι} {faulty : ι → Prop}
  {invocations : ι → Invocation} {t : Tables} {c : System ι} {i : ι} {v : WriteInvocation}

/-- The history a candidate was built on, where it was loaded. -/
structure BuiltOn (D : Database ι) (faulty : ι → Prop) (invocations : ι → Invocation) (c c₂ : System ι)
    (i : ι) (orderId : String) (candidate : Candidate) : Prop where
  loads : ∃ next w, Performed (D.machine faulty) (System.start .empty invocations) c c₂ i
    (.selectHistory orderId) next (.ok (c₂.world.tables.history orderId)) w
  named : candidate.event.orderId = orderId
  sequence : candidate.event.sequence = candidate.expectedCurrentVersion+1
  loaded : candidate.expectedCurrentVersion = (c₂.world.tables.stream orderId).length

namespace Reachable

/-- Without faults every error is the server's. -/
theorem driverErrors (h : Reachable D faulty t invocations c) (hf : ¬faulty i) :
    DriverErrors (c.log i) := by
  intro op expected observed hop hmem
  obtain ⟨c₁,next,w,hp,-⟩ := Reaches.performed_of_mem h rfl hmem
  generalize hr : (Except.error (.appendVersionMismatchError expected observed) : SqlReply op) = reply
    at hp
  cases hp.executes with
  | executed fresh runs =>
    subst hr
    exact exec_ne_mismatch hop runs
  | failed allowed mayFail => exact hf allowed

theorem built (h : Reachable D faulty .empty invocations c) (hv : invocations i = .write v)
    {candidate : Candidate} (hb : Built v.writeSide v.signature (c.log i) candidate) :
    ∃ c₂, BuiltOn D faulty invocations c c₂ i v.signature.orderId candidate := by
  obtain ⟨rows,hmem,hc⟩ := hb
  obtain ⟨a,ha,hbuild,hexpected,-⟩ := WriteSide.candidateOf_eq_ok hc
  obtain ⟨c₂,next,w,hp,-,hrows⟩ := h.loaded hv hmem
  have hsound := (of_performed hp).sound .initial .empty
  have hlegal := hsound.legal_events v.signature.orderId
  subst hrows
  obtain ⟨-,rfl⟩ := hlegal.eq_of_rehydrate ha
  have he := handledEvent hbuild
  refine ⟨c₂,⟨next,w,hp⟩,he.orderId.trans (LegalHistory.aggregateOf_orderId ..),?_,?_⟩
  · rw [he.sequence, hexpected]
  · rw [hexpected, hlegal.aggregateOf_currentVersion, hsound.events_eq, List.length_map]

theorem versionRead (h : Reachable D faulty .empty invocations c) (hv : invocations i = .write v)
    {orderId : String} {version : ℤ} {next : SqlReply (.selectCurrentVersion orderId) → _} {w : World ι}
    (running : c.program i = some (.call (.selectCurrentVersion orderId) next))
    (executes : SqlStep D faulty i c.world (.selectCurrentVersion orderId) (.ok version) w) :
    version = (c.world.tables.stream orderId).length := by
  have hg := h.guard running
  rw [hv] at hg
  rw [← (h.sound .initial .empty).currentVersion_eq, ← (h.mirrors running).visible_eq hg.2.noRows]
  exact SqlStep.answer executes rfl (fun _ => rfl)

/-- A version that moved has grown: the append reads after the load, and streams only grow. -/
theorem version_advances (h : Reachable D faulty .empty invocations c)
    (hv : invocations i = .write v) {d : PostgresWriteSideDelivery}
    (hd : c.delivered i = some (.ok d)) (hdriver : DriverErrors (c.log i)) {expected observed : ℤ}
    (hm : VersionMoved v.signature (c.log i) expected observed) : expected < observed := by
  have hdelivered := h.delivers hv hd
  generalize d.producerValue.result = result at hdelivered
  cases hdelivered with
  | decided checked found unread validated => exact absurd unread hm.not_unread
  | notPrepared checked prepared refused placed unread validated => exact absurd unread hm.not_unread
  | blocked checked admitted unread validated blocks => exact absurd unread hm.not_unread
  | accepted checked prepared admitted validated allowed reads =>
    have hread := hm.read
    rw [reads, List.mem_singleton] at hread
    exact absurd (hread.trans (validated.expected hm).symm) hm.differs
  | @notAppended p c' cause admission checked prepared admitted validated allowed refused translated =>
    obtain rfl := (refused.cause_iff validated hdriver).mpr hm
    cases refused with
    | statement appends replied reads => exact absurd replied (hdriver _ _ _ appends)
    | @moved newer older read split built reads differs =>
      obtain ⟨c₁,next,w,hp,hold⟩ := Reaches.performed h rfl (l := newer) split
      obtain ⟨c₂,hb⟩ := (of_performed hp).built hv (hold ▸ built)
      have hread := (of_performed hp).versionRead hv hp.running hp.executes
      obtain ⟨_,_,hp₂⟩ := hb.loads
      have hgrow := (Tables.stream_grow (performed_grows hp₂).1 v.signature.orderId).length_le
      have hloaded := hb.loaded
      have hne := hm.differs
      rw [hb.named] at hread
      omega

/-- Authority is issued exactly for a lock refused before validation and for a version that
moved before the append, always with nothing committed; the evaluation never fails. -/
theorem reinvocation_authority (h : Reachable D faulty .empty invocations c)
    (hv : invocations i = .write v) {amount : Decimal} (hamount : v.signature.amount = .decimal amount)
    (hnames : NamesCandidate v.invokeValidation) (hdriver : faulty i → DriverErrors (c.log i))
    {d : PostgresWriteSideDelivery} (hd : c.delivered i = some (.ok d)) :
    ∃ evaluation,
      ReinvocationAuthority.evaluate v.signature d.producerValue.result = .ok evaluation ∧
      (evaluation = .authorization v.signature ∨
        evaluation = .noAuthority v.signature ReinvocationAuthority.noAuthorityExplanation) ∧
      (evaluation = .authorization v.signature ↔ LockRefused v d.producerValue.result ∨
        ∃ expected observed, VersionMoved v.signature (c.log i) expected observed) ∧
      (evaluation = .authorization v.signature → c.AddedNothing .empty i) ∧
      ∀ expected observed, VersionMoved v.signature (c.log i) expected observed →
        expected < observed ∧ Stale d.producerValue.result expected observed := by
  have hdriver : DriverErrors (c.log i) := by
    by_cases hf : faulty i
    · exact hdriver hf
    · exact h.driverErrors hf
  have hdelivered := h.delivers hv hd
  have hgrows : ∀ expected observed, VersionMoved v.signature (c.log i) expected observed →
      expected < observed := fun _ _ hm => h.version_advances hv hd hdriver hm
  have heligible : ReinvocationAuthority.Eligible v.signature d.producerValue.result ↔
      LockRefused v d.producerValue.result ∨
        ∃ expected observed, VersionMoved v.signature (c.log i) expected observed :=
    or_congr hdelivered.eligible_lock_iff (hdelivered.eligible_mismatch_iff hdriver hnames hgrows)
  have hstale : ∀ expected observed, VersionMoved v.signature (c.log i) expected observed →
      expected < observed ∧ Stale d.producerValue.result expected observed :=
    fun _ _ hm => ⟨hgrows _ _ hm,hdelivered.stale hdriver hm⟩
  rcases ReinvocationAuthority.evaluate_ok hamount d.producerValue.result with
    ⟨he,heval⟩ | ⟨he,heval⟩
  · refine ⟨_,heval,.inl rfl,iff_of_true rfl (heligible.mp he),fun _ => ?_,hstale⟩
    have hrejected : d.producerValue.result.outcome ≠ .accepted := by
      rcases he with hl | hm
      · simp only [ReinvocationAuthority.isEligiblePreparationLockTimeout, Bool.and_eq_true,
          beq_iff_eq] at hl
        simp [hl.1.1.1.1.1.1.1]
      · obtain ⟨_,_,hm⟩ := (hdelivered.eligible_mismatch_iff hdriver hnames hgrows).mp hm
        simp [(hdelivered.stale hdriver hm).outcome]
    have hends := (h.finishes hv hd).1
    exact h.addedNothing (hends.ended hrejected).uncommitted
  · refine ⟨_,heval,.inr rfl,iff_of_false (fun hn => (by cases hn))
      (fun hl => he (heligible.mpr hl)),fun hn => (by cases hn),hstale⟩

end Reachable

/-! Three creations of one order: the second commits between the reads and the append of
the first, and holds the stream lock when the third asks for it. -/
namespace RacingReinvocation

def server : Database (Fin 3) := ⟨fun _ => false,fun _ => 0⟩

def signature (requestId : String) : RequestSignature :=
  ⟨requestId,.create,"A",.decimal (.ofCents false 1000)⟩

def stale : WriteInvocation :=
  ⟨.preTransaction,.optimistic,invokeValidation .strict,signature "r-0",⟨0,0⟩,false,none⟩
def winner : WriteInvocation :=
  ⟨.inTransaction,.pessimistic,invokeValidation .strict,signature "r-1",⟨1,0⟩,false,none⟩
def refused : WriteInvocation :=
  ⟨.inTransaction,.pessimistic,invokeValidation .off,signature "r-2",⟨2,0⟩,false,none⟩

def calls : Fin 3 → Invocation
  | 0 => .write stale
  | 1 => .write winner
  | 2 => .write refused

def final : System (Fin 3) :=
  ((System.start .empty calls).drive server.serve
    [0,0,1,1,1,1,2,2,2,2,2,1,1,1,1,1,0,0,0,0,0]).get (by decide +kernel)

theorem reachable : Reachable server (fun _ => False) .empty calls final :=
  .of_drive (Option.some_get _).symm

theorem moved : VersionMoved stale.signature (final.log 0) 0 1 :=
  ⟨⟨[],aggregateOf "A" [],by decide +kernel,by decide +kernel,rfl⟩,by decide +kernel,by decide⟩

end RacingReinvocation

/-- The first and the third creation receive authority. -/
theorem Reachable.reinvocation_authority_racing :
    (∃ d, RacingReinvocation.final.delivered 0 = some (.ok d) ∧
      ReinvocationAuthority.evaluate RacingReinvocation.stale.signature d.producerValue.result =
        .ok (.authorization RacingReinvocation.stale.signature)) ∧
    ∃ d, RacingReinvocation.final.delivered 2 = some (.ok d) ∧
      ReinvocationAuthority.evaluate RacingReinvocation.refused.signature d.producerValue.result =
        .ok (.authorization RacingReinvocation.refused.signature) := by
  have hstale : (RacingReinvocation.final.delivered 0).map (fun r => r.map (fun d =>
      d.producerValue.result.outcome)) = some (.ok .admissionRejected) := by decide +kernel
  have hrefused : (RacingReinvocation.final.delivered 2).map (fun r => r.map (fun d =>
      d.producerValue.result.streamAdmissionResult)) =
        some (.ok (some (.lockNotAvailable "A"))) := by decide +kernel
  constructor
  · obtain ⟨r,hr,hr'⟩ := Option.map_eq_some_iff.mp hstale
    cases r with
    | error e => cases hr'
    | ok d =>
      obtain ⟨evaluation,heval,-,hiff,-⟩ := reinvocation_authority RacingReinvocation.reachable
        (v := RacingReinvocation.stale) rfl rfl (invokeValidation_namesCandidate _)
        (fun hf => hf.elim) hr
      exact ⟨d,hr,heval.trans (by rw [hiff.mpr (.inr ⟨0,1,RacingReinvocation.moved⟩)])⟩
  · obtain ⟨r,hr,hr'⟩ := Option.map_eq_some_iff.mp hrefused
    cases r with
    | error e => cases hr'
    | ok d =>
      obtain ⟨evaluation,heval,-,hiff,-⟩ := reinvocation_authority RacingReinvocation.reachable
        (v := RacingReinvocation.refused) rfl rfl (invokeValidation_namesCandidate _)
        (fun hf => hf.elim) hr
      exact ⟨d,hr,heval.trans (by rw [hiff.mpr (.inl ⟨rfl,rfl,Except.ok.inj hr'⟩)])⟩

end StreamingCompass
