import StreamingCompass.Transactional.ResultShape

/-! # Re-invocation authority

The evaluation of a completed write-side result: authority for one more invocation of
the same request in two narrow profiles, and typed absence of authority otherwise. The
structural checks of fields whose type already says so are left out.
-/
namespace StreamingCompass
open Interleaving

/-- `ReinvocationAuthorization | NoReinvocationAuthority` -/
inductive ReinvocationAuthorityEvaluation where
  | authorization (requestSignature : RequestSignature)
  | noAuthority (requestSignature : RequestSignature) (explanation : String)
deriving DecidableEq, Repr

namespace ReinvocationAuthority

/-- `_validate_request_signature_types`; only the amount can have another type. -/
def validateRequestSignatureTypes (requestSignature : RequestSignature) : Except PyException Unit :=
  match requestSignature.amount with
  | .decimal _ => .ok ()
  | _ => .error (.typeError "request_signature.amount must be Decimal")

/-- `_is_eligible_preparation_lock_timeout` -/
def isEligiblePreparationLockTimeout (requestSignature : RequestSignature)
    (result : PostgresWriteSideResult) : Bool :=
  result.outcome == .admissionRejected &&
  result.acceptedEvent == none &&
  result.idempotencyDecision.verdict == .miss &&
  result.idempotencyDecision.record == none &&
  (match result.streamAdmissionResult with
  | none => false
  | some stream =>
    stream.verdict == .lockTimeout && stream.orderId == requestSignature.orderId) &&
  result.validationDecision == none &&
  result.validationDecisionEvidence == none &&
  result.admissionResult == none

/-- `_is_eligible_append_version_mismatch` -/
def isEligibleAppendVersionMismatch (requestSignature : RequestSignature)
    (result : PostgresWriteSideResult) : Bool :=
  match result.validationDecision, result.admissionResult with
  | some validation, some admission =>
    result.outcome == .admissionRejected &&
    result.acceptedEvent == none &&
    result.idempotencyDecision.verdict == .miss &&
    result.idempotencyDecision.record == none &&
    (match result.streamAdmissionResult with
    | none => false
    | some stream =>
      stream.verdict == .admitted && stream.orderId == requestSignature.orderId) &&
    validation.action == .allow &&
    admission.verdict == .staleWrite &&
    admission.acceptedEventId == none &&
    (match admission.appendVersionMismatchEvidence with
    | none => false
    | some mismatch =>
      decide (mismatch.observedCurrentVersion > mismatch.expectedCurrentVersion)) &&
    admission.candidateEventId == validation.validationResult.candidateEventId
  | _, _ => false

def noAuthorityExplanation : String :=
  "The completed PostgreSQL write-side result is outside the accepted " ++
  "preparation LOCK_TIMEOUT and append version-advance profiles; no " ++
  "Stage 4E authority was issued."

/-- `evaluate_postgres_write_side_reinvocation_authority` -/
def evaluate (requestSignature : RequestSignature) (result : PostgresWriteSideResult) :
    Except PyException ReinvocationAuthorityEvaluation := do
  validateRequestSignatureTypes requestSignature
  if isEligiblePreparationLockTimeout requestSignature result then
    .ok (.authorization requestSignature)
  else if isEligibleAppendVersionMismatch requestSignature result then
    .ok (.authorization requestSignature)
  else .ok (.noAuthority requestSignature noAuthorityExplanation)

/-- The two profiles, as one condition on the result. -/
def Eligible (requestSignature : RequestSignature) (result : PostgresWriteSideResult) : Prop :=
  isEligiblePreparationLockTimeout requestSignature result = true ∨
    isEligibleAppendVersionMismatch requestSignature result = true

/-- A signature of the declared types is always evaluated. -/
theorem evaluate_ok {s : RequestSignature} {amount : Decimal} (hs : s.amount = .decimal amount)
    (result : PostgresWriteSideResult) :
    Eligible s result ∧ evaluate s result = .ok (.authorization s) ∨
      ¬Eligible s result ∧ evaluate s result = .ok (.noAuthority s noAuthorityExplanation) := by
  unfold evaluate Eligible
  simp only [validateRequestSignatureTypes, hs, ok_bind]
  split
  · rename_i h
    exact .inl ⟨.inl h,rfl⟩
  · rename_i h
    split
    · rename_i h'
      exact .inl ⟨.inr h',rfl⟩
    · rename_i h'
      exact .inr ⟨by simp [h, h'],rfl⟩

end ReinvocationAuthority

/-- The gate refused the stream before the candidate was built. -/
structure LockRefused (v : WriteInvocation) (result : PostgresWriteSideResult) : Prop where
  placed : v.placement = .inTransaction
  pessimistic : v.gate = .pessimistic
  refused : result.streamAdmissionResult = some (.lockNotAvailable v.signature.orderId)

/-- The append read another version than the candidate was validated against. -/
structure VersionMoved (s : RequestSignature) (log : SqlLog) (expected observed : ℤ) : Prop where
  loaded : ∃ rows a, rows ∈ histories log ∧
    rehydrate s.orderId (rows.map rowToOrderEvent) = .ok a ∧ a.currentVersion = expected
  read : observed ∈ versions log
  differs : observed ≠ expected

/-- The runtime's decision names the candidate it was asked about. -/
def NamesCandidate (invoke : InvokeValidation) : Prop :=
  ∀ candidate context validation, invoke candidate context = .ok validation →
    validation.decision.validationResult.candidateEventId = candidate.eventId

theorem invokeValidation_namesCandidate (mode : ValidationMode) :
    NamesCandidate (invokeValidation mode) := by
  intro candidate context validation h
  have hnamed : (FullProofValidator.validate candidate context).candidateEventId =
      candidate.eventId := by
    unfold FullProofValidator.validate
    rcases FullProofValidator.check_cases candidate context with ⟨-,hc⟩ | ⟨-,reason,rule,-,hc⟩
    · rw [hc]
      rfl
    · rw [hc]
      rfl
  cases mode with
  | off =>
    obtain rfl := Except.ok.inj h
    rfl
  | strict =>
    simp only [invokeValidation, decideWithRuleEvidence] at h
    cases hb : isBlank candidate.eventId with
    | true =>
      obtain ⟨message,hrefused⟩ := FullProofValidator.validateWithRuleEvidence_blank hb context
      rw [hrefused] at h
      cases h
    | false =>
      rw [FullProofValidator.validateWithRuleEvidence_eq hb] at h
      obtain rfl := Except.ok.inj h
      exact hnamed

section Results
variable {v : WriteInvocation} {s : RequestSignature} {W : WriteSide} {log : SqlLog}
  {result : PostgresWriteSideResult} {c : Candidate}

theorem Validated.names (hv : NamesCandidate W.invokeValidation) (h : Validated W s log c) :
    c.validationDecision.validationResult.candidateEventId = c.event.eventId := by
  obtain ⟨rows,-,-,hc⟩ := h
  obtain ⟨a,-,-,-,hinvoked⟩ := WriteSide.candidateOf_eq_ok hc
  exact hv _ _ _ hinvoked

/-- The one loaded history fixes the expected version. -/
theorem Validated.expected (h : Validated W s log c) {expected observed : ℤ}
    (hm : VersionMoved s log expected observed) : expected = c.expectedCurrentVersion := by
  obtain ⟨rows,hrows,-,hc⟩ := h
  obtain ⟨rows',a',hmem,ha',rfl⟩ := hm.loaded
  rw [hrows, List.mem_singleton] at hmem
  subst hmem
  obtain ⟨a,ha,-,hexpected,-⟩ := WriteSide.candidateOf_eq_ok hc
  obtain rfl := Except.ok.inj (ha'.symm.trans ha)
  exact hexpected.symm

end Results

/-- What a translated failure says about the candidate. -/
structure RejectedAs (e : OrderEvent) (cause : PyException) (a : AdmissionResult) : Prop where
  candidateEventId : a.candidateEventId = e.eventId
  acceptedEventId : a.acceptedEventId = none
  mismatch : ∀ expected observed, cause = .appendVersionMismatchError expected observed →
    a.verdict = .staleWrite ∧ a.appendVersionMismatchEvidence = some ⟨expected,observed⟩
  matched : (∀ expected observed, cause ≠ .appendVersionMismatchError expected observed) →
    a.appendVersionMismatchEvidence = none

theorem translateAppendError_rejectedAs {gateName : String} {e : OrderEvent} {cause : PyException}
    {a : AdmissionResult} (h : translateAppendError gateName e cause = .ok a) :
    RejectedAs e cause a := by
  cases cause with
  | appendVersionMismatchError expected observed =>
    obtain ⟨reason,rfl⟩ := translateAppendError_mismatch h
    refine ⟨rfl,rfl,fun expected' observed' heq => ?_,fun hne => absurd rfl (hne _ _)⟩
    obtain ⟨rfl,rfl⟩ := PyException.appendVersionMismatchError.inj heq
    exact ⟨rfl,rfl⟩
  | uniqueViolation constraint message =>
    simp only [translateAppendError] at h
    split at h <;>
    · obtain rfl := (Except.ok.inj h).symm
      exact ⟨rfl,rfl,fun _ _ heq => (by cases heq),fun _ => rfl⟩
  | _ =>
    simp only [translateAppendError, Except.ok.injEq, reduceCtorEq] at h
    try
      subst h
      exact ⟨rfl,rfl,fun _ _ heq => (by cases heq),fun _ => rfl⟩

/-- The driver raises none of the event store's own errors. -/
def DriverErrors (log : SqlLog) : Prop :=
  ∀ op expected observed, op.isAppend = true →
    (⟨op,.error (.appendVersionMismatchError expected observed)⟩ :
      Exchange Operation Operation.Answer PyException) ∉ log

/-- An append raised the mismatch exactly when the version had moved. -/
theorem AppendRefused.cause_iff {W : WriteSide} {s : RequestSignature} {log : SqlLog} {c : Candidate}
    {cause : PyException} (h : AppendRefused W s log c cause) (hv : Validated W s log c)
    (hd : DriverErrors log) {expected observed : ℤ} :
    cause = .appendVersionMismatchError expected observed ↔ VersionMoved s log expected observed := by
  have hloaded : ∃ rows a, rows ∈ histories log ∧
      rehydrate s.orderId (rows.map rowToOrderEvent) = .ok a ∧
      a.currentVersion = c.expectedCurrentVersion := by
    obtain ⟨rows,hrows,-,hc⟩ := hv
    obtain ⟨a,ha,-,hexpected,-⟩ := WriteSide.candidateOf_eq_ok hc
    exact ⟨rows,a,hrows ▸ List.mem_singleton_self _,ha,hexpected.symm⟩
  cases h with
  | @moved newer older read split built reads differs =>
    constructor
    · intro heq
      obtain ⟨rfl,rfl⟩ := PyException.appendVersionMismatchError.inj heq
      exact ⟨hloaded,by simp [reads],differs⟩
    · intro hm
      have hread := hm.read
      rw [reads, List.mem_singleton] at hread
      rw [hv.expected hm, hread]
  | discontinuous reads breaks =>
    refine ⟨fun heq => (nomatch heq),fun hm => ?_⟩
    have hread := hm.read
    rw [reads, List.mem_singleton] at hread
    exact absurd (hread.trans (hv.expected hm).symm) hm.differs
  | statement appends replied reads =>
    constructor
    · rintro rfl
      exact absurd replied (hd _ _ _ appends)
    · intro hm
      exact absurd ((reads _ hm.read).trans (hv.expected hm).symm) hm.differs

theorem VersionMoved.not_unread {s : RequestSignature} {log : SqlLog} {expected observed : ℤ}
    (h : VersionMoved s log expected observed) : versions log ≠ [] := by
  intro hn
  simpa [hn] using h.read

/-- What a result says when the version had moved. -/
structure Stale (result : PostgresWriteSideResult) (expected observed : ℤ) : Prop where
  outcome : result.outcome = .admissionRejected
  admission : ∃ a, result.admissionResult = some a ∧ a.verdict = .staleWrite ∧
    a.appendVersionMismatchEvidence = some ⟨expected,observed⟩

namespace Delivered
variable {v : WriteInvocation} {log : SqlLog} {result : PostgresWriteSideResult}

/-- A mismatch of the append is reported with both versions. -/
theorem stale (h : Delivered v.writeSide v.signature log result) (hd : DriverErrors log)
    {expected observed : ℤ} (hm : VersionMoved v.signature log expected observed) :
    Stale result expected observed := by
  cases h with
  | decided checked found unread validated => exact absurd unread hm.not_unread
  | notPrepared checked prepared refused placed unread validated => exact absurd unread hm.not_unread
  | blocked checked admitted unread validated blocks => exact absurd unread hm.not_unread
  | notAppended checked prepared admitted validated allowed refused translated =>
    obtain ⟨hverdict,hevidence⟩ := (translateAppendError_rejectedAs translated).mismatch _ _
      ((refused.cause_iff validated hd).mpr hm)
    exact ⟨rfl,_,rfl,hverdict,hevidence⟩
  | accepted checked prepared admitted validated allowed reads =>
    have hread := hm.read
    rw [reads, List.mem_singleton] at hread
    exact absurd (hread.trans (validated.expected hm).symm) hm.differs

/-- The lock was refused, and the result says so, exactly when the first profile matches. -/
theorem eligible_lock_iff (h : Delivered v.writeSide v.signature log result) :
    ReinvocationAuthority.isEligiblePreparationLockTimeout v.signature result = true ↔
      LockRefused v result := by
  cases h with
  | @decided d validation checked found unread validated =>
    have hoff : ¬LockRefused v (.decided d validation) := by
      intro hl
      have hr := hl.refused
      unfold PostgresWriteSideResult.decided at hr
      split at hr <;> cases hr
    have hno : ReinvocationAuthority.isEligiblePreparationLockTimeout v.signature
        (.decided d validation) = false := by
      unfold PostgresWriteSideResult.decided
      split <;> rfl
    simp [hno, hoff]
  | @notPrepared p validation checked prepared refused placed unread validated =>
    constructor
    · intro he
      simp only [ReinvocationAuthority.isEligiblePreparationLockTimeout,
        PostgresWriteSideResult.notPrepared, Bool.and_eq_true, beq_iff_eq] at he
      have hnone : validation = none := by simpa using he.1.1.2
      cases hg : v.gate with
      | optimistic =>
        rw [show v.writeSide.gate = v.gate from rfl, hg] at prepared
        cases prepared
        exact absurd rfl refused
      | pessimistic =>
        rw [show v.writeSide.gate = v.gate from rfl, hg] at prepared
        cases prepared with
        | acquired replied => exact absurd rfl refused
        | refused replied => exact ⟨placed.mp hnone,hg,rfl⟩
    · intro hl
      obtain rfl : validation = none := placed.mpr hl.placed
      obtain rfl : p = .lockNotAvailable v.signature.orderId := Option.some.inj hl.refused
      simp [ReinvocationAuthority.isEligiblePreparationLockTimeout,
        PostgresWriteSideResult.notPrepared, IdempotencyDecision.miss,
        StreamAdmissionResult.lockNotAvailable]
  | @blocked prepared c checked admitted unread validated blocks =>
    have hoff : ¬LockRefused v (.blocked .miss prepared c) := by
      intro hl
      have hp := (admitted _ hl.refused).2
      cases hp
    simpa [ReinvocationAuthority.isEligiblePreparationLockTimeout, PostgresWriteSideResult.blocked]
      using hoff
  | @notAppended p c cause admission checked prepared admitted validated allowed refused translated =>
    have hoff : ¬LockRefused v (.notAppended .miss p c admission) := by
      intro hl
      obtain rfl : p = .lockNotAvailable v.signature.orderId := Option.some.inj hl.refused
      cases admitted
    simpa [ReinvocationAuthority.isEligiblePreparationLockTimeout,
      PostgresWriteSideResult.notAppended] using hoff
  | @accepted p c checked prepared admitted validated allowed reads =>
    have hoff : ¬LockRefused v (.accepted .miss p c ⟨.admitted,"Event admitted by " ++
        v.writeSide.gate.name,c.event.eventId,some c.event.eventId,none⟩) := by
      intro hl
      obtain rfl : p = .lockNotAvailable v.signature.orderId := Option.some.inj hl.refused
      cases admitted
    simpa [ReinvocationAuthority.isEligiblePreparationLockTimeout,
      PostgresWriteSideResult.accepted] using hoff

theorem eligible_mismatch_iff (h : Delivered v.writeSide v.signature log result)
    (hd : DriverErrors log) (hnames : NamesCandidate v.invokeValidation)
    (hgrows : ∀ expected observed, VersionMoved v.signature log expected observed →
      expected < observed) :
    ReinvocationAuthority.isEligibleAppendVersionMismatch v.signature result = true ↔
      ∃ expected observed, VersionMoved v.signature log expected observed := by
  constructor
  · intro he
    cases h with
    | @decided d validation checked found unread validated =>
      exfalso
      unfold PostgresWriteSideResult.decided at he
      split at he <;> cases validation <;> cases he
    | @notPrepared p validation checked prepared refused placed unread validated =>
      cases validation <;> cases he
    | @blocked prepared c checked admitted unread validated blocks => cases he
    | @notAppended p c cause admission checked prepared admitted validated allowed refused translated =>
      have hrejected := translateAppendError_rejectedAs translated
      by_cases hc : ∃ expected observed, cause = .appendVersionMismatchError expected observed
      · obtain ⟨expected,observed,hc⟩ := hc
        exact ⟨expected,observed,(refused.cause_iff validated hd).mp hc⟩
      · push Not at hc
        simp [ReinvocationAuthority.isEligibleAppendVersionMismatch,
          PostgresWriteSideResult.notAppended, hrejected.matched hc] at he
    | @accepted p c checked prepared admitted validated allowed reads =>
      simp [ReinvocationAuthority.isEligibleAppendVersionMismatch,
        PostgresWriteSideResult.accepted] at he
  · rintro ⟨expected,observed,hm⟩
    have hlt := hgrows _ _ hm
    obtain ⟨-,a,ha,hverdict,hevidence⟩ := h.stale hd hm
    cases h with
    | decided checked found unread validated => exact absurd unread hm.not_unread
    | notPrepared checked prepared refused placed unread validated =>
      exact absurd unread hm.not_unread
    | blocked checked admitted unread validated blocks => exact absurd unread hm.not_unread
    | @notAppended p c cause admission checked prepared admitted validated allowed refused translated =>
      obtain rfl := Option.some.inj ha
      have hrejected := translateAppendError_rejectedAs translated
      have hnamed := validated.names hnames
      simp [ReinvocationAuthority.isEligibleAppendVersionMismatch,
        PostgresWriteSideResult.notAppended, IdempotencyDecision.miss, admitted, prepared.orderId,
        allowed, hverdict, hevidence, hlt, hrejected.candidateEventId, hrejected.acceptedEventId,
        hnamed]
    | accepted checked prepared admitted validated allowed reads =>
      obtain rfl := Option.some.inj ha
      cases hverdict

end Delivered
end StreamingCompass
