import StreamingCompass.Transactional.Primary

/-! # The results a write invocation can return

Every result with the evidence for it in the invocation's log: the decision it read, the
history it loaded, what the gate answered and why the append failed.
-/
namespace StreamingCompass
open Interleaving

/-- The idempotency decision was read in this invocation. -/
def CheckedAs (s : RequestSignature) (d : IdempotencyDecision) (log : SqlLog) : Prop :=
  ∃ row, (⟨.selectIdempotencyRecord s.requestId,.ok row⟩ : Exchange _ _ _) ∈ log ∧
    PostgresIdempotencyStore.classify s row = .ok d

theorem CheckedAs.cons {s : RequestSignature} {d : IdempotencyDecision} {log : SqlLog}
    (h : CheckedAs s d log) (x : Exchange Operation Operation.Answer PyException) :
    CheckedAs s d (x :: log) := by
  obtain ⟨row,hmem,hd⟩ := h
  exact ⟨row,List.mem_cons_of_mem _ hmem,hd⟩

theorem CheckedAs.mono {s : RequestSignature} {d : IdempotencyDecision} {log log' : SqlLog}
    (h : CheckedAs s d log) (hs : log <:+ log') : CheckedAs s d log' := by
  obtain ⟨row,hmem,hd⟩ := h
  exact ⟨row,hs.subset hmem,hd⟩

/-- The statements of `append`. -/
def Operation.isAppend : Operation → Bool
  | .selectCurrentVersion _ | .insertOrderEvent _ => true
  | _ => false

/-- The histories an invocation loaded, and the versions its append read. -/
def histories (log : SqlLog) : List (List OrderEventRow) :=
  log.filterMap (fun x => match x with
    | ⟨.selectHistory _,.ok rows⟩ => some rows
    | _ => none)

def versions (log : SqlLog) : List ℤ :=
  log.filterMap (fun x => match x with
    | ⟨.selectCurrentVersion _,.ok version⟩ => some version
    | _ => none)

section Logs
variable (log : SqlLog) {op : Operation} {reply : SqlReply op}

/-- Operations that neither load a history nor read a version. -/
def Operation.isPlain : Operation → Bool
  | .selectHistory _ | .selectCurrentVersion _ => false
  | _ => true

theorem histories_cons_plain (h : op.isPlain = true) :
    histories (⟨op,reply⟩ :: log) = histories log := by
  cases op <;> first | rfl | cases h

theorem versions_cons_plain (h : op.isPlain = true) :
    versions (⟨op,reply⟩ :: log) = versions log := by
  cases op <;> first | rfl | cases h

@[simp] theorem histories_load (orderId : String) (rows : List OrderEventRow) :
    histories (⟨.selectHistory orderId,.ok rows⟩ :: log) = rows :: histories log := rfl
@[simp] theorem versions_load (orderId : String) (reply : SqlReply (.selectHistory orderId)) :
    versions (⟨.selectHistory orderId,reply⟩ :: log) = versions log := rfl
@[simp] theorem versions_read (orderId : String) (version : ℤ) :
    versions (⟨.selectCurrentVersion orderId,.ok version⟩ :: log) = version :: versions log := rfl
@[simp] theorem versions_read_error (orderId : String) (e : PyException) :
    versions (⟨.selectCurrentVersion orderId,.error e⟩ :: log) = versions log := rfl
@[simp] theorem histories_read (orderId : String) (reply : SqlReply (.selectCurrentVersion orderId)) :
    histories (⟨.selectCurrentVersion orderId,reply⟩ :: log) = histories log := rfl

end Logs

/-! ## Evidence -/

/-- The candidate of a loaded history. -/
def Built (W : WriteSide) (s : RequestSignature) (log : SqlLog) (c : Candidate) : Prop :=
  ∃ rows, (⟨.selectHistory s.orderId,.ok rows⟩ : Exchange _ _ _) ∈ log ∧
    W.candidateOf s.orderId (rows.map rowToOrderEvent) = .ok c

/-- The candidate of the one history that was loaded. -/
def Validated (W : WriteSide) (s : RequestSignature) (log : SqlLog) (c : Candidate) : Prop :=
  ∃ rows, histories log = [rows] ∧ (⟨.selectHistory s.orderId,.ok rows⟩ : Exchange _ _ _) ∈ log ∧
    W.candidateOf s.orderId (rows.map rowToOrderEvent) = .ok c

/-- What the gate answered on a connection that does not autocommit. -/
inductive Prepared (s : RequestSignature) (log : SqlLog) : Gate → StreamAdmissionResult → Prop where
  | notLocking : Prepared s log .optimistic (.notLocking s.orderId)
  | acquired (replied : (⟨.tryAdvisoryXactLock "order_events_stream" s.orderId,.ok true⟩ :
      Exchange Operation Operation.Answer PyException) ∈ log) :
    Prepared s log .pessimistic (.lockAcquired s.orderId)
  | refused (replied : (⟨.tryAdvisoryXactLock "order_events_stream" s.orderId,.ok false⟩ :
      Exchange Operation Operation.Answer PyException) ∈ log) :
    Prepared s log .pessimistic (.lockNotAvailable s.orderId)

/-- Why an append failed. -/
inductive AppendRefused (W : WriteSide) (s : RequestSignature) (log : SqlLog) (c : Candidate) :
    PyException → Prop where
  | moved {newer older : SqlLog} {observed : ℤ}
    (split : log = newer ++ ⟨.selectCurrentVersion c.event.orderId,.ok observed⟩ :: older)
    (built : Built W s older c) (reads : versions log = [observed])
    (differs : observed ≠ c.expectedCurrentVersion) :
    AppendRefused W s log c (.appendVersionMismatchError c.expectedCurrentVersion observed)
  | discontinuous (reads : versions log = [c.expectedCurrentVersion])
    (breaks : c.event.sequence ≠ c.expectedCurrentVersion+1) :
    AppendRefused W s log c
      (PostgresEventStore.continuityError (c.expectedCurrentVersion+1) c.event.sequence)
  | statement {op : Operation} {cause : PyException} (appends : op.isAppend = true)
    (replied : (⟨op,.error cause⟩ : Exchange Operation Operation.Answer PyException) ∈ log)
    (reads : ∀ n ∈ versions log, n = c.expectedCurrentVersion) : AppendRefused W s log c cause

/-- How a returned result came about. -/
inductive Delivered (W : WriteSide) (s : RequestSignature) (log : SqlLog) :
    PostgresWriteSideResult → Prop where
  | decided {d : IdempotencyDecision} {validation : Option Candidate} (checked : CheckedAs s d log)
    (found : d.verdict ≠ .miss) (unread : versions log = [])
    (validated : ∀ c, validation = some c →
      Validated W s log c ∧ c.validationDecision.action = .allow) :
    Delivered W s log (.decided d validation)
  | notPrepared {p : StreamAdmissionResult} {validation : Option Candidate}
    (checked : CheckedAs s .miss log) (prepared : Prepared s log W.gate p)
    (refused : p.verdict ≠ .admitted) (placed : validation = none ↔ W.placement = .inTransaction)
    (unread : versions log = [])
    (validated : ∀ c, validation = some c →
      Validated W s log c ∧ c.validationDecision.action = .allow) :
    Delivered W s log (.notPrepared .miss p validation)
  | blocked {prepared : Option StreamAdmissionResult} {c : Candidate}
    (checked : CheckedAs s .miss log)
    (admitted : ∀ p, prepared = some p → Prepared s log W.gate p ∧ p.verdict = .admitted)
    (unread : versions log = []) (validated : Validated W s log c)
    (blocks : c.validationDecision.action ≠ .allow) :
    Delivered W s log (.blocked .miss prepared c)
  | notAppended {p : StreamAdmissionResult} {c : Candidate} {cause : PyException}
    {admission : AdmissionResult} (checked : CheckedAs s .miss log)
    (prepared : Prepared s log W.gate p) (admitted : p.verdict = .admitted)
    (validated : Validated W s log c) (allowed : c.validationDecision.action = .allow)
    (refused : AppendRefused W s log c cause)
    (translated : translateAppendError W.gate.name c.event cause = .ok admission) :
    Delivered W s log (.notAppended .miss p c admission)
  | accepted {p : StreamAdmissionResult} {c : Candidate} (checked : CheckedAs s .miss log)
    (prepared : Prepared s log W.gate p) (admitted : p.verdict = .admitted)
    (validated : Validated W s log c) (allowed : c.validationDecision.action = .allow)
    (reads : versions log = [c.expectedCurrentVersion]) :
    Delivered W s log (.accepted .miss p c ⟨.admitted,"Event admitted by " ++ W.gate.name,
      c.event.eventId,some c.event.eventId,none⟩)

section Growing
variable {W : WriteSide} {s : RequestSignature} {log : SqlLog} {op : Operation} {reply : SqlReply op}
  {c : Candidate}

theorem Validated.reads {log' : SqlLog} (h : Validated W s log c) (hs : log <:+ log')
    (hh : histories log' = histories log) : Validated W s log' c := by
  obtain ⟨rows,hrows,hmem,hc⟩ := h
  exact ⟨rows,hh.trans hrows,hs.subset hmem,hc⟩

theorem Validated.built (h : Validated W s log c) : Built W s log c := by
  obtain ⟨rows,-,hmem,hc⟩ := h
  exact ⟨rows,hmem,hc⟩

/-- A candidate is built on a version that is not negative. -/
theorem Validated.expected_nonneg (h : Validated W s log c) : 0 ≤ c.expectedCurrentVersion := by
  obtain ⟨rows,-,-,hc⟩ := h
  obtain ⟨a,ha,-,hexpected,-⟩ := WriteSide.candidateOf_eq_ok hc
  rw [hexpected, (rehydrate_head ha).1]
  exact Int.natCast_nonneg _

theorem Validated.cons (h : Validated W s log c) (hop : op.isPlain = true) :
    Validated W s (⟨op,reply⟩ :: log) c := by
  obtain ⟨rows,hrows,hmem,hc⟩ := h
  exact ⟨rows,(histories_cons_plain log hop).trans hrows,List.mem_cons_of_mem _ hmem,hc⟩

theorem Prepared.mono {log' : SqlLog} {gate : Gate} {p : StreamAdmissionResult}
    (h : Prepared s log gate p) (hs : log <:+ log') : Prepared s log' gate p := by
  cases h with
  | notLocking => exact .notLocking
  | acquired replied => exact .acquired (hs.subset replied)
  | refused replied => exact .refused (hs.subset replied)

theorem Prepared.orderId {gate : Gate} {p : StreamAdmissionResult} (h : Prepared s log gate p) :
    p.orderId = s.orderId := by
  cases h <;> rfl

theorem AppendRefused.cons {cause : PyException} (h : AppendRefused W s log c cause)
    (hop : op.isPlain = true) : AppendRefused W s (⟨op,reply⟩ :: log) c cause := by
  have hv : versions (⟨op,reply⟩ :: log) = versions log := versions_cons_plain log hop
  cases h with
  | @moved newer older observed split built reads differs =>
    have hsplit : (⟨op,reply⟩ :: log : SqlLog) =
        (⟨op,reply⟩ :: newer) ++ ⟨.selectCurrentVersion c.event.orderId,.ok observed⟩ :: older := by
      rw [split]
      rfl
    exact .moved hsplit built (hv.trans reads) differs
  | discontinuous reads breaks => exact .discontinuous (hv.trans reads) breaks
  | statement appends replied reads =>
    exact .statement appends (List.mem_cons_of_mem _ replied) (hv ▸ reads)

theorem Delivered.cons {v : PostgresWriteSideResult} (h : Delivered W s log v)
    (hop : op.isPlain = true) : Delivered W s (⟨op,reply⟩ :: log) v := by
  have hv : versions (⟨op,reply⟩ :: log) = versions log := versions_cons_plain log hop
  have hs : log <:+ ⟨op,reply⟩ :: log := List.suffix_cons _ _
  cases h with
  | decided checked found unread validated =>
    exact .decided (checked.cons _) found (hv.trans unread)
      (fun c hc => ⟨(validated c hc).1.cons hop,(validated c hc).2⟩)
  | notPrepared checked prepared refused placed unread validated =>
    exact .notPrepared (checked.cons _) (prepared.mono hs) refused placed (hv.trans unread)
      (fun c hc => ⟨(validated c hc).1.cons hop,(validated c hc).2⟩)
  | blocked checked admitted unread validated blocks =>
    exact .blocked (checked.cons _) (fun p hp => ⟨(admitted p hp).1.mono hs,(admitted p hp).2⟩)
      (hv.trans unread) (validated.cons hop) blocks
  | notAppended checked prepared admitted validated allowed refused translated =>
    exact .notAppended (checked.cons _) (prepared.mono hs) admitted (validated.cons hop) allowed
      (refused.cons hop) translated
  | accepted checked prepared admitted validated allowed reads =>
    exact .accepted (checked.cons _) (prepared.mono hs) admitted (validated.cons hop) allowed
      (hv.trans reads)

end Growing

theorem translateAppendError_not_admitted {gateName : String} {e : OrderEvent} {exc : PyException}
    {a : AdmissionResult} (h : translateAppendError gateName e exc = .ok a) :
    a.verdict ≠ .admitted := by
  cases exc with
  | appendVersionMismatchError expected observed =>
    obtain ⟨reason,rfl⟩ := translateAppendError_mismatch h
    simp [rejected]
  | uniqueViolation constraint message =>
    simp only [translateAppendError] at h
    split at h <;>
    · obtain rfl := (Except.ok.inj h).symm
      simp [rejected]
  | _ =>
    simp only [translateAppendError, Except.ok.injEq, reduceCtorEq] at h
    try
      subst h
      simp [rejected]

end StreamingCompass
