import StreamingCompass.Transactional.Instrumentation

/-! # Append admission

`PostgresEventStore.append`, the translation of its failures into admission results,
and the two admission gates.
-/
namespace StreamingCompass
open Interleaving

inductive AdmissionVerdict where | admitted | staleWrite | lockTimeout | infrastructureError
deriving DecidableEq, Repr

structure AppendVersionMismatchEvidence where
  expectedCurrentVersion : ℤ
  observedCurrentVersion : ℤ
deriving DecidableEq, Repr

/-- `AppendVersionMismatchEvidence(...)` with its checks. -/
def AppendVersionMismatchEvidence.new (expectedCurrentVersion observedCurrentVersion : ℤ) :
    Except PyException AppendVersionMismatchEvidence :=
  if expectedCurrentVersion < 0 then
    .error (.valueError "expected_current_version must be non-negative")
  else if observedCurrentVersion < 0 then
    .error (.valueError "observed_current_version must be non-negative")
  else if expectedCurrentVersion = observedCurrentVersion then
    .error (.valueError "expected_current_version and observed_current_version must differ")
  else .ok ⟨expectedCurrentVersion,observedCurrentVersion⟩

theorem AppendVersionMismatchEvidence.new_eq_ok {expected observed : ℤ}
    {evidence : AppendVersionMismatchEvidence} :
    new expected observed = .ok evidence ↔
      (0 ≤ expected ∧ 0 ≤ observed ∧ expected ≠ observed) ∧ evidence = ⟨expected,observed⟩ := by
  unfold new
  split
  · rename_i hexpected
    simp [not_le.mpr hexpected]
  · rename_i hexpected
    split
    · rename_i hobserved
      simp [not_le.mpr hobserved]
    · rename_i hobserved
      split
      · rename_i hsame
        simp [hsame]
      · rename_i hdiffer
        simp [not_lt.mp hexpected, not_lt.mp hobserved, hdiffer, eq_comm]

structure StreamAdmissionResult where
  verdict : AdmissionVerdict
  reason : String
  orderId : String
deriving DecidableEq, Repr

structure AdmissionResult where
  verdict : AdmissionVerdict
  reason : String
  candidateEventId : String
  acceptedEventId : Option String
  appendVersionMismatchEvidence : Option AppendVersionMismatchEvidence
deriving DecidableEq, Repr

namespace PostgresEventStore
variable {σ : Type}

def continuityError (expectedNewSequence sequence : ℤ) : PyException := .valueError
  ("Append-time continuity broken: expected event sequence " ++ toString expectedNewSequence ++
    ", but event contains sequence " ++ toString sequence)

def append (candidate : OrderEvent) (expectedCurrentVersion : ℤ) : SqlRoutine σ Unit := do
  let currentVersionInStore ← sql (.selectCurrentVersion candidate.orderId)
  if currentVersionInStore ≠ expectedCurrentVersion then
    Routine.raise (.appendVersionMismatchError expectedCurrentVersion currentVersionInStore)
  else if candidate.sequence ≠ expectedCurrentVersion+1 then
    Routine.raise (continuityError (expectedCurrentVersion+1) candidate.sequence)
  else sql (.insertOrderEvent candidate)

def load (orderId : String) : SqlRoutine σ (List OrderEvent) := do
  let rows ← sql (.selectHistory orderId)
  pure (rows.map rowToOrderEvent)

end PostgresEventStore

/-- `_is_stream_position_conflict`, by the reported constraint name. -/
def isStreamPositionConflict (constraint : Option String) : Bool :=
  constraint == some "uq_order_events_order_id_sequence" ||
    constraint == some "order_events_order_id_sequence_key"

def rejected (candidate : OrderEvent) (verdict : AdmissionVerdict) (reason : String) :
    AdmissionResult :=
  ⟨verdict,reason,candidate.eventId,none,none⟩

/-- What `_append_with_translation` returns for an exception of the append, or the
exception itself. -/
def translateAppendError (gateName : String) (candidate : OrderEvent) (e : PyException) :
    Except PyException AdmissionResult :=
  let stale := "Stale write rejected by " ++ gateName ++ ": " ++ e.str
  match e with
  | .appendVersionMismatchError expected observed => do
    let evidence ← AppendVersionMismatchEvidence.new expected observed
    .ok {rejected candidate .staleWrite stale with appendVersionMismatchEvidence := some evidence}
  | .valueError _ | .moneyValidationError _ | .staleWriteError _ | .appendConflictError _ =>
    .ok (rejected candidate .staleWrite stale)
  | .uniqueViolation constraint _ =>
    if isStreamPositionConflict constraint then .ok (rejected candidate .staleWrite
      ("Append-time stream position conflict rejected by " ++ gateName))
    else .ok (rejected candidate .infrastructureError
      ("Unexpected unique constraint violation during " ++ gateName ++ ": " ++ e.str))
  | .lockNotAvailable _ => .ok (rejected candidate .lockTimeout
      ("Lock was not available during " ++ gateName ++ ": " ++ e.str))
  | .storageInfrastructureError _ => .ok (rejected candidate .infrastructureError
      ("Storage infrastructure failure during " ++ gateName ++ ": " ++ e.str))
  | e => .error e

/-- The result of a version mismatch carries both versions. -/
theorem translateAppendError_mismatch {gateName : String} {candidate : OrderEvent}
    {expected observed : ℤ} {a : AdmissionResult}
    (h : translateAppendError gateName candidate (.appendVersionMismatchError expected observed) =
      .ok a) : ∃ reason, a = {rejected candidate .staleWrite reason with
        appendVersionMismatchEvidence := some ⟨expected,observed⟩} := by
  obtain ⟨evidence,hnew,ha⟩ := bind_eq_ok.mp h
  obtain ⟨-,rfl⟩ := AppendVersionMismatchEvidence.new_eq_ok.mp hnew
  exact ⟨_,(Except.ok.inj ha).symm⟩

def appendWithTranslation {σ : Type} (gateName : String) (candidate : OrderEvent)
    (expectedCurrentVersion : ℤ) : SqlRoutine σ AdmissionResult := do
  match ← Routine.attempt (PostgresEventStore.append candidate expectedCurrentVersion) with
  | .ok () => pure ⟨.admitted,"Event admitted by " ++ gateName,candidate.eventId,
      some candidate.eventId,none⟩
  | .error e => Routine.ofExcept (translateAppendError gateName candidate e)

inductive Gate where | optimistic | pessimistic
deriving DecidableEq, Repr

def Gate.name : Gate → String
  | .optimistic => "PostgreSQL optimistic admission gate"
  | .pessimistic => "PostgreSQL pessimistic admission gate"

/-- `_try_lock_stream`, measured when the invocation is. -/
def tryLockStream (orderId : String) : WriteRoutine Bool :=
  measured .pessimisticAdvisoryTryLockCall (sql (.tryAdvisoryXactLock "order_events_stream" orderId))

namespace StreamAdmissionResult

def notLocking (orderId : String) : StreamAdmissionResult :=
  ⟨.admitted,"PostgreSQL optimistic admission does not pre-lock stream",orderId⟩
def autocommitEnabled (orderId : String) : StreamAdmissionResult :=
  ⟨.infrastructureError,"PostgreSQL pessimistic admission gate requires a " ++
    "transaction-scoped connection, but connection.autocommit is enabled",orderId⟩
def lockAcquired (orderId : String) : StreamAdmissionResult :=
  ⟨.admitted,"Stream lock acquired by PostgreSQL pessimistic admission gate: " ++
    "order_id=" ++ orderId,orderId⟩
def lockNotAvailable (orderId : String) : StreamAdmissionResult :=
  ⟨.lockTimeout,"Stream lock was not available for PostgreSQL pessimistic " ++
    "admission gate: order_id=" ++ orderId,orderId⟩

end StreamAdmissionResult

def prepareStream (gate : Gate) (orderId : String) : WriteRoutine StreamAdmissionResult :=
  match gate with
  | .optimistic => pure (.notLocking orderId)
  | .pessimistic => do
    if ← sql .autocommit then pure (.autocommitEnabled orderId)
    else if ← tryLockStream orderId then
      Routine.modify (fun s => {s with preparedOrderIds := orderId :: s.preparedOrderIds})
      pure (.lockAcquired orderId)
    else pure (.lockNotAvailable orderId)

def appendIfAdmitted (gate : Gate) (candidate : OrderEvent) (expectedCurrentVersion : ℤ) :
    WriteRoutine AdmissionResult :=
  match gate with
  | .optimistic => appendWithTranslation gate.name candidate expectedCurrentVersion
  | .pessimistic => do
    let s ← Routine.get
    if candidate.orderId ∈ s.preparedOrderIds then
      appendWithTranslation gate.name candidate expectedCurrentVersion
    else pure (rejected candidate .infrastructureError
      ("PostgreSQL pessimistic admission gate requires " ++
        "prepare_stream(order_id) before append-time admission: " ++ "order_id=" ++
        candidate.orderId))

end StreamingCompass
