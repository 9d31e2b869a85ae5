import StreamingCompass.Compass.DecisionReceipt
import StreamingCompass.Interleaving.Program

/-! # The owner of a receipt transaction

`storage/postgres_decision_receipt_transaction_owner.py`: one receipt in a transaction of its
own, on a connection of its own, and the technical evidence it ends with. The owner passes
the receipt on unread, so its type is a parameter.
-/
namespace StreamingCompass
open Interleaving

/-! ## The persistence envelope -/

inductive DecisionReceiptMaterializationProvenance where
  | liveResult | acceptedHistoryReconciliation
deriving DecidableEq, Repr

inductive DecisionReceiptInsertStatus where | inserted | alreadyPresent
deriving DecidableEq, Repr

/-- A row of the current transaction; its serialization version is 1. -/
structure PersistedDecisionReceipt (Receipt : Type) where
  receipt : Receipt
  materializationProvenance : DecisionReceiptMaterializationProvenance
  /-- in microseconds -/
  materializedAt : ℤ

structure DecisionReceiptInsertResult (Receipt : Type) where
  status : DecisionReceiptInsertStatus
  record : PersistedDecisionReceipt Receipt

inductive DecisionReceiptConflictCategory where
  | receiptIdContentConflict | acceptedProducerIdentityConflict
deriving DecidableEq, Repr

structure DecisionReceiptConflictError where
  category : DecisionReceiptConflictCategory
  receiptId : Uuid
  acceptedEventId : Option Uuid
deriving DecidableEq, Repr

/-! ## Exceptions -/

/-- The classes the owner tells apart. -/
inductive ReceiptExceptionClass where
  | idleInTransactionSessionTimeout
  | decisionReceiptConflictError (conflict : DecisionReceiptConflictError)
  | other (name : String)
deriving DecidableEq, Repr

/-- `getattr(error, "sqlstate", None)` -/
inductive SqlstateAttribute where
  | none
  | str (value : String)
  | otherType
deriving DecidableEq, Repr

structure ReceiptException where
  exceptionClass : ReceiptExceptionClass
  sqlstate : SqlstateAttribute
  message : String
deriving DecidableEq, Repr

namespace ReceiptException

/-- `_safe_sqlstate` -/
def safeSqlstate (e : ReceiptException) : Option String :=
  match e.sqlstate with
  | .str value => some value
  | _ => none

/-- `_is_characterized_idle_owner_timeout` -/
def isCharacterizedIdleOwnerTimeout (e : ReceiptException) : Bool :=
  e.exceptionClass == .idleInTransactionSessionTimeout || e.safeSqlstate == some "25P03"

/-- An exception of the owner's own code. -/
def ofPython (e : PyException) : ReceiptException := ⟨.other "ValueError",.none,e.str⟩

end ReceiptException

/-- `a or b` of two optional strings; the empty string is falsy. -/
def orSqlstate (a b : Option String) : Option String :=
  match a with
  | some s => if s.isEmpty then b else a
  | none => b

/-! ## Results -/

inductive DecisionReceiptTransactionDurability where | committed | notCommitted | unknown
deriving DecidableEq, Repr

inductive DecisionReceiptRollbackDisposition where
  | notRequired | confirmed | failed | notPossible
deriving DecidableEq, Repr

inductive DecisionReceiptConnectionDisposition where | closed | discarded | cleanupFailed
deriving DecidableEq, Repr

inductive DecisionReceiptTransactionFailureCategory where
  | connectionAcquisitionFailed
  | autocommitEnabled
  | transactionNotIdle
  | connectionStateUnavailable
  | timeoutConfigurationFailed
  | storeOperationFailed
  | conflict
  | commitFailed
  | idleOwnerTimeout
deriving DecidableEq, Repr

inductive DecisionReceiptCleanupFailureCategory where | rollbackFailed | connectionCloseFailed
deriving DecidableEq, Repr

/-- The arguments of the result's constructor, with its defaults. -/
structure TransactionEvidence (Receipt : Type) where
  durability : DecisionReceiptTransactionDurability
  rollbackDisposition : DecisionReceiptRollbackDisposition
  statementResult : Option (DecisionReceiptInsertResult Receipt) := none
  failureCategory : Option DecisionReceiptTransactionFailureCategory := none
  conflictError : Option DecisionReceiptConflictError := none
  connectionDisposition : Option DecisionReceiptConnectionDisposition := none
  sqlstate : Option String := none
  cleanupFailures : List DecisionReceiptCleanupFailureCategory := []

namespace TransactionEvidence
variable {Receipt : Type} (r : TransactionEvidence Receipt)

/-- Whether the connection ended as one of two dispositions. -/
def endsAs (a b : DecisionReceiptConnectionDisposition) : Bool :=
  r.connectionDisposition == some a || r.connectionDisposition == some b

def carriesStatementOrConflict : Bool := r.statementResult.isSome || r.conflictError.isSome

/-- `_validate_cleanup_coherence` -/
def validateCleanupCoherence : Except PyException Unit := do
  refuseIf ((r.rollbackDisposition == .failed) != r.cleanupFailures.contains .rollbackFailed)
    "rollback disposition FAILED and ROLLBACK_FAILED cleanup evidence must appear together"
  refuseIf ((r.connectionDisposition == some .cleanupFailed) !=
      r.cleanupFailures.contains .connectionCloseFailed)
    ("connection disposition CLEANUP_FAILED and CONNECTION_CLOSE_FAILED cleanup evidence must " ++
      "appear together")

/-- `_validate_acquisition_failure_result` -/
def validateAcquisitionFailureResult : Except PyException Unit := do
  refuseIf (r.durability != .notCommitted) "connection acquisition failure must be NOT_COMMITTED"
  refuseIf r.carriesStatementOrConflict
    "connection acquisition failure cannot contain statement or conflict evidence"
  refuseIf (r.rollbackDisposition != .notRequired)
    "connection acquisition failure requires rollback NOT_REQUIRED"
  refuseIf r.connectionDisposition.isSome
    "connection acquisition failure cannot have connection disposition"

/-- `_validate_committed_result` -/
def validateCommittedResult : Except PyException Unit := do
  refuseIf r.statementResult.isNone "COMMITTED durability requires statement_result"
  refuseIf (r.failureCategory.isSome || r.conflictError.isSome)
    "COMMITTED durability cannot contain failure or conflict evidence"
  refuseIf (r.rollbackDisposition != .notRequired)
    "COMMITTED durability requires rollback disposition NOT_REQUIRED"
  refuseIf (!r.endsAs .closed .cleanupFailed)
    "COMMITTED durability requires connection CLOSED or CLEANUP_FAILED"

/-- `_validate_unknown_result` -/
def validateUnknownResult : Except PyException Unit := do
  refuseIf r.statementResult.isNone "UNKNOWN durability requires statement_result"
  refuseIf (r.failureCategory != some .commitFailed)
    "UNKNOWN durability requires failure category COMMIT_FAILED"
  refuseIf r.conflictError.isSome "UNKNOWN durability cannot contain conflict evidence"
  refuseIf (r.rollbackDisposition != .notPossible)
    "UNKNOWN durability requires rollback disposition NOT_POSSIBLE"
  refuseIf (!r.endsAs .discarded .cleanupFailed)
    "UNKNOWN durability requires connection DISCARDED or CLEANUP_FAILED"

/-- `_validate_rolled_back_acquired_result` -/
def validateRolledBackAcquiredResult (failureName : String) : Except PyException Unit := do
  refuseIf (r.rollbackDisposition != .confirmed && r.rollbackDisposition != .failed)
    (failureName ++ " requires rollback CONFIRMED or FAILED")
  refuseIf r.connectionDisposition.isNone (failureName ++ " requires connection disposition")
  refuseIf (r.rollbackDisposition == .confirmed && !r.endsAs .closed .cleanupFailed)
    (failureName ++ " with confirmed rollback requires connection CLOSED or CLEANUP_FAILED")
  refuseIf (r.rollbackDisposition == .failed && !r.endsAs .discarded .cleanupFailed)
    (failureName ++ " with failed rollback requires connection DISCARDED or CLEANUP_FAILED")

/-- `_validate_conflict_result` -/
def validateConflictResult : Except PyException Unit := do
  refuseIf (r.durability != .notCommitted) "CONFLICT requires NOT_COMMITTED durability"
  refuseIf r.conflictError.isNone "CONFLICT requires conflict_error"
  refuseIf r.statementResult.isSome "CONFLICT cannot contain statement_result"
  r.validateRolledBackAcquiredResult "CONFLICT"

/-- `_validate_idle_owner_timeout_result` -/
def validateIdleOwnerTimeoutResult : Except PyException Unit := do
  refuseIf (r.durability != .notCommitted) "IDLE_OWNER_TIMEOUT requires NOT_COMMITTED durability"
  refuseIf r.conflictError.isSome "IDLE_OWNER_TIMEOUT cannot contain conflict evidence"
  refuseIf (r.rollbackDisposition != .notPossible)
    "IDLE_OWNER_TIMEOUT requires rollback NOT_POSSIBLE"
  refuseIf (!r.endsAs .discarded .cleanupFailed)
    "IDLE_OWNER_TIMEOUT requires connection DISCARDED or CLEANUP_FAILED"

/-- `_validate_precommit_failure_result` -/
def validatePrecommitFailureResult : Except PyException Unit := do
  refuseIf (r.durability != .notCommitted) "pre-commit failure requires NOT_COMMITTED durability"
  refuseIf r.carriesStatementOrConflict
    "pre-commit failure cannot contain statement or conflict evidence"
  r.validateRolledBackAcquiredResult "pre-commit failure"

/-- `_validate_entry_failure_common` -/
def validateEntryFailureCommon (failureName : String) : Except PyException Unit := do
  refuseIf (r.durability != .notCommitted) (failureName ++ " requires NOT_COMMITTED durability")
  refuseIf r.carriesStatementOrConflict
    (failureName ++ " cannot contain statement or conflict evidence")

/-- `_validate_autocommit_entry_failure_result` -/
def validateAutocommitEntryFailureResult : Except PyException Unit := do
  r.validateEntryFailureCommon "AUTOCOMMIT_ENABLED"
  refuseIf (r.rollbackDisposition != .notRequired)
    "AUTOCOMMIT_ENABLED requires rollback NOT_REQUIRED"
  refuseIf (!r.endsAs .closed .cleanupFailed)
    "AUTOCOMMIT_ENABLED requires connection CLOSED or CLEANUP_FAILED"

/-- `_validate_discarded_entry_failure_result` -/
def validateDiscardedEntryFailureResult : Except PyException Unit := do
  r.validateEntryFailureCommon "entry-state failure"
  refuseIf (r.rollbackDisposition != .notPossible)
    "entry-state failure requires rollback NOT_POSSIBLE"
  refuseIf (!r.endsAs .discarded .cleanupFailed)
    "entry-state failure requires connection DISCARDED or CLEANUP_FAILED"

/-- `_validate_result_coherence` -/
def validateResultCoherence : Except PyException Unit := do
  r.validateCleanupCoherence
  let acquisitionFailure := r.failureCategory == some .connectionAcquisitionFailed
  refuseIf (r.connectionDisposition.isNone && !acquisitionFailure)
    "connection_disposition may be None only for connection acquisition failure"
  if acquisitionFailure then r.validateAcquisitionFailureResult
  else match r.durability with
    | .committed => r.validateCommittedResult
    | .unknown => r.validateUnknownResult
    | .notCommitted => match r.failureCategory with
      | some .conflict => r.validateConflictResult
      | some .idleOwnerTimeout => r.validateIdleOwnerTimeoutResult
      | some .timeoutConfigurationFailed | some .storeOperationFailed =>
        r.validatePrecommitFailureResult
      | some .autocommitEnabled => r.validateAutocommitEntryFailureResult
      | some .transactionNotIdle | some .connectionStateUnavailable =>
        r.validateDiscardedEntryFailureResult
      | _ => .error (.valueError
          "NOT_COMMITTED durability requires a supported pre-commit failure category")

end TransactionEvidence

/-- The evidence of one receipt transaction, which is coherent. -/
structure PostgresDecisionReceiptTransactionResult (Receipt : Type)
    extends TransactionEvidence Receipt where
  coherent : toTransactionEvidence.validateResultCoherence = .ok ()

def PostgresDecisionReceiptTransactionResult.make {Receipt : Type} (r : TransactionEvidence Receipt) :
    Except PyException (PostgresDecisionReceiptTransactionResult Receipt) :=
  match h : r.validateResultCoherence with
  | .error e => .error e
  | .ok () => .ok ⟨r,h⟩

theorem PostgresDecisionReceiptTransactionResult.make_ok {Receipt : Type}
    {r : TransactionEvidence Receipt} (h : r.validateResultCoherence = .ok ()) :
    PostgresDecisionReceiptTransactionResult.make r = .ok ⟨r,h⟩ := by
  unfold make
  split
  · rename_i e he
    rw [h] at he
    cases he
  · rfl

/-- The result of an inserted row and an acknowledged commit. -/
def PostgresDecisionReceiptTransactionResult.acknowledged {Receipt : Type} (receipt : Receipt) :
    PostgresDecisionReceiptTransactionResult Receipt :=
  ⟨{ durability := .committed
     rollbackDisposition := .notRequired
     statementResult := some ⟨.inserted,⟨receipt,.liveResult,0⟩⟩
     connectionDisposition := some .closed },rfl⟩

/-! ## The owner -/

inductive TransactionStatus where | idle | active | intrans | inerror | unknown
deriving DecidableEq, Repr

/-- What can return or raise: the factory, and the connection with the store built on it. -/
inductive ReceiptConnectionOperation (Receipt : Type) where
  | connectionFactory
  | autocommit
  | transactionStatus
  | setIdleOwnerTimeout (value : String)
  | insert (receipt : Receipt) (provenance : DecisionReceiptMaterializationProvenance)
  | commit
  | rollback
  | close

abbrev ReceiptConnectionOperation.Answer {Receipt : Type} :
    ReceiptConnectionOperation Receipt → Type
  | .autocommit => Bool
  | .transactionStatus => TransactionStatus
  | .insert _ _ => DecisionReceiptInsertResult Receipt
  | _ => Unit

abbrev ReceiptConnectionReply {Receipt : Type} (op : ReceiptConnectionOperation Receipt) : Type :=
  Reply ReceiptConnectionOperation.Answer ReceiptException op
abbrev ReceiptConnectionLog (Receipt : Type) : Type :=
  Log (ReceiptConnectionOperation Receipt) ReceiptConnectionOperation.Answer ReceiptException
abbrev ReceiptConnectionRoutine (Receipt α : Type) : Type :=
  Routine (ReceiptConnectionOperation Receipt) ReceiptConnectionOperation.Answer ReceiptException
    Unit α

structure PostgresDecisionReceiptTransactionOwner where
  idleInTransactionSessionTimeoutMs : ℕ
  positive : 0 < idleInTransactionSessionTimeoutMs

namespace PostgresDecisionReceiptTransactionOwner
variable {Receipt : Type}

def onConnection (op : ReceiptConnectionOperation Receipt) :
    ReceiptConnectionRoutine Receipt op.Answer := Routine.perform op

def transactionResult (r : TransactionEvidence Receipt) :
    ReceiptConnectionRoutine Receipt (PostgresDecisionReceiptTransactionResult Receipt) :=
  Routine.ofExcept ((PostgresDecisionReceiptTransactionResult.make r).mapError .ofPython)

/-- `_close_connection` -/
def closeConnection (successDisposition : DecisionReceiptConnectionDisposition) :
    ReceiptConnectionRoutine Receipt (DecisionReceiptConnectionDisposition ×
      List DecisionReceiptCleanupFailureCategory × Option String) := do
  match ← Routine.attempt (onConnection .close) with
  | .ok _ => pure (successDisposition,[],none)
  | .error e => pure (.cleanupFailed,[.connectionCloseFailed],e.safeSqlstate)

/-- `_connection_invariant_failure_result` -/
def connectionInvariantFailureResult (error : Option ReceiptException)
    (failureCategory : DecisionReceiptTransactionFailureCategory) (discard : Bool) :
    ReceiptConnectionRoutine Receipt (PostgresDecisionReceiptTransactionResult Receipt) := do
  let (disposition,cleanupFailures,cleanupSqlstate) ←
    closeConnection (if discard then .discarded else .closed)
  transactionResult
    { durability := .notCommitted
      rollbackDisposition := if discard then .notPossible else .notRequired
      failureCategory := some failureCategory
      connectionDisposition := some disposition
      sqlstate := orSqlstate (error.bind (fun e => e.safeSqlstate)) cleanupSqlstate
      cleanupFailures := cleanupFailures }

/-- `_precommit_failure_result` -/
def precommitFailureResult (error : ReceiptException)
    (failureCategory : DecisionReceiptTransactionFailureCategory)
    (conflictError : Option DecisionReceiptConflictError) :
    ReceiptConnectionRoutine Receipt (PostgresDecisionReceiptTransactionResult Receipt) := do
  match ← Routine.attempt (onConnection .rollback) with
  | .error rollbackError => do
    let (disposition,closeFailures,closeSqlstate) ← closeConnection .discarded
    transactionResult
      { durability := .notCommitted
        rollbackDisposition := .failed
        failureCategory := some failureCategory
        conflictError := conflictError
        connectionDisposition := some disposition
        sqlstate := orSqlstate (orSqlstate error.safeSqlstate rollbackError.safeSqlstate)
          closeSqlstate
        cleanupFailures := .rollbackFailed :: closeFailures }
  | .ok _ => do
    let (disposition,cleanupFailures,cleanupSqlstate) ← closeConnection .closed
    transactionResult
      { durability := .notCommitted
        rollbackDisposition := .confirmed
        failureCategory := some failureCategory
        conflictError := conflictError
        connectionDisposition := some disposition
        sqlstate := orSqlstate error.safeSqlstate cleanupSqlstate
        cleanupFailures := cleanupFailures }

/-- `_idle_owner_timeout_result` and `_commit_ambiguous_result`: no client rollback. -/
def discardedResult (durability : DecisionReceiptTransactionDurability)
    (failureCategory : DecisionReceiptTransactionFailureCategory) (error : ReceiptException)
    (statementResult : Option (DecisionReceiptInsertResult Receipt)) :
    ReceiptConnectionRoutine Receipt (PostgresDecisionReceiptTransactionResult Receipt) := do
  let (disposition,cleanupFailures,cleanupSqlstate) ← closeConnection .discarded
  transactionResult
    { durability := durability
      rollbackDisposition := .notPossible
      statementResult := statementResult
      failureCategory := some failureCategory
      connectionDisposition := some disposition
      sqlstate := orSqlstate error.safeSqlstate cleanupSqlstate
      cleanupFailures := cleanupFailures }

def idleOwnerTimeoutResult (error : ReceiptException)
    (statementResult : Option (DecisionReceiptInsertResult Receipt)) :
    ReceiptConnectionRoutine Receipt (PostgresDecisionReceiptTransactionResult Receipt) :=
  discardedResult .notCommitted .idleOwnerTimeout error statementResult

def commitAmbiguousResult (error : ReceiptException)
    (statementResult : DecisionReceiptInsertResult Receipt) :
    ReceiptConnectionRoutine Receipt (PostgresDecisionReceiptTransactionResult Receipt) :=
  discardedResult .unknown .commitFailed error (some statementResult)

/-- `_committed_result` -/
def committedResult (statementResult : DecisionReceiptInsertResult Receipt) :
    ReceiptConnectionRoutine Receipt (PostgresDecisionReceiptTransactionResult Receipt) := do
  let (disposition,cleanupFailures,cleanupSqlstate) ← closeConnection .closed
  transactionResult
    { durability := .committed
      rollbackDisposition := .notRequired
      statementResult := some statementResult
      connectionDisposition := some disposition
      sqlstate := cleanupSqlstate
      cleanupFailures := cleanupFailures }

/-- `_validate_connection_entry` -/
def validateConnectionEntry : ReceiptConnectionRoutine Receipt
    (Option (PostgresDecisionReceiptTransactionResult Receipt)) := do
  match ← Routine.attempt (onConnection .autocommit) with
  | .error e =>
    let failure ← connectionInvariantFailureResult (some e) .connectionStateUnavailable true
    pure (some failure)
  | .ok true =>
    let failure ← connectionInvariantFailureResult none .autocommitEnabled false
    pure (some failure)
  | .ok false =>
    match ← Routine.attempt (onConnection .transactionStatus) with
    | .error e =>
      let failure ← connectionInvariantFailureResult (some e) .connectionStateUnavailable true
      pure (some failure)
    | .ok status =>
      if status ≠ .idle then
        let failure ← connectionInvariantFailureResult none .transactionNotIdle true
        pure (some failure)
      else pure none

/-- A failure before the commit that is no conflict. -/
def failedBeforeCommit (error : ReceiptException)
    (failureCategory : DecisionReceiptTransactionFailureCategory) :
    ReceiptConnectionRoutine Receipt (PostgresDecisionReceiptTransactionResult Receipt) :=
  if error.isCharacterizedIdleOwnerTimeout then idleOwnerTimeoutResult error none
  else precommitFailureResult error failureCategory none

/-- The transaction of a connection that is fit for it. -/
def persistOn (o : PostgresDecisionReceiptTransactionOwner) (receipt : Receipt)
    (provenance : DecisionReceiptMaterializationProvenance) :
    ReceiptConnectionRoutine Receipt (PostgresDecisionReceiptTransactionResult Receipt) := do
  match ← Routine.attempt (onConnection (.setIdleOwnerTimeout
      (toString o.idleInTransactionSessionTimeoutMs ++ "ms"))) with
  | .error e => failedBeforeCommit e .timeoutConfigurationFailed
  | .ok _ => do
    match ← Routine.attempt (onConnection (.insert receipt provenance)) with
    | .error e => match e.exceptionClass with
      | .decisionReceiptConflictError conflict =>
        precommitFailureResult e .conflict (some conflict)
      | _ => failedBeforeCommit e .storeOperationFailed
    | .ok statementResult => do
      match ← Routine.attempt (onConnection .commit) with
      | .error e =>
        if e.isCharacterizedIdleOwnerTimeout then idleOwnerTimeoutResult e (some statementResult)
        else commitAmbiguousResult e statementResult
      | .ok _ => committedResult statementResult

def persist (o : PostgresDecisionReceiptTransactionOwner) (receipt : Receipt)
    (provenance : DecisionReceiptMaterializationProvenance) :
    ReceiptConnectionRoutine Receipt (PostgresDecisionReceiptTransactionResult Receipt) := do
  match ← Routine.attempt (onConnection .connectionFactory) with
  | .error e =>
    transactionResult
      { durability := .notCommitted
        rollbackDisposition := .notRequired
        failureCategory := some .connectionAcquisitionFailed
        sqlstate := e.safeSqlstate }
  | .ok _ => do
    match ← validateConnectionEntry with
    | some entryFailure => pure entryFailure
    | none => o.persistOn receipt provenance

end PostgresDecisionReceiptTransactionOwner
end StreamingCompass
