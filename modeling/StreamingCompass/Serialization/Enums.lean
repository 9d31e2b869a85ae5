import Mathlib.Data.List.Nodup
import StreamingCompass.Compass.DecisionReceipt
import StreamingCompass.Storage.ReceiptTransaction

/-! # Enumerations with string values

The vocabulary of a receipt as `(str, Enum)` classes: `value` of a member and the member
`Class(value)` finds.
-/
namespace StreamingCompass

def SemanticSeverity.value : SemanticSeverity → String
  | .info => "INFO" | .warning => "WARNING" | .error => "ERROR" | .critical => "CRITICAL"

def SemanticRiskLevel.value : SemanticRiskLevel → String
  | .low => "LOW" | .medium => "MEDIUM" | .high => "HIGH" | .critical => "CRITICAL"
  | .unknown => "UNKNOWN"

def SemanticReversibility.value : SemanticReversibility → String
  | .reversible => "REVERSIBLE" | .rebuildable => "REBUILDABLE" | .compensable => "COMPENSABLE"
  | .irreversible => "IRREVERSIBLE" | .unknown => "UNKNOWN"

def DecisionReceiptEvidenceSource.value : DecisionReceiptEvidenceSource → String
  | .writeSideAdmission => "WRITE_SIDE_ADMISSION"
  | .readSidePath => "READ_SIDE_PATH"
  | .snapshotTrustPath => "SNAPSHOT_TRUST_PATH"
  | .snapshotAssistedPath => "SNAPSHOT_ASSISTED_PATH"
  | .runtimeObservation => "RUNTIME_OBSERVATION"
  | .unknown => "UNKNOWN"

def DecisionReceiptSubjectType.value : DecisionReceiptSubjectType → String
  | .order => "ORDER" | .request => "REQUEST" | .candidateEvent => "CANDIDATE_EVENT"
  | .acceptedEvent => "ACCEPTED_EVENT" | .snapshot => "SNAPSHOT" | .projection => "PROJECTION"
  | .runtime => "RUNTIME" | .unknown => "UNKNOWN"

def DecisionReceiptIdentitySource.value : DecisionReceiptIdentitySource → String
  | .acceptedHistory => "ACCEPTED_HISTORY"
  | .candidateEventIdentity => "CANDIDATE_EVENT_IDENTITY"
  | .writeSideCorrelation => "WRITE_SIDE_CORRELATION"
  | .readSideObservation => "READ_SIDE_OBSERVATION"
  | .snapshotLineage => "SNAPSHOT_LINEAGE"
  | .callerContext => "CALLER_CONTEXT"
  | .unknown => "UNKNOWN"

def EventAdmissionDisposition.value : EventAdmissionDisposition → String
  | .admittedToAcceptedHistory => "ADMITTED_TO_ACCEPTED_HISTORY"
  | .matchedExistingAcceptedEvent => "MATCHED_EXISTING_ACCEPTED_EVENT"
  | .idempotencyConflictWithAcceptedHistory => "IDEMPOTENCY_CONFLICT_WITH_ACCEPTED_HISTORY"
  | .semanticAdmissionRejected => "SEMANTIC_ADMISSION_REJECTED"
  | .appendConcurrencyConflict => "APPEND_CONCURRENCY_CONFLICT"
  | .appendTechnicalFailure => "APPEND_TECHNICAL_FAILURE"
  | .commitOutcomeUnresolved => "COMMIT_OUTCOME_UNRESOLVED"
  | .appendAdmissionNotReached => "APPEND_ADMISSION_NOT_REACHED"
  | .unknown => "UNKNOWN"

def DecisionReceiptMaterializationProvenance.value :
    DecisionReceiptMaterializationProvenance → String
  | .liveResult => "LIVE_RESULT"
  | .acceptedHistoryReconciliation => "ACCEPTED_HISTORY_RECONCILIATION"

namespace Serialization

inductive DecisionReceiptFlagState where | true | false | notEvaluated
deriving DecidableEq, Repr

def DecisionReceiptFlagState.value : DecisionReceiptFlagState → String
  | .true => "TRUE" | .false => "FALSE" | .notEvaluated => "NOT_EVALUATED"

/-- A `(str, Enum)` class. -/
class PyEnum (α : Type) where
  /-- `Class.__name__` -/
  typeName : String
  members : List α
  value : α → String
  complete : ∀ a, a ∈ members
  distinct : (members.map value).Nodup

namespace PyEnum
variable {α : Type} [PyEnum α]

/-- `Class(value)`; `none` is a `ValueError`. -/
def ofValue (text : String) : Option α := members.find? (fun a => value a = text)

theorem value_injective {a b : α} (h : value a = value b) : a = b :=
  List.inj_on_of_nodup_map distinct (complete a) (complete b) h

theorem ofValue_eq_some {text : String} {a : α} : ofValue text = some a ↔ value a = text := by
  constructor
  · intro h
    simpa using List.find?_some h
  · rintro rfl
    cases hfind : (ofValue (value a) : Option α) with
    | none => simpa using List.find?_eq_none.mp hfind a (complete a)
    | some b => rw [value_injective (a := b) (by simpa using List.find?_some hfind)]

@[simp] theorem ofValue_value (a : α) : ofValue (value a) = some a := ofValue_eq_some.mpr rfl

end PyEnum

instance : PyEnum SemanticBoundary where
  typeName := "SemanticBoundary"
  members := [.layer1WriteSide,.layer2ReadSide,.snapshotTrust,.idempotency,.concurrencyAdmission,
    .runtimeGovernance]
  value := SemanticBoundary.value
  complete := by intro a; cases a <;> decide
  distinct := by decide

instance : PyEnum SemanticOutcomeCategory where
  typeName := "SemanticOutcomeCategory"
  members := [.valid,.unresolved,.untrusted,.drift,.fallbackRequired,.rebuildRequired,
    .blockRequired,.escalationRequired,.concurrencyUncertain,.retryClassified,.intentInconsistent]
  value := SemanticOutcomeCategory.value
  complete := by intro a; cases a <;> decide
  distinct := by decide

instance : PyEnum SemanticOutcomeCode where
  typeName := "SemanticOutcomeCode"
  members := [.semanticallyValid,.runtimeUnresolved,.derivedStateUntrusted,.driftDetected,
    .fastPathUnavailable,.requiresAuthorityFallback,.requiresRebuild,.requiresOperatorReview,
    .rejectDownstreamUsage,.concurrencyUncertain,.idempotentReplayAllowed,
    .semanticConflictDetected,.intentDriftDetected]
  value := SemanticOutcomeCode.value
  complete := by intro a; cases a <;> decide
  distinct := by decide

instance : PyEnum SemanticSeverity where
  typeName := "SemanticSeverity"
  members := [.info,.warning,.error,.critical]
  value := SemanticSeverity.value
  complete := by intro a; cases a <;> decide
  distinct := by decide

instance : PyEnum SemanticRiskLevel where
  typeName := "SemanticRiskLevel"
  members := [.low,.medium,.high,.critical,.unknown]
  value := SemanticRiskLevel.value
  complete := by intro a; cases a <;> decide
  distinct := by decide

instance : PyEnum SemanticReversibility where
  typeName := "SemanticReversibility"
  members := [.reversible,.rebuildable,.compensable,.irreversible,.unknown]
  value := SemanticReversibility.value
  complete := by intro a; cases a <;> decide
  distinct := by decide

instance : PyEnum DecisionReceiptEvidenceSource where
  typeName := "DecisionReceiptEvidenceSource"
  members := [.writeSideAdmission,.readSidePath,.snapshotTrustPath,.snapshotAssistedPath,
    .runtimeObservation,.unknown]
  value := DecisionReceiptEvidenceSource.value
  complete := by intro a; cases a <;> decide
  distinct := by decide

instance : PyEnum DecisionReceiptSubjectType where
  typeName := "DecisionReceiptSubjectType"
  members := [.order,.request,.candidateEvent,.acceptedEvent,.snapshot,.projection,.runtime,
    .unknown]
  value := DecisionReceiptSubjectType.value
  complete := by intro a; cases a <;> decide
  distinct := by decide

instance : PyEnum DecisionReceiptIdentitySource where
  typeName := "DecisionReceiptIdentitySource"
  members := [.acceptedHistory,.candidateEventIdentity,.writeSideCorrelation,.readSideObservation,
    .snapshotLineage,.callerContext,.unknown]
  value := DecisionReceiptIdentitySource.value
  complete := by intro a; cases a <;> decide
  distinct := by decide

instance : PyEnum EventAdmissionDisposition where
  typeName := "EventAdmissionDisposition"
  members := [.admittedToAcceptedHistory,.matchedExistingAcceptedEvent,
    .idempotencyConflictWithAcceptedHistory,.semanticAdmissionRejected,.appendConcurrencyConflict,
    .appendTechnicalFailure,.commitOutcomeUnresolved,.appendAdmissionNotReached,.unknown]
  value := EventAdmissionDisposition.value
  complete := by intro a; cases a <;> decide
  distinct := by decide

instance : PyEnum DecisionReceiptFlagState where
  typeName := "DecisionReceiptFlagState"
  members := [.true,.false,.notEvaluated]
  value := DecisionReceiptFlagState.value
  complete := by intro a; cases a <;> decide
  distinct := by decide

instance : PyEnum DecisionReceiptMaterializationProvenance where
  typeName := "DecisionReceiptMaterializationProvenance"
  members := [.liveResult,.acceptedHistoryReconciliation]
  value := DecisionReceiptMaterializationProvenance.value
  complete := by intro a; cases a <;> decide
  distinct := by decide

end Serialization
end StreamingCompass
