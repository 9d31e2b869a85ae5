import StreamingCompass.Compass.DecisionReceipt
import StreamingCompass.Projection.ReplayValidator

/-! # Receipts of the read side

`compass/runtime/read_side_outcome_mapping.py` and `read_side_decision_receipt_mapping.py`:
the results of the three read-side producers as semantic outcomes and as receipts.
-/
namespace StreamingCompass

def ReplayValidationStatus.value : ReplayValidationStatus → String
  | .match => "MATCH"
  | .missingProjection => "MISSING_PROJECTION"
  | .drift => "DRIFT"
  | .noAcceptedHistory => "NO_ACCEPTED_HISTORY"

def ProjectionSnapshotReplayValidationStatus.value :
    ProjectionSnapshotReplayValidationStatus → String
  | .match => "MATCH"
  | .missingSnapshot => "MISSING_SNAPSHOT"
  | .noAcceptedHistoryForOrder => "NO_ACCEPTED_HISTORY_FOR_ORDER"
  | .invalidSnapshotBoundary => "INVALID_SNAPSHOT_BOUNDARY"
  | .tailEventSourceContractViolation => "TAIL_EVENT_SOURCE_CONTRACT_VIOLATION"
  | .snapshotAssistedDrift => "SNAPSHOT_ASSISTED_DRIFT"

def ProjectionSnapshotAssistedResolutionStatus.value :
    ProjectionSnapshotAssistedResolutionStatus → String
  | .resolvedFromSnapshot => "RESOLVED_FROM_SNAPSHOT"
  | .missingSnapshot => "MISSING_SNAPSHOT"
  | .invalidSnapshotPrecondition => "INVALID_SNAPSHOT_PRECONDITION"
  | .invalidSnapshotCompatibility => "INVALID_SNAPSHOT_COMPATIBILITY"
  | .tailEventSourceContractViolation => "TAIL_EVENT_SOURCE_CONTRACT_VIOLATION"
  | .tailReplayFailed => "TAIL_REPLAY_FAILED"

/-! ## Semantic outcomes -/

def mapReplayValidationResultToSemanticOutcome (outcomeId : Uuid) (r : ReplayValidationResult) :
    Except PyException SemanticOutcome :=
  mapRuntimeTechnicalStatus outcomeId r.status.value .layer2ReadSide
    (requireReason r.reason "ReplayValidationResult") [("order_id",.str r.orderId)]
    [("result_type",.str "ReplayValidationResult"),
     ("expected_state_present",.bool r.expectedState.isSome),
     ("persisted_state_present",.bool r.persistedState.isSome)]

def mapProjectionSnapshotReplayValidationResultToSemanticOutcome (outcomeId : Uuid)
    (r : ProjectionSnapshotReplayValidationResult) : Except PyException SemanticOutcome :=
  mapRuntimeTechnicalStatus outcomeId r.status.value .snapshotTrust
    (requireReason r.reason "ProjectionSnapshotReplayValidationResult")
    [("order_id",.str r.orderId),("snapshot_id",.ofUuid r.snapshotId),
     ("source_global_position",.ofInt r.sourceGlobalPosition)]
    [("result_type",.str "ProjectionSnapshotReplayValidationResult"),
     ("snapshot_assisted_state_present",.bool r.snapshotAssistedState.isSome),
     ("authority_state_present",.bool r.authorityState.isSome)]

def mapProjectionSnapshotAssistedResolutionResultToSemanticOutcome (outcomeId : Uuid)
    (r : ProjectionSnapshotAssistedResolutionResult) : Except PyException SemanticOutcome :=
  mapRuntimeTechnicalStatus outcomeId r.status.value .snapshotTrust
    (requireReason r.reason "ProjectionSnapshotAssistedResolutionResult")
    [("order_id",.str r.orderId),("snapshot_id",.ofUuid r.snapshotId),
     ("source_global_position",.ofInt r.sourceGlobalPosition)]
    [("result_type",.str "ProjectionSnapshotAssistedResolutionResult"),
     ("resolved_state_present",.bool r.resolvedState.isSome)]

/-! ## Result shapes -/

def validateOrderId (orderId resultType : String) : Except PyException Unit :=
  refuseIf (strip orderId).isEmpty (resultType ++ ".order_id must be a non-empty string")

def validatePresentOrderState (state : Option OrderState) (resultOrderId resultType field : String) :
    Except PyException Unit :=
  match state with
  | none => .ok ()
  | some s => refuseIf (s.orderId != resultOrderId)
      (resultType ++ "." ++ field ++ " order_id mismatch: state.order_id=" ++ pyRepr s.orderId ++
        ", " ++ resultType ++ ".order_id=" ++ pyRepr resultOrderId)

def requirePositiveSnapshotPosition (position : Option ℤ) (resultType status : String) :
    Except PyException Unit :=
  refuseIf (position == some 0) (resultType ++ " " ++ status ++ " requires source_global_position > 0")

/-- `a != b` of two optional states, one of which may be absent. -/
def statesDiffer : Option OrderState → Option OrderState → Bool
  | some a, some b => !a.eq b
  | none, none => false
  | _, _ => true

def validateReplayResultShape (r : ReplayValidationResult) : Except PyException Unit := do
  validateOrderId r.orderId "ReplayValidationResult"
  validatePresentOrderState r.expectedState r.orderId "ReplayValidationResult" "expected_state"
  validatePresentOrderState r.persistedState r.orderId "ReplayValidationResult" "persisted_state"
  match r.status with
  | .match => do
    refuseIf (r.expectedState.isNone || r.persistedState.isNone)
      "ReplayValidationResult MATCH requires expected_state and persisted_state"
    refuseIf (statesDiffer r.expectedState r.persistedState)
      "ReplayValidationResult MATCH requires equal states"
  | .missingProjection => do
    refuseIf r.expectedState.isNone
      "ReplayValidationResult MISSING_PROJECTION requires accepted-history replay state"
    refuseIf r.persistedState.isSome
      "ReplayValidationResult MISSING_PROJECTION requires persisted projection to be absent"
  | .drift => do
    refuseIf (r.expectedState.isNone || r.persistedState.isNone)
      "ReplayValidationResult DRIFT requires expected_state and persisted_state"
    refuseIf (!statesDiffer r.expectedState r.persistedState)
      "ReplayValidationResult DRIFT requires unequal states"
  | .noAcceptedHistory =>
    refuseIf r.expectedState.isSome
      "ReplayValidationResult NO_ACCEPTED_HISTORY requires absent expected_state"

def requireLoadedSnapshotLineage (lineagePresent : Bool) (status : String) :
    Except PyException Unit :=
  refuseIf (!lineagePresent)
    ("ProjectionSnapshotReplayValidationResult " ++ status ++ " requires loaded snapshot lineage")

def validatePairedSnapshotLineage (snapshotId : Option Uuid) (position : Option ℤ)
    (resultType : String) : Except PyException Unit :=
  refuseIf (snapshotId.isSome != position.isSome)
    (resultType ++ " requires snapshot_id and source_global_position to be both present or " ++
      "both absent")

def validateSnapshotReplayResultShape (r : ProjectionSnapshotReplayValidationResult) :
    Except PyException Unit := do
  let resultType := "ProjectionSnapshotReplayValidationResult"
  validateOrderId r.orderId resultType
  validatePresentOrderState r.snapshotAssistedState r.orderId resultType "snapshot_assisted_state"
  validatePresentOrderState r.authorityState r.orderId resultType "authority_state"
  validatePairedSnapshotLineage r.snapshotId r.sourceGlobalPosition resultType
  let lineagePresent := r.snapshotId.isSome
  let snapshotState := r.snapshotAssistedState.isSome
  let authorityState := r.authorityState.isSome
  match r.status with
  | .match => do
    requirePositiveSnapshotPosition r.sourceGlobalPosition resultType r.status.value
    requireLoadedSnapshotLineage lineagePresent r.status.value
    refuseIf (!snapshotState || !authorityState) ("ProjectionSnapshotReplayValidationResult " ++
      "MATCH requires snapshot_assisted_state and authority_state")
    refuseIf (statesDiffer r.snapshotAssistedState r.authorityState)
      "ProjectionSnapshotReplayValidationResult MATCH requires equal states"
  | .missingSnapshot => do
    refuseIf lineagePresent ("ProjectionSnapshotReplayValidationResult " ++
      "MISSING_SNAPSHOT requires absent snapshot lineage")
    refuseIf (snapshotState || !authorityState) ("ProjectionSnapshotReplayValidationResult " ++
      "MISSING_SNAPSHOT requires absent snapshot_assisted_state and present authority_state")
  | .invalidSnapshotBoundary => do
    requireLoadedSnapshotLineage lineagePresent r.status.value
    refuseIf (snapshotState || !authorityState) ("ProjectionSnapshotReplayValidationResult " ++
      "INVALID_SNAPSHOT_BOUNDARY requires absent snapshot_assisted_state and present authority_state")
  | .tailEventSourceContractViolation => do
    requirePositiveSnapshotPosition r.sourceGlobalPosition resultType r.status.value
    requireLoadedSnapshotLineage lineagePresent r.status.value
    refuseIf (!snapshotState || !authorityState) ("ProjectionSnapshotReplayValidationResult " ++
      "TAIL_EVENT_SOURCE_CONTRACT_VIOLATION requires snapshot_assisted_state and authority_state")
  | .snapshotAssistedDrift => do
    requirePositiveSnapshotPosition r.sourceGlobalPosition resultType r.status.value
    requireLoadedSnapshotLineage lineagePresent r.status.value
    refuseIf (!snapshotState || !authorityState) ("ProjectionSnapshotReplayValidationResult " ++
      "SNAPSHOT_ASSISTED_DRIFT requires snapshot_assisted_state and authority_state")
  | .noAcceptedHistoryForOrder =>
    refuseIf (snapshotState || authorityState) ("ProjectionSnapshotReplayValidationResult " ++
      "NO_ACCEPTED_HISTORY_FOR_ORDER requires absent comparison states")

def validateSnapshotAssistedResultShape (r : ProjectionSnapshotAssistedResolutionResult) :
    Except PyException Unit := do
  let resultType := "ProjectionSnapshotAssistedResolutionResult"
  validateOrderId r.orderId resultType
  validatePresentOrderState r.resolvedState r.orderId resultType "resolved_state"
  let snapshotId := r.snapshotId.isSome
  let position := r.sourceGlobalPosition.isSome
  let resolvedState := r.resolvedState.isSome
  let loadedLineage := refuseIf (!snapshotId || !position)
    (resultType ++ " " ++ r.status.value ++ " requires loaded snapshot lineage")
  match r.status with
  | .invalidSnapshotPrecondition =>
    refuseIf (snapshotId || position || resolvedState)
      ("ProjectionSnapshotAssistedResolutionResult INVALID_SNAPSHOT_PRECONDITION requires " ++
        "absent snapshot reference, lineage, and resolved_state")
  | .missingSnapshot =>
    refuseIf (!snapshotId || position || resolvedState)
      ("ProjectionSnapshotAssistedResolutionResult MISSING_SNAPSHOT requires requested " ++
        "snapshot_id, absent source_global_position, and absent resolved_state")
  | .resolvedFromSnapshot => do
    loadedLineage
    requirePositiveSnapshotPosition r.sourceGlobalPosition resultType r.status.value
    refuseIf (!resolvedState) ("ProjectionSnapshotAssistedResolutionResult " ++
      "RESOLVED_FROM_SNAPSHOT requires resolved_state")
  | .invalidSnapshotCompatibility => do
    loadedLineage
    refuseIf resolvedState (resultType ++ " " ++ r.status.value ++ " requires absent resolved_state")
  | .tailEventSourceContractViolation | .tailReplayFailed => do
    loadedLineage
    requirePositiveSnapshotPosition r.sourceGlobalPosition resultType r.status.value
    refuseIf resolvedState (resultType ++ " " ++ r.status.value ++ " requires absent resolved_state")

/-! ## Receipts -/

def replaySubject (r : ReplayValidationResult) : Except PyException DecisionReceiptSubject :=
  match r.status with
  | .noAcceptedHistory => DecisionReceiptSubject.make .order (some r.orderId)
  | _ => DecisionReceiptSubject.make .projection (some r.orderId)

def mapReplayValidationResultToDecisionReceipt (receiptId outcomeId : Uuid)
    (r : ReplayValidationResult) : Except PyException DecisionReceipt := do
  validateReplayResultShape r
  let outcome ← mapReplayValidationResultToSemanticOutcome outcomeId r
  let subject ← replaySubject r
  let correlation ← DecisionReceiptCorrelation.make (some r.orderId) none none none none none
    .readSideObservation
  mapSemanticOutcomeToDecisionReceipt receiptId outcome .readSidePath subject correlation none
    [("technical_status",.str r.status.value),
     ("expected_state_present",.bool r.expectedState.isSome),
     ("persisted_state_present",.bool r.persistedState.isSome)]

/-- `str(result.snapshot_id)` -/
def snapshotIdText : Option Uuid → String
  | some u => u.str
  | none => "None"

def snapshotReplaySubject (r : ProjectionSnapshotReplayValidationResult) :
    Except PyException DecisionReceiptSubject :=
  match r.status with
  | .missingSnapshot => DecisionReceiptSubject.make .snapshot none
  | .match | .invalidSnapshotBoundary => DecisionReceiptSubject.make .snapshot (some (snapshotIdText r.snapshotId))
  | .tailEventSourceContractViolation => DecisionReceiptSubject.make .runtime none
  | .snapshotAssistedDrift => DecisionReceiptSubject.make .projection (some r.orderId)
  | .noAcceptedHistoryForOrder => DecisionReceiptSubject.make .order (some r.orderId)

def mapProjectionSnapshotReplayValidationResultToDecisionReceipt (receiptId outcomeId : Uuid)
    (r : ProjectionSnapshotReplayValidationResult) : Except PyException DecisionReceipt := do
  validateSnapshotReplayResultShape r
  let outcome ← mapProjectionSnapshotReplayValidationResultToSemanticOutcome outcomeId r
  let artifact := r.snapshotId.isSome
  let subject ← snapshotReplaySubject r
  let correlation ← DecisionReceiptCorrelation.make (some r.orderId) none none none r.snapshotId
    r.sourceGlobalPosition (if artifact then .snapshotLineage else .readSideObservation)
  mapSemanticOutcomeToDecisionReceipt receiptId outcome .snapshotTrustPath subject correlation none
    [("technical_status",.str r.status.value),("snapshot_artifact_present",.bool artifact),
     ("snapshot_assisted_state_present",.bool r.snapshotAssistedState.isSome),
     ("authority_state_present",.bool r.authorityState.isSome)]

def snapshotAssistedSubject (r : ProjectionSnapshotAssistedResolutionResult) :
    Except PyException DecisionReceiptSubject :=
  match r.status with
  | .resolvedFromSnapshot => DecisionReceiptSubject.make .projection (some r.orderId)
  | .missingSnapshot | .invalidSnapshotCompatibility =>
    DecisionReceiptSubject.make .snapshot (some (snapshotIdText r.snapshotId))
  | .invalidSnapshotPrecondition | .tailEventSourceContractViolation | .tailReplayFailed =>
    DecisionReceiptSubject.make .runtime none

/-- `_assisted_snapshot_artifact_present` -/
def assistedSnapshotArtifactPresent : ProjectionSnapshotAssistedResolutionStatus → Bool
  | .missingSnapshot | .invalidSnapshotPrecondition => false
  | _ => true

def mapProjectionSnapshotAssistedResolutionResultToDecisionReceipt (receiptId outcomeId : Uuid)
    (r : ProjectionSnapshotAssistedResolutionResult) : Except PyException DecisionReceipt := do
  validateSnapshotAssistedResultShape r
  let outcome ← mapProjectionSnapshotAssistedResolutionResultToSemanticOutcome outcomeId r
  let artifact := assistedSnapshotArtifactPresent r.status
  let subject ← snapshotAssistedSubject r
  let correlation ← DecisionReceiptCorrelation.make (some r.orderId) none none none r.snapshotId
    r.sourceGlobalPosition (if artifact then .snapshotLineage else .readSideObservation)
  mapSemanticOutcomeToDecisionReceipt receiptId outcome .snapshotAssistedPath subject correlation
    none
    [("technical_status",.str r.status.value),("snapshot_artifact_present",.bool artifact),
     ("resolved_state_present",.bool r.resolvedState.isSome)]

end StreamingCompass
