import StreamingCompass.Core.Order

/-! # Semantic outcomes

`compass/runtime/semantic_outcome.py` and `technical_status_mapping.py`: the semantic
vocabulary, and the table that gives each technical status its meaning.
-/
namespace StreamingCompass

inductive SemanticOutcomeCategory where
  | valid | unresolved | untrusted | drift | fallbackRequired | rebuildRequired | blockRequired
  | escalationRequired | concurrencyUncertain | retryClassified | intentInconsistent
deriving DecidableEq, Repr

inductive SemanticOutcomeCode where
  | semanticallyValid | runtimeUnresolved | derivedStateUntrusted | driftDetected
  | fastPathUnavailable | requiresAuthorityFallback | requiresRebuild | requiresOperatorReview
  | rejectDownstreamUsage | concurrencyUncertain | idempotentReplayAllowed
  | semanticConflictDetected | intentDriftDetected
deriving DecidableEq, Repr

inductive SemanticBoundary where
  | layer1WriteSide | layer2ReadSide | snapshotTrust | idempotency | concurrencyAdmission
  | runtimeGovernance
deriving DecidableEq, Repr

inductive SemanticSeverity where | info | warning | error | critical
deriving DecidableEq, Repr
inductive SemanticRiskLevel where | low | medium | high | critical | unknown
deriving DecidableEq, Repr
inductive SemanticReversibility where
  | reversible | rebuildable | compensable | irreversible | unknown
deriving DecidableEq, Repr

def SemanticOutcomeCategory.value : SemanticOutcomeCategory → String
  | .valid => "VALID"
  | .unresolved => "UNRESOLVED"
  | .untrusted => "UNTRUSTED"
  | .drift => "DRIFT"
  | .fallbackRequired => "FALLBACK_REQUIRED"
  | .rebuildRequired => "REBUILD_REQUIRED"
  | .blockRequired => "BLOCK_REQUIRED"
  | .escalationRequired => "ESCALATION_REQUIRED"
  | .concurrencyUncertain => "CONCURRENCY_UNCERTAIN"
  | .retryClassified => "RETRY_CLASSIFIED"
  | .intentInconsistent => "INTENT_INCONSISTENT"

def SemanticOutcomeCode.value : SemanticOutcomeCode → String
  | .semanticallyValid => "SEMANTICALLY_VALID"
  | .runtimeUnresolved => "RUNTIME_UNRESOLVED"
  | .derivedStateUntrusted => "DERIVED_STATE_UNTRUSTED"
  | .driftDetected => "DRIFT_DETECTED"
  | .fastPathUnavailable => "FAST_PATH_UNAVAILABLE"
  | .requiresAuthorityFallback => "REQUIRES_AUTHORITY_FALLBACK"
  | .requiresRebuild => "REQUIRES_REBUILD"
  | .requiresOperatorReview => "REQUIRES_OPERATOR_REVIEW"
  | .rejectDownstreamUsage => "REJECT_DOWNSTREAM_USAGE"
  | .concurrencyUncertain => "CONCURRENCY_UNCERTAIN"
  | .idempotentReplayAllowed => "IDEMPOTENT_REPLAY_ALLOWED"
  | .semanticConflictDetected => "SEMANTIC_CONFLICT_DETECTED"
  | .intentDriftDetected => "INTENT_DRIFT_DETECTED"

def SemanticBoundary.value : SemanticBoundary → String
  | .layer1WriteSide => "LAYER_1_WRITE_SIDE"
  | .layer2ReadSide => "LAYER_2_READ_SIDE"
  | .snapshotTrust => "SNAPSHOT_TRUST"
  | .idempotency => "IDEMPOTENCY"
  | .concurrencyAdmission => "CONCURRENCY_ADMISSION"
  | .runtimeGovernance => "RUNTIME_GOVERNANCE"

/-- A value of a context, evidence or summary mapping. -/
inductive FieldValue where
  | none
  | bool (value : Bool)
  | int (value : ℤ)
  | str (value : String)
  | uuid (value : Uuid)
deriving DecidableEq, Repr

def FieldValue.ofStr : Option String → FieldValue
  | some s => .str s
  | Option.none => .none
def FieldValue.ofInt : Option ℤ → FieldValue
  | some n => .int n
  | Option.none => .none
def FieldValue.ofUuid : Option Uuid → FieldValue
  | some u => .uuid u
  | Option.none => .none

/-- A mapping by its items, in insertion order. -/
abbrev Fields : Type := List (String × FieldValue)

def Fields.get (m : Fields) (key : String) : Option FieldValue :=
  (m.find? (fun item => item.1 == key)).map (fun item => item.2)

/-- An outcome, with the reason its constructor demands. -/
structure SemanticOutcome where
  outcomeId : Uuid
  ok : Bool
  boundary : SemanticBoundary
  category : SemanticOutcomeCategory
  semanticCode : SemanticOutcomeCode
  severity : SemanticSeverity
  riskLevel : SemanticRiskLevel
  reversibility : SemanticReversibility
  reason : String
  context : Fields
  evidence : Fields
  reasoned : isBlank reason = false
deriving DecidableEq, Repr

structure RuntimeTechnicalStatusMapping where
  ok : Bool
  category : SemanticOutcomeCategory
  semanticCode : SemanticOutcomeCode
  severity : SemanticSeverity
  riskLevel : SemanticRiskLevel
  reversibility : SemanticReversibility
deriving DecidableEq, Repr

/-- `_STATUS_MAPPINGS` -/
def statusMappings : List (String × RuntimeTechnicalStatusMapping) :=
  [("MATCH",⟨true,.valid,.semanticallyValid,.info,.low,.reversible⟩),
   ("RESOLVED_FROM_SNAPSHOT",⟨true,.valid,.semanticallyValid,.info,.low,.reversible⟩),
   ("MISSING_SNAPSHOT",
     ⟨false,.fallbackRequired,.fastPathUnavailable,.warning,.medium,.reversible⟩),
   ("MISSING_PROJECTION",⟨false,.rebuildRequired,.requiresRebuild,.warning,.medium,.rebuildable⟩),
   ("NO_ACCEPTED_HISTORY",⟨false,.unresolved,.runtimeUnresolved,.warning,.unknown,.unknown⟩),
   ("NO_ACCEPTED_HISTORY_FOR_ORDER",
     ⟨false,.unresolved,.runtimeUnresolved,.warning,.unknown,.unknown⟩),
   ("INVALID_SNAPSHOT_BOUNDARY",
     ⟨false,.untrusted,.derivedStateUntrusted,.error,.high,.rebuildable⟩),
   ("INVALID_SNAPSHOT_PRECONDITION",
     ⟨false,.untrusted,.derivedStateUntrusted,.error,.high,.rebuildable⟩),
   ("INVALID_SNAPSHOT_COMPATIBILITY",
     ⟨false,.untrusted,.derivedStateUntrusted,.error,.high,.rebuildable⟩),
   ("TAIL_EVENT_SOURCE_CONTRACT_VIOLATION",
     ⟨false,.unresolved,.runtimeUnresolved,.error,.high,.unknown⟩),
   ("TAIL_REPLAY_FAILED",
     ⟨false,.fallbackRequired,.fastPathUnavailable,.warning,.medium,.reversible⟩),
   ("DRIFT",⟨false,.drift,.driftDetected,.error,.high,.rebuildable⟩),
   ("SNAPSHOT_ASSISTED_DRIFT",⟨false,.drift,.driftDetected,.error,.high,.rebuildable⟩),
   ("WRITE_SIDE_ACCEPTED",⟨true,.valid,.semanticallyValid,.info,.low,.reversible⟩),
   ("COMPASS_VALIDATION_BLOCKED",
     ⟨false,.blockRequired,.semanticConflictDetected,.error,.high,.unknown⟩),
   ("CONCURRENT_STATE_STALENESS",
     ⟨false,.concurrencyUncertain,.concurrencyUncertain,.warning,.medium,.reversible⟩),
   ("WRITE_SIDE_INFRASTRUCTURE_ERROR",
     ⟨false,.escalationRequired,.requiresOperatorReview,.error,.high,.unknown⟩),
   ("OCC_CONFLICT_AFTER_VALIDATION",
     ⟨false,.concurrencyUncertain,.concurrencyUncertain,.warning,.medium,.reversible⟩),
   ("LOCK_TIMEOUT",
     ⟨false,.concurrencyUncertain,.concurrencyUncertain,.warning,.medium,.reversible⟩),
   ("IDEMPOTENT_REPLAY",
     ⟨true,.retryClassified,.idempotentReplayAllowed,.info,.low,.reversible⟩),
   ("IDEMPOTENCY_CONFLICT",
     ⟨false,.blockRequired,.semanticConflictDetected,.error,.high,.unknown⟩)]

/-- `_mapping_for_status` after `_normalize_technical_status` -/
def mappingForStatus (status : String) : Except PyException RuntimeTechnicalStatusMapping :=
  if (strip status).isEmpty then
    .error (.valueError "technical_status must be a non-empty string")
  else match statusMappings.find? (fun m => m.1 == status) with
    | some m => .ok m.2
    | none => .error (.valueError ("Unsupported runtime technical status: " ++ status))

/-- `_merge_technical_status_into_evidence` -/
def mergeTechnicalStatusIntoEvidence (status : String) (evidence : Fields) :
    Except PyException Fields :=
  match evidence.get "technical_status" with
  | some existing =>
    if existing ≠ .none ∧ existing ≠ .str status then
      .error (.valueError "evidence technical_status must match mapped technical_status")
    else .ok (evidence.filter (fun item => item.1 != "technical_status") ++
      [("technical_status",.str status)])
  | none => .ok (evidence ++ [("technical_status",.str status)])

/-- `SemanticOutcome(...)` -/
def SemanticOutcome.make (outcomeId : Uuid) (m : RuntimeTechnicalStatusMapping)
    (boundary : SemanticBoundary) (reason : String) (context evidence : Fields) :
    Except PyException SemanticOutcome :=
  if h : isBlank reason = false then
    .ok ⟨outcomeId,m.ok,boundary,m.category,m.semanticCode,m.severity,m.riskLevel,
      m.reversibility,reason,context,evidence,h⟩
  else .error (.valueError "reason must be a non-empty string")

def mapRuntimeTechnicalStatus (outcomeId : Uuid) (technicalStatus : String)
    (boundary : SemanticBoundary) (reason : String) (context evidence : Fields) :
    Except PyException SemanticOutcome := do
  let m ← mappingForStatus technicalStatus
  let merged ← mergeTechnicalStatusIntoEvidence technicalStatus evidence
  SemanticOutcome.make outcomeId m boundary reason context merged

/-- `_require_reason` -/
def requireReason (reason : String) (source : String) : String :=
  if (strip reason).isEmpty then "Missing explicit reason from " ++ source ++ "." else reason

theorem isBlank_false_of_strip {s : String} (h : (strip s).isEmpty = false) : isBlank s = false := by
  have hne : s.toList.isEmpty = false := by
    cases hl : s.toList with
    | nil => simp [strip, hl] at h
    | cons c cs => rfl
  rw [isBlank, hne, h, Bool.or_self]

theorem isBlank_append {s t : String} (h : isBlank s = false) : isBlank (s ++ t) = false := by
  have hs : ¬∀ c ∈ s.toList, isPySpace c = true := by
    rw [← strip_eq_nil_iff]
    intro hn
    simp [isBlank, hn] at h
  push Not at hs
  obtain ⟨c,hc,hspace⟩ := hs
  refine isBlank_eq_false (c := c) ?_ (by simpa using hspace)
  rw [String.toList_append]
  exact List.mem_append_left _ hc

theorem requireReason_not_blank (reason source : String) :
    isBlank (requireReason reason source) = false := by
  unfold requireReason
  split
  · exact isBlank_append (isBlank_append (by decide))
  · rename_i h
    exact isBlank_false_of_strip (by simpa using h)

/-- A known status with a reason always has an outcome. -/
theorem mapRuntimeTechnicalStatus_ok {outcomeId : Uuid} {status : String}
    {boundary : SemanticBoundary} {reason : String} {context evidence : Fields}
    {m : RuntimeTechnicalStatusMapping} (hm : mappingForStatus status = .ok m)
    (he : evidence.get "technical_status" = none) (hr : isBlank reason = false) :
    mapRuntimeTechnicalStatus outcomeId status boundary reason context evidence =
      .ok ⟨outcomeId,m.ok,boundary,m.category,m.semanticCode,m.severity,m.riskLevel,
        m.reversibility,reason,context,evidence ++ [("technical_status",.str status)],hr⟩ := by
  simp [mapRuntimeTechnicalStatus, hm, mergeTechnicalStatusIntoEvidence, he, SemanticOutcome.make,
    hr, bind, Except.bind]

end StreamingCompass
