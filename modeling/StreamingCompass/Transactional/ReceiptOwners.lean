import StreamingCompass.Compass.WriteSideReceipt
import StreamingCompass.Storage.ReceiptTransaction
import StreamingCompass.Transactional.InvocationOwner

/-! # Custody of decision receipts

The objects a completed invocation retains for its receipt: the owner of its
materialization, the owner of its persistence and the deliveries they publish, each
delivery with the checks of its `__post_init__`.
-/
namespace StreamingCompass

def PyException.assertionError (message : String) : PyException := .other "AssertionError" message

def PyException.runtimeLifecycleError (message : String) : PyException :=
  .other "PostgresWriteSideDecisionReceiptRuntimeLifecycleError" message

/-! ## Eligibility -/

inductive PostgresWriteSideDecisionReceiptPersistenceEligibility where
  | eligibleAccepted
  | eligibleIdempotentReplay
  | eligibleIdempotencyConflict
  | eligibleValidationBlocked
  | eligiblePreparationLockTimeout
  | ineligible
deriving DecidableEq, Repr

def PostgresWriteSideDecisionReceiptPersistenceEligibility.isEligible
    (e : PostgresWriteSideDecisionReceiptPersistenceEligibility) : Bool := e != .ineligible

/-- `evaluate_postgres_write_side_decision_receipt_persistence_eligibility` -/
def evaluatePersistenceEligibility (result : PostgresWriteSideResult) :
    PostgresWriteSideDecisionReceiptPersistenceEligibility :=
  match result.outcome with
  | .accepted => .eligibleAccepted
  | .replay => .eligibleIdempotentReplay
  | .conflict => .eligibleIdempotencyConflict
  | .validationBlocked => .eligibleValidationBlocked
  | .admissionRejected =>
    match result.admissionResult, result.streamAdmissionResult with
    | none, some stream =>
      if stream.verdict = .lockTimeout then .eligiblePreparationLockTimeout else .ineligible
    | _, _ => .ineligible

/-! ## Materialization -/

inductive MaterializationStatus where | materialized | materializationFailed
deriving DecidableEq, Repr

inductive MaterializationFailureCategory where | typeError | valueError
deriving DecidableEq, Repr

/-- `PostgresWriteSideDecisionReceiptMaterializationDelivery` -/
structure MaterializationDelivery where
  businessResult : PyObject PostgresWriteSideResult
  status : MaterializationStatus
  receipt : Option DecisionReceipt
  failureCategory : Option MaterializationFailureCategory

def MaterializationDelivery.make (businessResult : PyObject PostgresWriteSideResult)
    (status : MaterializationStatus) (receipt : Option DecisionReceipt)
    (failureCategory : Option MaterializationFailureCategory) :
    Except PyException MaterializationDelivery :=
  match status with
  | .materialized =>
    if receipt.isNone then
      .error (.typeError "receipt must be DecisionReceipt when status is MATERIALIZED")
    else if failureCategory.isSome then
      .error (.valueError "failure_category must be None when status is MATERIALIZED")
    else .ok ⟨businessResult,status,receipt,failureCategory⟩
  | .materializationFailed =>
    if receipt.isSome then
      .error (.valueError "receipt must be None when status is MATERIALIZATION_FAILED")
    else if failureCategory.isNone then .error (.typeError
      ("failure_category must be PostgresWriteSideDecisionReceiptMaterializationFailureCategory " ++
        "when status is MATERIALIZATION_FAILED"))
    else .ok ⟨businessResult,status,receipt,failureCategory⟩

/-- `PostgresWriteSideDecisionReceiptMaterializationOwner` -/
structure MaterializationOwner where
  completedResult : PyObject PostgresWriteSideResult
  receiptId : Option Uuid
  outcomeId : Option Uuid
  cachedDelivery : Option MaterializationDelivery

/-! ## Persistence -/

/-- `PostgresWriteSideDecisionReceiptPersistenceCompositionDelivery` -/
structure PersistenceCompositionDelivery where
  businessResult : PyObject PostgresWriteSideResult
  materializationDelivery : MaterializationDelivery
  persistenceReached : Bool
  persistenceResult : Option (PostgresDecisionReceiptTransactionResult DecisionReceipt)

def PersistenceCompositionDelivery.make (businessResult : PyObject PostgresWriteSideResult)
    (m : MaterializationDelivery) (persistenceReached : Bool)
    (persistenceResult : Option (PostgresDecisionReceiptTransactionResult DecisionReceipt)) :
    Except PyException PersistenceCompositionDelivery :=
  if businessResult ≠ m.businessResult then
    .error (.valueError "business_result must be the exact materialization business result")
  else match m.status with
    | .materializationFailed =>
      if persistenceReached then
        .error (.valueError "failed materialization cannot reach persistence")
      else if persistenceResult.isSome then
        .error (.valueError "failed materialization cannot carry persistence_result")
      else .ok ⟨businessResult,m,persistenceReached,persistenceResult⟩
    | .materialized =>
      if persistenceReached = false then
        .error (.valueError "materialized delivery must reach receipt persistence")
      else if persistenceResult.isNone then .error (.typeError
        ("persistence_result must be PostgresDecisionReceiptTransactionResult when persistence " ++
          "is reached"))
      else .ok ⟨businessResult,m,persistenceReached,persistenceResult⟩

/-- `PostgresWriteSideDecisionReceiptPersistenceCompositionOwner`; its materialization owner
is the one the handle retains. -/
structure PersistenceCompositionOwner where
  cachedDelivery : Option PersistenceCompositionDelivery

/-! ## The delivery of a handle -/

inductive RuntimeStatus where
  | persistenceIneligible
  | materializationFailed
  | persistenceCompleted
  | unexpectedCompositionException
deriving DecidableEq, Repr

/-- `PostgresWriteSideDecisionReceiptRuntimeDelivery` -/
structure RuntimeDelivery where
  businessResult : PyObject PostgresWriteSideResult
  persistenceEligibility : PostgresWriteSideDecisionReceiptPersistenceEligibility
  status : RuntimeStatus
  persistenceDelivery : Option PersistenceCompositionDelivery

def RuntimeDelivery.make (businessResult : PyObject PostgresWriteSideResult)
    (eligibility : PostgresWriteSideDecisionReceiptPersistenceEligibility) (status : RuntimeStatus)
    (delivery : Option PersistenceCompositionDelivery) : Except PyException RuntimeDelivery :=
  match status with
  | .persistenceIneligible =>
    if eligibility.isEligible then
      .error (.valueError "PERSISTENCE_INELIGIBLE requires ineligible evidence")
    else if delivery.isSome then
      .error (.valueError "PERSISTENCE_INELIGIBLE cannot carry persistence delivery")
    else .ok ⟨businessResult,eligibility,status,delivery⟩
  | .unexpectedCompositionException =>
    if eligibility.isEligible = false then .error (.valueError
      "eligible receipt-composition status requires eligible evidence")
    else if delivery.isSome then
      .error (.valueError "unexpected composition cannot carry persistence delivery")
    else .ok ⟨businessResult,eligibility,status,delivery⟩
  | .materializationFailed =>
    if eligibility.isEligible = false then .error (.valueError
      "eligible receipt-composition status requires eligible evidence")
    else match delivery with
      | none => .error (.typeError "recognized composition status requires exact PR2 delivery")
      | some d =>
        if d.businessResult ≠ businessResult then
          .error (.valueError "business_result must be the exact PR2 business result")
        else if d.materializationDelivery.status ≠ .materializationFailed ∨
            d.persistenceReached = true then
          .error (.valueError "MATERIALIZATION_FAILED requires PR2 materialization failure")
        else .ok ⟨businessResult,eligibility,status,delivery⟩
  | .persistenceCompleted =>
    if eligibility.isEligible = false then .error (.valueError
      "eligible receipt-composition status requires eligible evidence")
    else match delivery with
      | none => .error (.typeError "recognized composition status requires exact PR2 delivery")
      | some d =>
        if d.businessResult ≠ businessResult then
          .error (.valueError "business_result must be the exact PR2 business result")
        else if d.materializationDelivery.status = .materializationFailed ∨
            d.persistenceReached = false then
          .error (.valueError "PERSISTENCE_COMPLETED requires reached PR2 persistence")
        else .ok ⟨businessResult,eligibility,status,delivery⟩

theorem RuntimeDelivery.make_source {result : PyObject PostgresWriteSideResult}
    {eligibility : PostgresWriteSideDecisionReceiptPersistenceEligibility} {status : RuntimeStatus}
    {delivery : Option PersistenceCompositionDelivery} {d : RuntimeDelivery}
    (h : RuntimeDelivery.make result eligibility status delivery = .ok d) :
    d.businessResult = result ∧ d.persistenceEligibility = eligibility := by
  unfold RuntimeDelivery.make at h
  repeat' split at h
  all_goals cases h
  all_goals exact ⟨rfl,rfl⟩

/-! ## Completed invocations -/

/-- `PostgresWriteSideDecisionReceiptCompletedInvocation`. Eligibility is the one of the
result, and only an eligible result has a persistence owner. -/
structure CompletedInvocation where
  businessResult : PyObject PostgresWriteSideResult
  persistenceEligibility : PostgresWriteSideDecisionReceiptPersistenceEligibility
  materializationOwner : MaterializationOwner
  persistenceOwner : Option PersistenceCompositionOwner
  cachedReceiptDelivery : Option (PyObject RuntimeDelivery)
  evaluated : persistenceEligibility = evaluatePersistenceEligibility businessResult.value
  retained : materializationOwner.completedResult = businessResult
  composed : persistenceOwner.isSome = persistenceEligibility.isEligible

namespace CompletedInvocation

/-- `_from_runtime_owner` -/
def fromRuntimeOwner (businessResult : PyObject PostgresWriteSideResult) : CompletedInvocation :=
  let eligibility := evaluatePersistenceEligibility businessResult.value
  { businessResult := businessResult
    persistenceEligibility := eligibility
    materializationOwner := ⟨businessResult,none,none,none⟩
    persistenceOwner := if eligibility.isEligible then some ⟨none⟩ else none
    cachedReceiptDelivery := none
    evaluated := rfl
    retained := rfl
    composed := by cases eligibility.isEligible <;> rfl }

variable (h : CompletedInvocation)

/-- `self._receipt_id` and `self._outcome_id` of the materialization owner -/
def allocate (receiptId outcomeId : Uuid) : CompletedInvocation :=
  {h with materializationOwner := {h.materializationOwner with
            receiptId := some receiptId, outcomeId := some outcomeId}
          retained := h.retained}

/-- `self._cached_delivery` of the materialization owner -/
def materialize (d : MaterializationDelivery) : CompletedInvocation :=
  {h with materializationOwner := {h.materializationOwner with cachedDelivery := some d}
          retained := h.retained}

/-- `self._cached_delivery` of the persistence owner, which an ineligible result has not -/
def compose (d : PersistenceCompositionDelivery) : CompletedInvocation :=
  {h with persistenceOwner := h.persistenceOwner.map (fun _ => ⟨some d⟩)
          composed := by rw [Option.isSome_map, h.composed]}

/-- `self._cached_receipt_delivery` -/
def publish (d : PyObject RuntimeDelivery) : CompletedInvocation :=
  {h with cachedReceiptDelivery := some d}

@[simp] theorem allocate_businessResult (r u : Uuid) :
    (h.allocate r u).businessResult = h.businessResult := rfl
@[simp] theorem materialize_businessResult (d : MaterializationDelivery) :
    (h.materialize d).businessResult = h.businessResult := rfl
@[simp] theorem compose_businessResult (d : PersistenceCompositionDelivery) :
    (h.compose d).businessResult = h.businessResult := rfl
@[simp] theorem publish_businessResult (d : PyObject RuntimeDelivery) :
    (h.publish d).businessResult = h.businessResult := rfl
@[simp] theorem publish_cachedReceiptDelivery (d : PyObject RuntimeDelivery) :
    (h.publish d).cachedReceiptDelivery = some d := rfl

end CompletedInvocation

/-! ## The runtime owner -/

/-- `PostgresWriteSideDecisionReceiptRuntimeOwner`; a handle is retained by its number. -/
structure PostgresWriteSideDecisionReceiptRuntimeOwner where
  invocationOwner : PostgresWriteSideInvocationOwner
  initialCompletion : Option ℕ
  authorizedReinvocationCompletion : Option ℕ

def PostgresWriteSideDecisionReceiptRuntimeOwner.new (requestSignature : RequestSignature)
    (amountDecimal : ∃ amount, requestSignature.amount = .decimal amount) :
    PostgresWriteSideDecisionReceiptRuntimeOwner := ⟨.new requestSignature amountDecimal,none,none⟩

end StreamingCompass
