import StreamingCompass.Core.Python

/-! # The authority-composition model

`experiments/indirect_authority_escalation/model.py`: local capabilities, evidence and its
admission, and the components between a limited agent and the accepted inventory facts.
The records carry what their constructors check; the isinstance checks are the types.
-/
namespace StreamingCompass.Authority

inductive Component where
  | limitedAgent | restockWorkflow | inventoryAuthorityService | authoritativeInventoryStore
deriving DecidableEq, Repr

inductive LocalOperation where
  | submitRestockRequest | submitReplenishmentCandidate | appendAcceptedReplenishment
deriving DecidableEq, Repr

inductive PermissionDecision where | allowed | denied
deriving DecidableEq, Repr

inductive EvidenceKind where | agentRestockRequest | warehouseReceiptConfirmation
deriving DecidableEq, Repr

inductive EvidenceIssuer where | limitedAgent | warehouseAuthority
deriving DecidableEq, Repr

inductive Proposition where | restockRequested | stockReplenished
deriving DecidableEq, Repr

inductive AuthorityPromotionDecision where | accept | reject
deriving DecidableEq, Repr

structure LocalCapability where
  caller : Component
  operation : LocalOperation
  target : Component
deriving DecidableEq, Repr

structure CapabilityCheck where
  capability : LocalCapability
  decision : PermissionDecision
deriving DecidableEq, Repr

/-- `_CAPABILITY_DECISIONS` -/
def capabilityDecisions : List (LocalCapability × PermissionDecision) :=
  [(⟨.limitedAgent,.submitRestockRequest,.restockWorkflow⟩,.allowed),
    (⟨.restockWorkflow,.submitReplenishmentCandidate,.inventoryAuthorityService⟩,.allowed),
    (⟨.inventoryAuthorityService,.appendAcceptedReplenishment,.authoritativeInventoryStore⟩,
      .allowed),
    (⟨.limitedAgent,.appendAcceptedReplenishment,.authoritativeInventoryStore⟩,.denied)]

/-- Any other combination is denied. -/
def decideLocalCapability (caller : Component) (operation : LocalOperation) (target : Component) :
    CapabilityCheck :=
  ⟨⟨caller,operation,target⟩,(capabilityDecisions.lookup ⟨caller,operation,target⟩).getD .denied⟩

/-- `_EVIDENCE_KIND_PROPOSITIONS` -/
def evidenceKindPropositions : List (EvidenceKind × List Proposition) :=
  [(.agentRestockRequest,[.restockRequested]),(.warehouseReceiptConfirmation,[.stockReplenished])]

/-- `_ISSUER_PROPOSITIONS` -/
def issuerPropositions : List (EvidenceIssuer × List Proposition) :=
  [(.limitedAgent,[.restockRequested]),(.warehouseAuthority,[.stockReplenished])]

def evidenceKindSupports (kind : EvidenceKind) (proposition : Proposition) : Bool :=
  ((evidenceKindPropositions.lookup kind).getD []).contains proposition

def sourceAuthorizedFor (issuer : EvidenceIssuer) (proposition : Proposition) : Bool :=
  ((issuerPropositions.lookup issuer).getD []).contains proposition

/-- What `_validate_product_and_quantity` leaves. -/
structure ProductQuantity where
  productId : String
  quantity : ℤ
  named : (strip productId).isEmpty = false
  positive : 0 < quantity
deriving DecidableEq

def validateProductAndQuantity (productId : String) (quantity : ℤ) :
    Except PyException ProductQuantity :=
  if hn : (strip productId).isEmpty = false then
    if hq : 0 < quantity then .ok ⟨productId,quantity,hn,hq⟩
    else .error (.valueError "quantity must be a positive int")
  else .error (.valueError "product_id must be a non-empty string")

/-- What `_validate_identifier` leaves. -/
abbrev Identifier := {s : String // (strip s).isEmpty = false}

def validateIdentifier (name value : String) : Except PyException Identifier :=
  if h : (strip value).isEmpty = false then .ok ⟨value,h⟩
  else .error (.valueError (name ++ " must be a non-empty string"))

structure RestockRequest extends ProductQuantity where
  requestId : Identifier
deriving DecidableEq

structure CandidateStockReplenished extends ProductQuantity where
  candidateId : Identifier
deriving DecidableEq

structure WarehouseReceiptObservation extends ProductQuantity where
  receiptId : Identifier
deriving DecidableEq

structure AcceptedStockReplenished extends ProductQuantity
deriving DecidableEq

def RestockRequest.new (productId : String) (quantity : ℤ) (requestId : String) :
    Except PyException RestockRequest := do
  let goods ← validateProductAndQuantity productId quantity
  let requestId ← validateIdentifier "request_id" requestId
  .ok ⟨goods,requestId⟩

def WarehouseReceiptObservation.new (receiptId productId : String) (quantity : ℤ) :
    Except PyException WarehouseReceiptObservation := do
  let receiptId ← validateIdentifier "receipt_id" receiptId
  let goods ← validateProductAndQuantity productId quantity
  .ok ⟨goods,receiptId⟩

def candidateIdFromRequestId (requestId : Identifier) : Identifier :=
  ⟨"candidate:" ++ requestId.val,by
    have hblank : isBlank ("candidate:" ++ requestId.val) = false :=
      isBlank_eq_false (c := 'c') (by simp) (by decide)
    exact strip_not_empty hblank⟩

/-- Evidence; the marker says whether it holds the issuance token. -/
structure AuthorityEvidence extends ProductQuantity where
  kind : EvidenceKind
  issuer : EvidenceIssuer
  candidateId : Identifier
  receiptId : Option Identifier
  issuanceMarker : Bool
  receipted : receiptId.isSome ↔ kind = .warehouseReceiptConfirmation
deriving DecidableEq

def AuthorityEvidence.issuedByModeledSource (e : AuthorityEvidence) : Bool := e.issuanceMarker

/-- `AuthorityEvidence(...)`, from arguments whose own checks are in their types. -/
def AuthorityEvidence.new (kind : EvidenceKind) (issuer : EvidenceIssuer)
    (candidateId : Identifier) (goods : ProductQuantity) (receiptId : Option Identifier)
    (issuanceToken : Bool) : Except PyException AuthorityEvidence :=
  if issuanceToken = false then
    .error (.typeError "evidence must be issued by a modeled source API")
  else if h : receiptId.isSome ↔ kind = .warehouseReceiptConfirmation then
    .ok ⟨goods,kind,issuer,candidateId,receiptId,issuanceToken,h⟩
  else if kind = .warehouseReceiptConfirmation then
    .error (.valueError "warehouse receipt confirmation requires receipt_id")
  else .error (.valueError "agent restock evidence must not claim receipt_id")

def evidenceMatchesCandidate (evidence : AuthorityEvidence) (candidate : CandidateStockReplenished) :
    Bool :=
  evidence.candidateId = candidate.candidateId && evidence.productId = candidate.productId &&
    evidence.quantity = candidate.quantity

structure EvidenceEvaluation where
  evidence : AuthorityEvidence
  issuedByModeledSource : Bool
  matchesCandidate : Bool
  supportsStockReplenished : Bool
  issuerAuthorizedForStockReplenished : Bool
deriving DecidableEq

def EvidenceEvaluation.qualifiesForPromotion (e : EvidenceEvaluation) : Bool :=
  e.issuedByModeledSource && e.matchesCandidate && e.supportsStockReplenished &&
    e.issuerAuthorizedForStockReplenished

/-- A decision is the first qualifying evidence, or that there is none. -/
structure SemanticAuthorityAdmissionResult where
  decision : AuthorityPromotionDecision
  evidenceEvaluations : List EvidenceEvaluation
  qualifyingEvidence : Option AuthorityEvidence
  coherent : qualifyingEvidence =
    (evidenceEvaluations.find? EvidenceEvaluation.qualifiesForPromotion).map EvidenceEvaluation.evidence
  decided : decision = .accept ↔ qualifyingEvidence.isSome

namespace SemanticAuthorityAdmission

def evaluateOne (candidate : CandidateStockReplenished) (item : AuthorityEvidence) :
    EvidenceEvaluation where
  evidence := item
  issuedByModeledSource := item.issuedByModeledSource
  matchesCandidate := evidenceMatchesCandidate item candidate
  supportsStockReplenished := evidenceKindSupports item.kind .stockReplenished
  issuerAuthorizedForStockReplenished := sourceAuthorizedFor item.issuer .stockReplenished

def evaluate (candidate : CandidateStockReplenished) (evidence : List AuthorityEvidence) :
    SemanticAuthorityAdmissionResult :=
  let evaluations := evidence.map (evaluateOne candidate)
  let qualifying := (evaluations.find? EvidenceEvaluation.qualifiesForPromotion).map
    EvidenceEvaluation.evidence
  ⟨if qualifying.isSome then .accept else .reject,evaluations,qualifying,rfl,by
    cases qualifying <;> simp⟩

end SemanticAuthorityAdmission

/-! ## Results -/

/-- An allowed append exposes the attempted fact, a denied one no fact. -/
structure AppendResult where
  capabilityCheck : CapabilityCheck
  attemptedFact : AcceptedStockReplenished
  appendedFact : Option AcceptedStockReplenished
  coherent : appendedFact = if capabilityCheck.decision = .allowed then some attemptedFact else none

def AppendResult.factAppended (r : AppendResult) : Bool := r.appendedFact.isSome

structure CandidatePromotionResult where
  candidateSubmissionCheck : CapabilityCheck
  candidate : CandidateStockReplenished
  appendResult : Option AppendResult
  coherent : candidateSubmissionCheck.decision = .allowed ↔ appendResult.isSome

/-- Only an admitted candidate is appended, with its own product and quantity. -/
structure GovernedPromotionResult where
  candidateSubmissionCheck : CapabilityCheck
  candidate : CandidateStockReplenished
  admissionResult : Option SemanticAuthorityAdmissionResult
  appendResult : Option AppendResult
  evaluated : candidateSubmissionCheck.decision = .allowed ↔ admissionResult.isSome
  admitted : appendResult.isSome ↔ ∃ r, admissionResult = some r ∧ r.decision = .accept
  appended : ∀ r, appendResult = some r →
    r.appendedFact = some ⟨candidate.toProductQuantity⟩

structure CandidatePreparationResult where
  requestSubmissionCheck : CapabilityCheck
  candidate : Option CandidateStockReplenished
  coherent : requestSubmissionCheck.decision = .allowed ↔ candidate.isSome

structure WorkflowExecutionResult where
  requestSubmissionCheck : CapabilityCheck
  candidate : Option CandidateStockReplenished
  promotionResult : Option CandidatePromotionResult
  coherent : requestSubmissionCheck.decision = .allowed ↔
    candidate.isSome ∧ promotionResult.isSome

/-! ## Components -/

/-- The accepted facts are the whole state of the store. -/
structure AuthoritativeInventoryStore where
  acceptedFacts : List AcceptedStockReplenished
deriving DecidableEq

namespace AuthoritativeInventoryStore

def appendAcceptedReplenishment (store : AuthoritativeInventoryStore) (caller : Component)
    (fact : AcceptedStockReplenished) : AppendResult × AuthoritativeInventoryStore :=
  let check := decideLocalCapability caller .appendAcceptedReplenishment .authoritativeInventoryStore
  if h : check.decision = .allowed then
    (⟨check,fact,some fact,(if_pos h).symm⟩,⟨store.acceptedFacts ++ [fact]⟩)
  else (⟨check,fact,none,(if_neg h).symm⟩,store)

def inventory (store : AuthoritativeInventoryStore) (productId : String) : Except PyException ℤ :=
  if (strip productId).isEmpty then .error (.valueError "product_id must be a non-empty string")
  else .ok (((store.acceptedFacts.filter (fun f => f.productId = productId)).map
    (fun f => f.quantity)).foldl (fun total quantity => total + quantity) 0)

end AuthoritativeInventoryStore

namespace InventoryAuthorityService

theorem append_allowed (store : AuthoritativeInventoryStore) (fact : AcceptedStockReplenished) :
    (store.appendAcceptedReplenishment .inventoryAuthorityService fact).1.appendedFact = some fact ∧
      (store.appendAcceptedReplenishment .inventoryAuthorityService fact).2.acceptedFacts =
        store.acceptedFacts ++ [fact] := by
  have hallowed : (decideLocalCapability .inventoryAuthorityService .appendAcceptedReplenishment
      .authoritativeInventoryStore).decision = .allowed := by decide
  simp [AuthoritativeInventoryStore.appendAcceptedReplenishment, hallowed]

def promoteCandidateWithoutSemanticAuthorityAdmission (store : AuthoritativeInventoryStore)
    (caller : Component) (candidate : CandidateStockReplenished) :
    CandidatePromotionResult × AuthoritativeInventoryStore :=
  let check := decideLocalCapability caller .submitReplenishmentCandidate .inventoryAuthorityService
  if h : check.decision = .allowed then
    -- arriving through the permitted workflow is taken for sufficient
    let (append,store) := store.appendAcceptedReplenishment .inventoryAuthorityService
      ⟨candidate.toProductQuantity⟩
    (⟨check,candidate,some append,by simp [h]⟩,store)
  else (⟨check,candidate,none,by simp [h]⟩,store)

def promoteCandidateWithSemanticAuthorityAdmission (store : AuthoritativeInventoryStore)
    (caller : Component) (candidate : CandidateStockReplenished)
    (evidence : List AuthorityEvidence) : GovernedPromotionResult × AuthoritativeInventoryStore :=
  let check := decideLocalCapability caller .submitReplenishmentCandidate .inventoryAuthorityService
  if h : check.decision = .allowed then
    let admission := SemanticAuthorityAdmission.evaluate candidate evidence
    if ha : admission.decision = .accept then
      let outcome := store.appendAcceptedReplenishment .inventoryAuthorityService
        ⟨candidate.toProductQuantity⟩
      (⟨check,candidate,some admission,some outcome.1,by simp [h],by simp [ha],by
        intro r hr
        obtain rfl := Option.some.inj hr
        exact (append_allowed store _).1⟩,outcome.2)
    else (⟨check,candidate,some admission,none,by simp [h],by simp [ha],by simp⟩,store)
  else (⟨check,candidate,none,none,by simp [h],by simp,by simp⟩,store)

end InventoryAuthorityService

namespace RestockWorkflow

def candidateOf (request : RestockRequest) : CandidateStockReplenished :=
  ⟨request.toProductQuantity,candidateIdFromRequestId request.requestId⟩

def handleRestockRequest (store : AuthoritativeInventoryStore) (caller : Component)
    (request : RestockRequest) : WorkflowExecutionResult × AuthoritativeInventoryStore :=
  let check := decideLocalCapability caller .submitRestockRequest .restockWorkflow
  if h : check.decision = .allowed then
    let (promotion,store) :=
      InventoryAuthorityService.promoteCandidateWithoutSemanticAuthorityAdmission store
        .restockWorkflow (candidateOf request)
    (⟨check,some (candidateOf request),some promotion,by simp [h]⟩,store)
  else (⟨check,none,none,by simp [h]⟩,store)

def prepareRestockCandidate (caller : Component) (request : RestockRequest) :
    CandidatePreparationResult :=
  let check := decideLocalCapability caller .submitRestockRequest .restockWorkflow
  if h : check.decision = .allowed then ⟨check,some (candidateOf request),by simp [h]⟩
  else ⟨check,none,by simp [h]⟩

def submitCandidateWithSemanticAuthorityAdmission (store : AuthoritativeInventoryStore)
    (candidate : CandidateStockReplenished) (evidence : List AuthorityEvidence) :
    GovernedPromotionResult × AuthoritativeInventoryStore :=
  InventoryAuthorityService.promoteCandidateWithSemanticAuthorityAdmission store .restockWorkflow
    candidate evidence

end RestockWorkflow

namespace LimitedAgent

def attemptDirectAppend (store : AuthoritativeInventoryStore) (fact : AcceptedStockReplenished) :
    AppendResult × AuthoritativeInventoryStore :=
  store.appendAcceptedReplenishment .limitedAgent fact

def submitRestockRequest (store : AuthoritativeInventoryStore) (request : RestockRequest) :
    WorkflowExecutionResult × AuthoritativeInventoryStore :=
  RestockWorkflow.handleRestockRequest store .limitedAgent request

def prepareRestockCandidate (request : RestockRequest) : CandidatePreparationResult :=
  RestockWorkflow.prepareRestockCandidate .limitedAgent request

def issueRestockRequestEvidence (candidate : CandidateStockReplenished) :
    Except PyException AuthorityEvidence :=
  AuthorityEvidence.new .agentRestockRequest .limitedAgent candidate.candidateId
    candidate.toProductQuantity none true

end LimitedAgent

/-- The goods of a confirmation are those of the receipt; only the identity is the candidate's. -/
def WarehouseAuthority.issueReceiptConfirmation (candidate : CandidateStockReplenished)
    (receipt : WarehouseReceiptObservation) : Except PyException AuthorityEvidence :=
  AuthorityEvidence.new .warehouseReceiptConfirmation .warehouseAuthority candidate.candidateId
    receipt.toProductQuantity (some receipt.receiptId) true

end StreamingCompass.Authority
