import StreamingCompass.Authority.Grounding
import StreamingCompass.Authority.Inventory

/-! # Indirect escalation and its governed sibling

Any sequence of calls on the components. Through the unchecked workflow the limited agent
alone writes every history over allowed edges; with evidence admission the accepted facts
are those of receipts the warehouse observed.
-/
namespace StreamingCompass.Authority

/-! ## What the components do -/

theorem qualifies_iff {candidate : CandidateStockReplenished} {e : AuthorityEvidence} :
    (SemanticAuthorityAdmission.evaluateOne candidate e).qualifiesForPromotion = true ↔
      e.issuanceMarker = true ∧ e.kind = .warehouseReceiptConfirmation ∧
        e.issuer = .warehouseAuthority ∧ e.candidateId = candidate.candidateId ∧
        e.productId = candidate.productId ∧ e.quantity = candidate.quantity := by
  have hkind : evidenceKindSupports e.kind .stockReplenished = true ↔
      e.kind = .warehouseReceiptConfirmation := by
    cases e.kind <;> decide
  have hissuer : sourceAuthorizedFor e.issuer .stockReplenished = true ↔
      e.issuer = .warehouseAuthority := by
    cases e.issuer <;> decide
  simp only [EvidenceEvaluation.qualifiesForPromotion, SemanticAuthorityAdmission.evaluateOne,
    AuthorityEvidence.issuedByModeledSource, evidenceMatchesCandidate, Bool.and_eq_true,
    decide_eq_true_eq, hkind, hissuer]
  tauto

theorem evaluate_accept {candidate : CandidateStockReplenished} {evidence : List AuthorityEvidence} :
    (SemanticAuthorityAdmission.evaluate candidate evidence).decision = .accept ↔
      ∃ e ∈ evidence,
        (SemanticAuthorityAdmission.evaluateOne candidate e).qualifiesForPromotion = true := by
  rw [(SemanticAuthorityAdmission.evaluate candidate evidence).decided]
  simp [SemanticAuthorityAdmission.evaluate]

theorem submitCandidate_facts (store : AuthoritativeInventoryStore)
    (candidate : CandidateStockReplenished) (evidence : List AuthorityEvidence) :
    (RestockWorkflow.submitCandidateWithSemanticAuthorityAdmission store candidate
        evidence).2.acceptedFacts =
      if (SemanticAuthorityAdmission.evaluate candidate evidence).decision = .accept then
        store.acceptedFacts ++ [⟨candidate.toProductQuantity⟩]
      else store.acceptedFacts := by
  have hallowed : (decideLocalCapability .restockWorkflow .submitReplenishmentCandidate
      .inventoryAuthorityService).decision = .allowed := by decide
  simp only [RestockWorkflow.submitCandidateWithSemanticAuthorityAdmission,
    InventoryAuthorityService.promoteCandidateWithSemanticAuthorityAdmission, hallowed, dite_true]
  split
  · exact (InventoryAuthorityService.append_allowed store _).2
  · rfl

/-- The agent's own identity opens neither the store nor the service. -/
theorem agent_denied (store : AuthoritativeInventoryStore) (fact : AcceptedStockReplenished)
    (candidate : CandidateStockReplenished) (evidence : List AuthorityEvidence) :
    (LimitedAgent.attemptDirectAppend store fact).2 = store ∧
      (InventoryAuthorityService.promoteCandidateWithoutSemanticAuthorityAdmission store
        .limitedAgent candidate).2 = store ∧
      (InventoryAuthorityService.promoteCandidateWithSemanticAuthorityAdmission store
        .limitedAgent candidate evidence).2 = store := by
  have happend : (decideLocalCapability .limitedAgent .appendAcceptedReplenishment
      .authoritativeInventoryStore).decision ≠ .allowed := by decide
  have hpromote : (decideLocalCapability .limitedAgent .submitReplenishmentCandidate
      .inventoryAuthorityService).decision ≠ .allowed := by decide
  refine ⟨?_,?_,?_⟩
  · simp [LimitedAgent.attemptDirectAppend,
      AuthoritativeInventoryStore.appendAcceptedReplenishment, happend]
  · simp [InventoryAuthorityService.promoteCandidateWithoutSemanticAuthorityAdmission, hpromote]
  · simp [InventoryAuthorityService.promoteCandidateWithSemanticAuthorityAdmission, hpromote]

/-! ## Runs of calls -/

/-- The store, what the warehouse has observed, and the evidence in circulation. -/
structure World where
  store : AuthoritativeInventoryStore
  receipts : List WarehouseReceiptObservation
  evidence : List AuthorityEvidence
  /-- the local permission decisions of the run, in order -/
  checks : List CapabilityCheck

def World.init : World := ⟨⟨[]⟩,[],[],[]⟩

inductive Call where
  | attemptDirectAppend (fact : AcceptedStockReplenished)
  | promoteAsAgent (candidate : CandidateStockReplenished)
  | promoteAsAgentWithEvidence (candidate : CandidateStockReplenished)
    (evidence : List AuthorityEvidence)
  | submitRestockRequest (productId : String) (quantity : ℤ) (requestId : String)
  | prepareRestockCandidate (productId : String) (quantity : ℤ) (requestId : String)
  | issueRestockRequestEvidence (candidate : CandidateStockReplenished)
  /-- evidence made past its constructor, so without the issuance token -/
  | bringUnissuedEvidence (e : AuthorityEvidence) (h : e.issuanceMarker = false)
  | submitCandidate (candidate : CandidateStockReplenished) (evidence : List AuthorityEvidence)
  | issueReceiptConfirmation (candidate : CandidateStockReplenished) (receiptId productId : String)
    (quantity : ℤ)

/-- Calls that need no warehouse. -/
def Call.byAgent : Call → Bool
  | .issueReceiptConfirmation .. => false
  | _ => true

/-- Calls that stay off the unchecked promotion. -/
def Call.governed : Call → Bool
  | .submitRestockRequest .. => false
  | _ => true

def WorkflowExecutionResult.checks (r : WorkflowExecutionResult) : List CapabilityCheck :=
  r.requestSubmissionCheck :: match r.promotionResult with
    | none => []
    | some p => p.candidateSubmissionCheck :: p.appendResult.toList.map AppendResult.capabilityCheck

def GovernedPromotionResult.checks (r : GovernedPromotionResult) : List CapabilityCheck :=
  r.candidateSubmissionCheck :: r.appendResult.toList.map AppendResult.capabilityCheck

/-- One call; a call that raises changes nothing, and evidence that is not in circulation
cannot be passed. -/
def World.step (w : World) : Call → World
  | .attemptDirectAppend fact =>
    let (r,store) := LimitedAgent.attemptDirectAppend w.store fact
    {w with store, checks := w.checks ++ [r.capabilityCheck]}
  | .promoteAsAgent candidate =>
    let (r,store) := InventoryAuthorityService.promoteCandidateWithoutSemanticAuthorityAdmission
      w.store .limitedAgent candidate
    {w with store, checks := w.checks ++ [r.candidateSubmissionCheck]}
  | .promoteAsAgentWithEvidence candidate evidence =>
    if evidence ⊆ w.evidence then
      let (r,store) := InventoryAuthorityService.promoteCandidateWithSemanticAuthorityAdmission
        w.store .limitedAgent candidate evidence
      {w with store, checks := w.checks ++ r.checks}
    else w
  | .submitRestockRequest productId quantity requestId =>
    match RestockRequest.new productId quantity requestId with
    | .error _ => w
    | .ok request =>
      let (r,store) := LimitedAgent.submitRestockRequest w.store request
      {w with store, checks := w.checks ++ r.checks}
  | .prepareRestockCandidate productId quantity requestId =>
    match RestockRequest.new productId quantity requestId with
    | .error _ => w
    | .ok request =>
      {w with checks := w.checks ++
        [(LimitedAgent.prepareRestockCandidate request).requestSubmissionCheck]}
  | .issueRestockRequestEvidence candidate =>
    match LimitedAgent.issueRestockRequestEvidence candidate with
    | .error _ => w
    | .ok e => {w with evidence := e :: w.evidence}
  | .bringUnissuedEvidence e _ => {w with evidence := e :: w.evidence}
  | .submitCandidate candidate evidence =>
    if evidence ⊆ w.evidence then
      let (r,store) := RestockWorkflow.submitCandidateWithSemanticAuthorityAdmission w.store
        candidate evidence
      {w with store, checks := w.checks ++ r.checks}
    else w
  | .issueReceiptConfirmation candidate receiptId productId quantity =>
    match WarehouseReceiptObservation.new receiptId productId quantity with
    | .error _ => w
    | .ok receipt => match WarehouseAuthority.issueReceiptConfirmation candidate receipt with
      | .error _ => w
      | .ok e => {w with receipts := w.receipts.insert receipt, evidence := e :: w.evidence}

/-- The accepted facts, grounded in the receipts. -/
def inventoryHistory : History World Call AcceptedStockReplenished WarehouseReceiptObservation where
  step := World.step
  facts w := w.store.acceptedFacts
  bases w := w.receipts

abbrev World.run (w : World) (calls : List Call) : World := inventoryHistory.run w calls

/-- A receipt is of the goods of a fact. -/
def ReceiptOf (r : WarehouseReceiptObservation) (f : AcceptedStockReplenished) : Prop :=
  r.productId = f.productId ∧ r.quantity = f.quantity

/-! ## The governed calls -/

theorem AuthorityEvidence.of_new {kind : EvidenceKind} {issuer : EvidenceIssuer}
    {candidateId : Identifier} {goods : ProductQuantity} {receiptId : Option Identifier}
    {token : Bool} {e : AuthorityEvidence}
    (h : AuthorityEvidence.new kind issuer candidateId goods receiptId token = .ok e) :
    e.kind = kind ∧ e.toProductQuantity = goods := by
  unfold AuthorityEvidence.new at h
  split at h
  · cases h
  · split at h
    · obtain rfl := Except.ok.inj h
      exact ⟨rfl,rfl⟩
    · split at h <;> cases h

theorem World.step_facts {w : World} {c : Call} (hc : c.governed = true) :
    (w.step c).store.acceptedFacts = w.store.acceptedFacts ∨
      ∃ candidate evidence, evidence ⊆ w.evidence ∧
        (SemanticAuthorityAdmission.evaluate candidate evidence).decision = .accept ∧
        (w.step c).store.acceptedFacts = w.store.acceptedFacts ++ [⟨candidate.toProductQuantity⟩] := by
  cases c with
  | attemptDirectAppend fact =>
    left
    exact congrArg _ (agent_denied w.store fact ⟨fact.toProductQuantity,⟨"c",by decide⟩⟩ []).1
  | promoteAsAgent candidate =>
    left
    exact congrArg _ (agent_denied w.store ⟨candidate.toProductQuantity⟩ candidate []).2.1
  | promoteAsAgentWithEvidence candidate evidence =>
    left
    simp only [World.step]
    split
    · exact congrArg _ (agent_denied w.store ⟨candidate.toProductQuantity⟩ candidate evidence).2.2
    · rfl
  | submitRestockRequest productId quantity requestId => cases hc
  | prepareRestockCandidate productId quantity requestId =>
    left
    simp only [World.step]
    split <;> rfl
  | issueRestockRequestEvidence candidate =>
    left
    simp only [World.step]
    split <;> rfl
  | bringUnissuedEvidence e h =>
    left
    rfl
  | submitCandidate candidate evidence =>
    have hfacts := submitCandidate_facts w.store candidate evidence
    simp only [World.step]
    split
    · rename_i hheld
      by_cases haccept : (SemanticAuthorityAdmission.evaluate candidate evidence).decision = .accept
      · rw [if_pos haccept] at hfacts
        exact .inr ⟨candidate,evidence,hheld,haccept,hfacts⟩
      · rw [if_neg haccept] at hfacts
        exact .inl hfacts
    · exact .inl rfl
  | issueReceiptConfirmation candidate receiptId productId quantity =>
    left
    simp only [World.step]
    split
    · rfl
    · split <;> rfl

/-- What a governed call does to the evidence: new evidence without the token, of the agent's
kind, or with the goods of a receipt that is observed with it. -/
theorem World.step_evidence {w : World} {c : Call} (hc : c.governed = true) :
    (w.step c).receipts = w.receipts ∧ ((w.step c).evidence = w.evidence ∨
        ∃ e, (w.step c).evidence = e :: w.evidence ∧
          (e.issuanceMarker = true → e.kind ≠ .warehouseReceiptConfirmation)) ∨
      c.byAgent = false ∧ ∃ r e, (w.step c).receipts = w.receipts.insert r ∧
        (w.step c).evidence = e :: w.evidence ∧ e.toProductQuantity = r.toProductQuantity := by
  cases c with
  | attemptDirectAppend fact => exact .inl ⟨rfl,.inl rfl⟩
  | promoteAsAgent candidate => exact .inl ⟨rfl,.inl rfl⟩
  | promoteAsAgentWithEvidence candidate evidence =>
    left
    simp only [World.step]
    split <;> exact ⟨rfl,.inl rfl⟩
  | submitRestockRequest productId quantity requestId => cases hc
  | prepareRestockCandidate productId quantity requestId =>
    left
    simp only [World.step]
    split <;> exact ⟨rfl,.inl rfl⟩
  | issueRestockRequestEvidence candidate =>
    left
    simp only [World.step]
    split
    · exact ⟨rfl,.inl rfl⟩
    · rename_i e h
      have hkind := (AuthorityEvidence.of_new h).1
      exact ⟨rfl,.inr ⟨e,rfl,fun _ => by rw [hkind]; decide⟩⟩
  | bringUnissuedEvidence e h =>
    left
    exact ⟨rfl,.inr ⟨e,rfl,fun hmarker => by rw [h] at hmarker; cases hmarker⟩⟩
  | submitCandidate candidate evidence =>
    left
    simp only [World.step]
    split <;> exact ⟨rfl,.inl rfl⟩
  | issueReceiptConfirmation candidate receiptId productId quantity =>
    simp only [World.step]
    split
    · exact .inl ⟨rfl,.inl rfl⟩
    · rename_i receipt hreceipt
      split
      · exact .inl ⟨rfl,.inl rfl⟩
      · rename_i e he
        exact .inr ⟨rfl,receipt,e,rfl,rfl,(AuthorityEvidence.of_new he).2⟩

/-- Confirmations in circulation have the goods of an observed receipt. -/
def World.Confirmed (w : World) : Prop :=
  ∀ e ∈ w.evidence, e.issuanceMarker = true → e.kind = .warehouseReceiptConfirmation →
    ∃ r ∈ w.receipts, r.productId = e.productId ∧ r.quantity = e.quantity

theorem World.Confirmed.step {w : World} (hw : w.Confirmed) {c : Call} (hc : c.governed = true) :
    (w.step c).Confirmed ∧ w.receipts ⊆ (w.step c).receipts := by
  unfold World.Confirmed
  rcases World.step_evidence hc (w := w) with ⟨hreceipts,hsame | ⟨e,hevidence,hkind⟩⟩ |
    ⟨-,r,e,hreceipts,hevidence,hgoods⟩
  · rw [hreceipts, hsame]
    exact ⟨hw,List.Subset.refl _⟩
  · rw [hreceipts, hevidence]
    refine ⟨?_,List.Subset.refl _⟩
    intro e' he' hmarker hwarehouse
    rcases List.mem_cons.mp he' with rfl | he'
    · exact absurd hwarehouse (hkind hmarker)
    · exact hw e' he' hmarker hwarehouse
  · rw [hreceipts, hevidence]
    refine ⟨?_,fun r' hr' => List.mem_insert_of_mem hr'⟩
    intro e' he' hmarker hwarehouse
    rcases List.mem_cons.mp he' with rfl | he'
    · refine ⟨r,List.mem_insert_self,?_,?_⟩
      · rw [hgoods]
      · rw [hgoods]
    · obtain ⟨r',hr',hsupports⟩ := hw e' he' hmarker hwarehouse
      exact ⟨r',List.mem_insert_of_mem hr',hsupports⟩

/-- Governed calls append only facts of observed receipts. -/
theorem gated_governed :
    inventoryHistory.Gated ReceiptOf World.Confirmed (fun c => c.governed = true) := by
  refine ⟨fun w c hw hc => (hw.step hc).1,fun w c hw hc => ?_,fun w c hw hc => (hw.step hc).2⟩
  rcases World.step_facts hc (w := w) with hsame | ⟨candidate,evidence,hheld,haccept,hfacts⟩
  · exact ⟨[],by simpa [inventoryHistory] using hsame,by simp⟩
  · refine ⟨_,hfacts,fun f hf => ?_⟩
    obtain rfl := List.mem_singleton.mp hf
    obtain ⟨e,he,hqualifies⟩ := evaluate_accept.mp haccept
    obtain ⟨hmarker,hkind,-,-,hproduct,hquantity⟩ := qualifies_iff.mp hqualifies
    obtain ⟨r,hr,hrp,hrq⟩ := hw e (hheld he) hmarker hkind
    exact ⟨r,hr,hrp.trans hproduct,hrq.trans hquantity⟩

theorem receipt_new (r : WarehouseReceiptObservation) :
    WarehouseReceiptObservation.new r.receiptId.val r.productId r.quantity = .ok r := by
  simp [WarehouseReceiptObservation.new, validateIdentifier, validateProductAndQuantity,
    r.receiptId.property, r.named, r.positive]

/-- What a confirmed receipt leaves: the receipt, and evidence for the candidate with its goods. -/
theorem step_confirm (w : World) (candidate : CandidateStockReplenished)
    (r : WarehouseReceiptObservation) : ∃ e : AuthorityEvidence,
      (e.issuanceMarker = true ∧ e.kind = .warehouseReceiptConfirmation ∧
        e.issuer = .warehouseAuthority ∧ e.candidateId = candidate.candidateId ∧
        e.toProductQuantity = r.toProductQuantity) ∧
      w.step (.issueReceiptConfirmation candidate r.receiptId.val r.productId r.quantity) =
        {w with receipts := w.receipts.insert r, evidence := e :: w.evidence} := by
  refine ⟨⟨r.toProductQuantity,.warehouseReceiptConfirmation,.warehouseAuthority,
    candidate.candidateId,some r.receiptId,true,by simp⟩,⟨rfl,rfl,rfl,rfl,rfl⟩,?_⟩
  simp [World.step, receipt_new, WarehouseAuthority.issueReceiptConfirmation,
    AuthorityEvidence.new]

/-- A fact of an observed receipt is promoted by confirming the receipt and submitting. -/
theorem promotes_governed : inventoryHistory.Promotes ReceiptOf (fun c => c.governed = true) := by
  intro w f hf
  obtain ⟨r,hr,hproduct,hquantity⟩ := hf
  have hgoods : r.toProductQuantity = f.toProductQuantity := by
    obtain ⟨⟨p,q,hp,hq⟩,id⟩ := r
    obtain ⟨⟨p',q',hp',hq'⟩⟩ := f
    simp only [ProductQuantity.mk.injEq]
    exact ⟨hproduct,hquantity⟩
  let candidate : CandidateStockReplenished := ⟨f.toProductQuantity,r.receiptId⟩
  obtain ⟨e,⟨hmarker,hkind,hissuer,hid,hsame⟩,hconfirm⟩ := step_confirm w candidate r
  have haccept : (SemanticAuthorityAdmission.evaluate candidate [e]).decision = .accept := by
    rw [evaluate_accept]
    refine ⟨e,List.mem_singleton_self e,qualifies_iff.mpr ⟨hmarker,hkind,hissuer,hid,?_,?_⟩⟩
    · rw [hsame, hgoods]
    · rw [hsame, hgoods]
  refine ⟨[.issueReceiptConfirmation candidate r.receiptId.val r.productId r.quantity,
    .submitCandidate candidate [e]],by simp [Call.governed],?_,?_⟩
  · have hfacts := submitCandidate_facts w.store candidate [e]
    rw [if_pos haccept] at hfacts
    simp only [History.run_cons, History.run_nil]
    simp only [inventoryHistory, hconfirm]
    simp only [World.step, List.cons_subset, List.mem_cons, true_or, List.nil_subset, and_self,
      if_true]
    exact hfacts
  · simp only [History.run_cons, History.run_nil]
    simp only [inventoryHistory, hconfirm]
    simp only [World.step, List.cons_subset, List.mem_cons, true_or, List.nil_subset, and_self,
      if_true]
    exact List.insert_of_mem hr

theorem confirmed_init : World.init.Confirmed := by
  intro e he
  cases he

/-- The warehouse may observe any receipts, and observing them accepts nothing. -/
theorem observes (R : List WarehouseReceiptObservation) (w : World) : ∃ calls,
    (∀ c ∈ calls, c.governed = true) ∧ (w.run calls).store = w.store ∧
      ∀ r, r ∈ (w.run calls).receipts ↔ r ∈ R ∨ r ∈ w.receipts := by
  induction R generalizing w with
  | nil => exact ⟨[],by simp,rfl,by simp⟩
  | cons r R ih =>
    obtain ⟨e,-,hconfirm⟩ := step_confirm w ⟨r.toProductQuantity,r.receiptId⟩ r
    let confirm : Call := .issueReceiptConfirmation ⟨r.toProductQuantity,r.receiptId⟩
      r.receiptId.val r.productId r.quantity
    obtain ⟨calls,hgoverned,hstore,hreceipts⟩ := ih (w.step confirm)
    refine ⟨confirm :: calls,List.forall_mem_cons.mpr ⟨rfl,hgoverned⟩,?_,fun r' => ?_⟩
    · rw [World.run, History.run_cons]
      refine hstore.trans ?_
      rw [hconfirm]
    · rw [World.run, History.run_cons]
      refine (hreceipts r').trans ?_
      rw [hconfirm, List.mem_cons, List.mem_insert_iff]
      tauto

/-- With evidence admission the histories that calls reach are exactly those whose every fact
has the goods of a receipt the warehouse observed. -/
theorem governed_histories_exact (R : List WarehouseReceiptObservation)
    (facts : List AcceptedStockReplenished) :
    (∃ calls, (∀ c ∈ calls, c.governed = true) ∧
        (∀ r, r ∈ (World.init.run calls).receipts ↔ r ∈ R) ∧
        (World.init.run calls).store.acceptedFacts = facts) ↔
      ∀ f ∈ facts, ∃ r ∈ R, ReceiptOf r f := by
  constructor
  · rintro ⟨calls,hgoverned,hreceipts,rfl⟩ f hf
    obtain ⟨-,-,added,hfacts,hsupported⟩ := gated_governed.run confirmed_init hgoverned
    obtain ⟨r,hr,hgoods⟩ := hsupported f (by rw [← List.nil_append added]; exact hfacts ▸ hf)
    exact ⟨r,(hreceipts r).mp hr,hgoods⟩
  · intro h
    obtain ⟨first,hfirst,hstore,hreceipts⟩ := observes R World.init
    have hreceipts (r : WarehouseReceiptObservation) :
        r ∈ (World.init.run first).receipts ↔ r ∈ R := by
      rw [hreceipts r]
      simp [World.init]
    have hsupported (f : AcceptedStockReplenished) (hf : f ∈ facts) :
        inventoryHistory.Supported ReceiptOf (World.init.run first) f := by
      obtain ⟨r,hr,hgoods⟩ := h f hf
      exact ⟨r,(hreceipts r).mpr hr,hgoods⟩
    obtain ⟨calls,hcalls,hfacts,hbases⟩ := promotes_governed.run hsupported
    refine ⟨first ++ calls,?_,?_,?_⟩
    · intro c hc
      rcases List.mem_append.mp hc with hc | hc
      · exact hfirst c hc
      · exact hcalls c hc
    · intro r
      rw [World.run, History.run_append, ← hreceipts r]
      exact iff_of_eq (congrArg _ hbases)
    · rw [World.run, History.run_append]
      refine hfacts.trans ?_
      have hempty : inventoryHistory.facts (World.init.run first) = [] :=
        congrArg AuthoritativeInventoryStore.acceptedFacts hstore
      rw [hempty, List.nil_append]

/-- Governed calls give stock to no product without an observed receipt. -/
theorem governed_inventory {calls : List Call} (hcalls : ∀ c ∈ calls, c.governed = true)
    {productId : String} (hnamed : (strip productId).isEmpty = false)
    (hnone : ∀ r ∈ (World.init.run calls).receipts, r.productId ≠ productId) :
    (World.init.run calls).store.inventory productId = .ok 0 := by
  obtain ⟨-,-,added,hfacts,hsupported⟩ := gated_governed.run confirmed_init hcalls
  have hother : (World.init.run calls).store.acceptedFacts.filter
      (fun f => f.productId = productId) = [] := by
    rw [List.filter_eq_nil_iff]
    intro f hf
    obtain ⟨r,hr,hproduct,-⟩ := hsupported f (by rw [← List.nil_append added]; exact hfacts ▸ hf)
    rw [decide_eq_true_eq, ← hproduct]
    exact hnone r hr
  rw [AuthoritativeInventoryStore.inventory, hnamed, hother]
  rfl

/-! ## The unchecked promotion -/

theorem request_new (f : AcceptedStockReplenished) :
    RestockRequest.new f.productId f.quantity "request" =
      .ok ⟨f.toProductQuantity,⟨"request",by decide +kernel⟩⟩ := by
  have hid : (strip "request").isEmpty = false := by decide +kernel
  simp [RestockRequest.new, validateIdentifier, validateProductAndQuantity, f.named, f.positive, hid]

/-- A request along the allowed edges leaves its goods as an accepted fact. -/
theorem step_request (w : World) (f : AcceptedStockReplenished) : ∃ checks,
    (∀ check ∈ checks, check.decision = .allowed) ∧
      w.step (.submitRestockRequest f.productId f.quantity "request") =
        {w with store := ⟨w.store.acceptedFacts ++ [f]⟩, checks := w.checks ++ checks} := by
  have hrequest : (decideLocalCapability .limitedAgent .submitRestockRequest
      .restockWorkflow).decision = .allowed := by decide
  have hsubmit : (decideLocalCapability .restockWorkflow .submitReplenishmentCandidate
      .inventoryAuthorityService).decision = .allowed := by decide
  have happend : (decideLocalCapability .inventoryAuthorityService .appendAcceptedReplenishment
      .authoritativeInventoryStore).decision = .allowed := by decide
  refine ⟨[decideLocalCapability .limitedAgent .submitRestockRequest .restockWorkflow,
    decideLocalCapability .restockWorkflow .submitReplenishmentCandidate .inventoryAuthorityService,
    decideLocalCapability .inventoryAuthorityService .appendAcceptedReplenishment
      .authoritativeInventoryStore],by simp [hrequest, hsubmit, happend],?_⟩
  simp [World.step, request_new, LimitedAgent.submitRestockRequest,
    RestockWorkflow.handleRestockRequest, hrequest,
    InventoryAuthorityService.promoteCandidateWithoutSemanticAuthorityAdmission, hsubmit,
    AuthoritativeInventoryStore.appendAcceptedReplenishment, happend,
    WorkflowExecutionResult.checks, RestockWorkflow.candidateOf]

theorem run_requests (facts : List AcceptedStockReplenished) (w : World)
    (hw : ∀ check ∈ w.checks, check.decision = .allowed) : ∃ calls,
      (∀ c ∈ calls, c.byAgent = true) ∧
      (w.run calls).store.acceptedFacts = w.store.acceptedFacts ++ facts ∧
      (w.run calls).evidence = w.evidence ∧
      ∀ check ∈ (w.run calls).checks, check.decision = .allowed := by
  induction facts generalizing w with
  | nil => exact ⟨[],by simp,by simp,rfl,hw⟩
  | cons f facts ih =>
    obtain ⟨checks,hallowed,hstep⟩ := step_request w f
    let request : Call := .submitRestockRequest f.productId f.quantity "request"
    obtain ⟨calls,hagent,hfacts,hevidence,hchecks⟩ := ih (w.step request) (by
      rw [hstep]
      intro check hcheck
      rcases List.mem_append.mp hcheck with hcheck | hcheck
      · exact hw check hcheck
      · exact hallowed check hcheck)
    refine ⟨request :: calls,List.forall_mem_cons.mpr ⟨rfl,hagent⟩,?_,?_,hchecks⟩
    · rw [World.run, History.run_cons]
      refine hfacts.trans ?_
      rw [hstep, List.append_assoc, List.singleton_append]
    · rw [World.run, History.run_cons]
      refine hevidence.trans ?_
      rw [hstep]

/-- Without the warehouse nothing is observed, so nothing supports a fact. -/
theorem gated_agent : inventoryHistory.Gated ReceiptOf
    (fun w => w.Confirmed ∧ w.receipts = []) (fun c => c.byAgent = true ∧ c.governed = true) := by
  refine ⟨fun w c hw hc => ⟨(hw.1.step hc.2).1,?_⟩,fun w c hw hc =>
    gated_governed.appends w c hw.1 hc.2,fun w c hw hc => (hw.1.step hc.2).2⟩
  rcases World.step_evidence hc.2 (w := w) with ⟨hreceipts,-⟩ | ⟨hwarehouse,-⟩
  · exact hreceipts.trans hw.2
  · rw [hc.1] at hwarehouse
    cases hwarehouse

/-- The limited agent, which may not append, writes every history through the unchecked
workflow over allowed edges alone; off that workflow it writes nothing. -/
theorem agent_escalates (facts : List AcceptedStockReplenished) :
    (∃ calls, (∀ c ∈ calls, c.byAgent = true) ∧
        (World.init.run calls).store.acceptedFacts = facts ∧
        (World.init.run calls).evidence = [] ∧
        ∀ check ∈ (World.init.run calls).checks, check.decision = .allowed) ∧
      ((∃ calls, (∀ c ∈ calls, c.byAgent = true ∧ c.governed = true) ∧
        (World.init.run calls).store.acceptedFacts = facts) ↔ facts = []) := by
  refine ⟨?_,?_,?_⟩
  · obtain ⟨calls,hagent,hfacts,hevidence,hchecks⟩ := run_requests facts World.init (by
      intro check hcheck
      cases hcheck)
    exact ⟨calls,hagent,hfacts,hevidence,hchecks⟩
  · rintro ⟨calls,hagent,rfl⟩
    obtain ⟨⟨-,hnone⟩,-,added,hfacts,hsupported⟩ :=
      gated_agent.run ⟨confirmed_init,rfl⟩ hagent
    rw [List.eq_nil_iff_forall_not_mem]
    intro f hf
    obtain ⟨r,hr,-⟩ := hsupported f (by rw [← List.nil_append added]; exact hfacts ▸ hf)
    have hnothing : inventoryHistory.bases (World.init.run calls) = [] := hnone
    rw [hnothing] at hr
    cases hr
  · rintro rfl
    exact ⟨[],by simp,rfl⟩

end StreamingCompass.Authority
