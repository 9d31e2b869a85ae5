import StreamingCompass.Concurrency.ReceiptPath

/-! # Diagnostic texts and receipts

Two runs of the receipt path that differ in the texts of what the database and the stores
raise, and in the identities they allocate. An append-time rejection is the one result that
quotes such a text, and it is ineligible for persistence.
-/
namespace StreamingCompass
open Interleaving

/-! ## Receipts up to their identities -/

/-- The same receipt under other allocated identities. -/
def DecisionReceipt.SameButIds (r r' : DecisionReceipt) : Prop :=
  {r with receiptId := r'.receiptId, outcomeId := r'.outcomeId} = r'

/-- The same semantic outcome under another identity. -/
def SemanticOutcome.SameButId (o o' : SemanticOutcome) : Prop := {o with outcomeId := o'.outcomeId} = o'

theorem mapRuntimeTechnicalStatus_sameButId (u u' : Uuid) (status : String)
    (boundary : SemanticBoundary) (reason : String) (context evidence : Fields) :
    Outcomes Eq SemanticOutcome.SameButId
      (mapRuntimeTechnicalStatus u status boundary reason context evidence)
      (mapRuntimeTechnicalStatus u' status boundary reason context evidence) := by
  refine Outcomes.bind_same _ (fun m => Outcomes.bind_same _ (fun merged => ?_))
  unfold SemanticOutcome.make
  split
  · exact .ok rfl
  · exact .error rfl

theorem mapPostgresWriteSideResultToSemanticOutcome_sameButId (u u' : Uuid)
    (r : PostgresWriteSideResult) : Outcomes Eq SemanticOutcome.SameButId
      (mapPostgresWriteSideResultToSemanticOutcome u r)
      (mapPostgresWriteSideResultToSemanticOutcome u' r) :=
  Outcomes.bind_same _ (fun _ => Outcomes.bind_same _ (fun _ => Outcomes.bind_same _ (fun _ =>
    Outcomes.bind_same _ (fun _ => mapRuntimeTechnicalStatus_sameButId _ _ _ _ _ _ _))))

/-- The receipt of a result depends on the allocated identities in its two id fields only. -/
theorem mapPostgresWriteSideResultToDecisionReceipt_sameButIds (a u a' u' : Uuid)
    (r : PostgresWriteSideResult) : Outcomes Eq DecisionReceipt.SameButIds
      (mapPostgresWriteSideResultToDecisionReceipt a u r)
      (mapPostgresWriteSideResultToDecisionReceipt a' u' r) := by
  refine Outcomes.bind_same _ (fun _ => ?_)
  refine (mapPostgresWriteSideResultToSemanticOutcome_sameButId u u' r).bind (fun o o' ho => ?_)
  refine Outcomes.bind_same _ (fun identity => Outcomes.bind_same _ (fun subject =>
    Outcomes.bind_same _ (fun correlation => Outcomes.bind_same _ (fun disposition =>
      Outcomes.bind_same _ (fun summary => ?_)))))
  rw [← show _ = o' from ho]
  unfold mapSemanticOutcomeToDecisionReceipt
  split
  · exact .error rfl
  · exact Outcomes.bind_same _ (fun _ => .ok rfl)

/-! ## The receipt transaction -/

/-- The same exception up to its message; a conflict names the receipt that was refused. -/
inductive SameReceiptException : ReceiptException → ReceiptException → Prop where
  | idleInTransactionSessionTimeout (sqlstate : SqlstateAttribute) (m m' : String) :
    SameReceiptException ⟨.idleInTransactionSessionTimeout,sqlstate,m⟩
      ⟨.idleInTransactionSessionTimeout,sqlstate,m'⟩
  | decisionReceiptConflictError (category : DecisionReceiptConflictCategory)
    (acceptedEventId : Option Uuid) (receiptId receiptId' : Uuid) (sqlstate : SqlstateAttribute)
    (m m' : String) :
    SameReceiptException
      ⟨.decisionReceiptConflictError ⟨category,receiptId,acceptedEventId⟩,sqlstate,m⟩
      ⟨.decisionReceiptConflictError ⟨category,receiptId',acceptedEventId⟩,sqlstate,m'⟩
  | other (name : String) (sqlstate : SqlstateAttribute) (m m' : String) :
    SameReceiptException ⟨.other name,sqlstate,m⟩ ⟨.other name,sqlstate,m'⟩

namespace SameReceiptException
variable {e e' : ReceiptException}

theorem safeSqlstate (h : SameReceiptException e e') : e.safeSqlstate = e'.safeSqlstate := by
  cases h <;> rfl

theorem idleOwnerTimeout (h : SameReceiptException e e') :
    e.isCharacterizedIdleOwnerTimeout = e'.isCharacterizedIdleOwnerTimeout := by
  cases h <;> rfl

end SameReceiptException

inductive SameConnectionCall : ReceiptConnectionOperation DecisionReceipt →
    ReceiptConnectionOperation DecisionReceipt → Prop where
  | same (op : ReceiptConnectionOperation DecisionReceipt) : SameConnectionCall op op
  | insert {r r' : DecisionReceipt} (provenance : DecisionReceiptMaterializationProvenance)
    (ids : r.SameButIds r') : SameConnectionCall (.insert r provenance) (.insert r' provenance)

structure SameInsertResult (x x' : DecisionReceiptInsertResult DecisionReceipt) : Prop where
  status : x.status = x'.status
  receipt : x.record.receipt.SameButIds x'.record.receipt
  provenance : x.record.materializationProvenance = x'.record.materializationProvenance
  materializedAt : x.record.materializedAt = x'.record.materializedAt

inductive ConnectionTexts : ReceiptConnectionExchange DecisionReceipt →
    ReceiptConnectionExchange DecisionReceipt → Prop where
  | ok (op : ReceiptConnectionOperation DecisionReceipt) (a : op.Answer) :
    ConnectionTexts ⟨op,.ok a⟩ ⟨op,.ok a⟩
  | inserted {r r' : DecisionReceipt} (provenance : DecisionReceiptMaterializationProvenance)
    (ids : r.SameButIds r') {x x' : DecisionReceiptInsertResult DecisionReceipt}
    (row : SameInsertResult x x') :
    ConnectionTexts ⟨.insert r provenance,.ok x⟩ ⟨.insert r' provenance,.ok x'⟩
  | error {op op' : ReceiptConnectionOperation DecisionReceipt} (calls : SameConnectionCall op op')
    {e e' : ReceiptException} (texts : SameReceiptException e e') :
    ConnectionTexts ⟨op,.error e⟩ ⟨op',.error e'⟩

def connectionTexts : Correspondence (ReceiptConnectionOperation DecisionReceipt)
    ReceiptConnectionOperation.Answer ReceiptException := ⟨SameConnectionCall,ConnectionTexts⟩

/-- What the coherence of a result reads. -/
structure TransactionEvidence.Alike (e e' : TransactionEvidence DecisionReceipt) : Prop where
  durability : e.durability = e'.durability
  rollbackDisposition : e.rollbackDisposition = e'.rollbackDisposition
  statementResult : e.statementResult.isSome = e'.statementResult.isSome
  failureCategory : e.failureCategory = e'.failureCategory
  conflictError : e.conflictError.isSome = e'.conflictError.isSome
  connectionDisposition : e.connectionDisposition = e'.connectionDisposition
  cleanupFailures : e.cleanupFailures = e'.cleanupFailures

theorem TransactionEvidence.Alike.validate {e e' : TransactionEvidence DecisionReceipt}
    (h : e.Alike e') : e.validateResultCoherence = e'.validateResultCoherence := by
  obtain ⟨d,r,s,f,c,n,q,l⟩ := e
  obtain ⟨d',r',s',f',c',n',q',l'⟩ := e'
  obtain ⟨rfl,rfl,hs,rfl,hc,rfl,rfl⟩ := h
  simp only at hs hc
  have hnone {α : Type} {a b : Option α} (hab : a.isSome = b.isSome) : a.isNone = b.isNone := by
    cases a <;> cases b <;> simp_all
  simp only [validateResultCoherence, validateCleanupCoherence, validateAcquisitionFailureResult,
    validateCommittedResult, validateUnknownResult, validateConflictResult,
    validateIdleOwnerTimeoutResult, validatePrecommitFailureResult,
    validateAutocommitEntryFailureResult, validateDiscardedEntryFailureResult,
    validateEntryFailureCommon, validateRolledBackAcquiredResult, carriesStatementOrConflict, endsAs,
    hs, hc, hnone hs, hnone hc]

namespace PostgresDecisionReceiptTransactionOwner

abbrev Alike {α β : Type} (P : α → β → Prop) (m : ReceiptConnectionRoutine DecisionReceipt α)
    (n : ReceiptConnectionRoutine DecisionReceipt β) : Prop :=
  Routine.Similar connectionTexts Eq (fun _ _ => True) P m n

def SameDurability (r r' : PostgresDecisionReceiptTransactionResult DecisionReceipt) : Prop :=
  r.durability = r'.durability

theorem alike_call {op : ReceiptConnectionOperation DecisionReceipt}
    (hop : ∀ r p, op ≠ .insert r p) :
    Alike (Outcomes SameReceiptException Eq) (Routine.attempt (onConnection op))
      (Routine.attempt (onConnection op)) := by
  refine Routine.similar_attempt (Routine.similar_perform (.same op) (fun r r' h => ?_))
  cases h with
  | ok _ a => exact .ok rfl
  | inserted provenance => exact absurd rfl (hop _ provenance)
  | error _ texts => exact .error texts

theorem alike_transactionResult {e e' : TransactionEvidence DecisionReceipt} (h : e.Alike e') :
    Alike SameDurability (transactionResult e) (transactionResult e') := by
  refine Routine.similar_ofExcept ?_
  have hsame := h.validate
  unfold PostgresDecisionReceiptTransactionResult.make
  split
  · split
    · exact .error trivial
    · simp_all
  · split
    · simp_all
    · exact .ok h.durability

theorem alike_closeConnection (success : DecisionReceiptConnectionDisposition) :
    Alike Eq (closeConnection success) (closeConnection success) := by
  refine Routine.similar_bind (alike_call (by simp)) (fun r r' h => ?_)
  cases h with
  | ok _ => exact Routine.similar_pure rfl
  | error texts => exact Routine.similar_pure (by rw [texts.safeSqlstate])

theorem alike_closed {success : DecisionReceiptConnectionDisposition}
    {evidence evidence' : DecisionReceiptConnectionDisposition ×
      List DecisionReceiptCleanupFailureCategory × Option String → TransactionEvidence DecisionReceipt}
    (h : ∀ end_, (evidence end_).Alike (evidence' end_)) :
    Alike SameDurability (closeConnection success >>= fun end_ => transactionResult (evidence end_))
      (closeConnection success >>= fun end_ => transactionResult (evidence' end_)) := by
  refine Routine.similar_bind (alike_closeConnection success) (fun a b hab => ?_)
  subst hab
  exact alike_transactionResult (h a)

theorem alike_discardedResult (durability : DecisionReceiptTransactionDurability)
    (category : DecisionReceiptTransactionFailureCategory) {e e' : ReceiptException}
    {s s' : Option (DecisionReceiptInsertResult DecisionReceipt)} (hs : s.isSome = s'.isSome) :
    Alike SameDurability (discardedResult durability category e s)
      (discardedResult durability category e' s') :=
  alike_closed (fun _ => ⟨rfl,rfl,hs,rfl,rfl,rfl,rfl⟩)

theorem alike_connectionInvariantFailureResult {e e' : Option ReceiptException}
    (category : DecisionReceiptTransactionFailureCategory) (discard : Bool) :
    Alike SameDurability (connectionInvariantFailureResult e category discard)
      (connectionInvariantFailureResult e' category discard) :=
  alike_closed (fun _ => ⟨rfl,rfl,rfl,rfl,rfl,rfl,rfl⟩)

theorem alike_precommitFailureResult {e e' : ReceiptException}
    (category : DecisionReceiptTransactionFailureCategory)
    {c c' : Option DecisionReceiptConflictError} (hc : c.isSome = c'.isSome) :
    Alike SameDurability (precommitFailureResult e category c)
      (precommitFailureResult e' category c') := by
  refine Routine.similar_bind (alike_call (by simp)) (fun r r' h => ?_)
  cases h with
  | ok _ => exact alike_closed (fun _ => ⟨rfl,rfl,rfl,rfl,hc,rfl,rfl⟩)
  | error _ => exact alike_closed (fun _ => ⟨rfl,rfl,rfl,rfl,hc,rfl,rfl⟩)

theorem alike_failedBeforeCommit {e e' : ReceiptException} (h : SameReceiptException e e')
    (category : DecisionReceiptTransactionFailureCategory) :
    Alike SameDurability (failedBeforeCommit e category) (failedBeforeCommit e' category) := by
  simp only [failedBeforeCommit, h.idleOwnerTimeout]
  split
  · exact alike_discardedResult _ _ rfl
  · exact alike_precommitFailureResult category rfl

theorem alike_insert {r r' : DecisionReceipt} (provenance : DecisionReceiptMaterializationProvenance)
    (ids : r.SameButIds r') :
    Alike (Outcomes SameReceiptException (fun _ _ => True))
      (Routine.attempt (onConnection (.insert r provenance)))
      (Routine.attempt (onConnection (.insert r' provenance))) := by
  refine Routine.similar_attempt (Routine.similar_perform (.insert provenance ids) (fun x y h => ?_))
  cases h with
  | ok _ a => exact .ok trivial
  | inserted _ _ row => exact .ok trivial
  | error _ texts => exact .error texts

theorem alike_persistOn (o : PostgresDecisionReceiptTransactionOwner) {r r' : DecisionReceipt}
    (provenance : DecisionReceiptMaterializationProvenance) (ids : r.SameButIds r') :
    Alike SameDurability (o.persistOn r provenance) (o.persistOn r' provenance) := by
  refine Routine.similar_bind (alike_call (by simp)) (fun timeout timeout' h => ?_)
  cases h with
  | error texts => exact alike_failedBeforeCommit texts _
  | ok _ =>
    refine Routine.similar_bind (alike_insert provenance ids) (fun inserted inserted' h => ?_)
    cases h with
    | error texts =>
      cases texts with
      | decisionReceiptConflictError => exact alike_precommitFailureResult _ rfl
      | idleInTransactionSessionTimeout sqlstate m m' =>
        exact alike_failedBeforeCommit (.idleInTransactionSessionTimeout sqlstate m m') _
      | other name sqlstate m m' => exact alike_failedBeforeCommit (.other name sqlstate m m') _
    | ok _ =>
      refine Routine.similar_bind (alike_call (by simp)) (fun commit commit' h => ?_)
      cases h with
      | ok _ => exact alike_closed (fun _ => ⟨rfl,rfl,rfl,rfl,rfl,rfl,rfl⟩)
      | error texts =>
        simp only [texts.idleOwnerTimeout]
        split
        · exact alike_discardedResult _ _ rfl
        · exact alike_discardedResult _ _ rfl

theorem alike_entryFailure {m n : ReceiptConnectionRoutine DecisionReceipt
      (PostgresDecisionReceiptTransactionResult DecisionReceipt)} (h : Alike SameDurability m n) :
    Alike (Option.Rel SameDurability) (do let failure ← m; pure (some failure))
      (do let failure ← n; pure (some failure)) :=
  Routine.similar_bind h (fun _ _ hr => Routine.similar_pure (.some hr))

theorem alike_validateConnectionEntry :
    Alike (Option.Rel SameDurability) validateConnectionEntry validateConnectionEntry := by
  refine Routine.similar_bind (alike_call (by simp)) (fun autocommit autocommit' h => ?_)
  cases h with
  | error _ => exact alike_entryFailure (alike_connectionInvariantFailureResult _ _)
  | @ok a b hab =>
    subst hab
    cases a with
    | true => exact alike_entryFailure (alike_connectionInvariantFailureResult _ _)
    | false =>
      refine Routine.similar_bind (alike_call (by simp)) (fun status status' h => ?_)
      cases h with
      | error _ => exact alike_entryFailure (alike_connectionInvariantFailureResult _ _)
      | @ok a b hab =>
        subst hab
        simp only
        split
        · exact alike_entryFailure (alike_connectionInvariantFailureResult _ _)
        · exact Routine.similar_pure .none

/-- The transactions of two receipts that differ in their identities make the same calls. -/
theorem alike_persist (o : PostgresDecisionReceiptTransactionOwner) {r r' : DecisionReceipt}
    (provenance : DecisionReceiptMaterializationProvenance) (ids : r.SameButIds r') :
    Alike SameDurability (o.persist r provenance) (o.persist r' provenance) := by
  refine Routine.similar_bind (alike_call (by simp)) (fun connection connection' h => ?_)
  cases h with
  | error _ => exact alike_transactionResult ⟨rfl,rfl,rfl,rfl,rfl,rfl,rfl⟩
  | ok _ =>
    refine Routine.similar_bind alike_validateConnectionEntry (fun entry entry' h => ?_)
    cases h with
    | some related => exact Routine.similar_pure related
    | none => exact alike_persistOn o provenance ids

end PostgresDecisionReceiptTransactionOwner
/-! ## The composition -/

inductive SameReceiptCall : ReceiptOperation → ReceiptOperation → Prop where
  | identityFactory (k : IdentityFactory) (n : ℕ) :
    SameReceiptCall (.identityFactory k n) (.identityFactory k n)
  | mapResult (n : ℕ) (r u r' u' : Uuid) (result : PyObject PostgresWriteSideResult) :
    SameReceiptCall (.mapResult n r u result) (.mapResult n r' u' result)
  | persist (n : ℕ) {r r' : DecisionReceipt} (ids : r.SameButIds r') :
    SameReceiptCall (.persist n r) (.persist n r')
  | newObject : SameReceiptCall .newObject .newObject

/-- An identity factory that returns a UUID both times, or does the same. -/
inductive SameIdentity : Except BaseException (Option Uuid) → Except BaseException (Option Uuid) →
    Prop where
  | allocated (u u' : Uuid) : SameIdentity (.ok (some u)) (.ok (some u'))
  | otherType : SameIdentity (.ok none) (.ok none)
  | error (e : BaseException) : SameIdentity (.error e) (.error e)

inductive ReceiptTexts : ReceiptExchange → ReceiptExchange → Prop where
  | identityFactory (k : IdentityFactory) (n : ℕ) {r r' : Except BaseException (Option Uuid)}
    (identity : SameIdentity r r') :
    ReceiptTexts ⟨.identityFactory k n,r⟩ ⟨.identityFactory k n,r'⟩
  | mapped (n : ℕ) (a u a' u' : Uuid) (result : PyObject PostgresWriteSideResult)
    {r r' : DecisionReceipt} (ids : r.SameButIds r') :
    ReceiptTexts ⟨.mapResult n a u result,.ok r⟩ ⟨.mapResult n a' u' result,.ok r'⟩
  | unmapped (n : ℕ) (a u a' u' : Uuid) (result : PyObject PostgresWriteSideResult)
    (e : BaseException) :
    ReceiptTexts ⟨.mapResult n a u result,.error e⟩ ⟨.mapResult n a' u' result,.error e⟩
  | persisted (n : ℕ) {r r' : DecisionReceipt}
    (x x' : PostgresDecisionReceiptTransactionResult DecisionReceipt) :
    ReceiptTexts ⟨.persist n r,.ok x⟩ ⟨.persist n r',.ok x'⟩
  | notPersisted (n : ℕ) {r r' : DecisionReceipt} (e e' : PyException) :
    ReceiptTexts ⟨.persist n r,.error (.exception e)⟩ ⟨.persist n r',.error (.exception e')⟩
  | newObject (address : ℕ) : ReceiptTexts ⟨.newObject,.ok address⟩ ⟨.newObject,.ok address⟩

def receiptTexts : Correspondence ReceiptOperation ReceiptOperation.Answer BaseException :=
  ⟨SameReceiptCall,ReceiptTexts⟩

/-- Both are caught by `except Exception`, or both pass it. -/
inductive SameKind : BaseException → BaseException → Prop where
  | exception (e e' : PyException) : SameKind (.exception e) (.exception e')
  | processControl (name : String) : SameKind (.processControl name) (.processControl name)

theorem SameKind.refl (e : BaseException) : SameKind e e := by
  cases e with
  | exception e => exact .exception e e
  | processControl name => exact .processControl name

structure MaterializationDelivery.SameButIds (d d' : MaterializationDelivery) : Prop where
  businessResult : d.businessResult = d'.businessResult
  status : d.status = d'.status
  receipt : Option.Rel DecisionReceipt.SameButIds d.receipt d'.receipt
  failureCategory : d.failureCategory = d'.failureCategory

structure PersistenceCompositionDelivery.SameButIds (d d' : PersistenceCompositionDelivery) : Prop where
  businessResult : d.businessResult = d'.businessResult
  materializationDelivery : d.materializationDelivery.SameButIds d'.materializationDelivery
  persistenceReached : d.persistenceReached = d'.persistenceReached

/-- Two handles of one result in the same phase. -/
structure CompletedInvocation.SameButIds (h h' : CompletedInvocation) : Prop where
  businessResult : h.businessResult = h'.businessResult
  persistenceEligibility : h.persistenceEligibility = h'.persistenceEligibility
  receiptId : h.materializationOwner.receiptId.isSome = h'.materializationOwner.receiptId.isSome
  outcomeId : h.materializationOwner.outcomeId.isSome = h'.materializationOwner.outcomeId.isSome
  materialized : Option.Rel MaterializationDelivery.SameButIds
    h.materializationOwner.cachedDelivery h'.materializationOwner.cachedDelivery
  persistenceOwner : Option.Rel (fun o o' => Option.Rel PersistenceCompositionDelivery.SameButIds
    o.cachedDelivery o'.cachedDelivery) h.persistenceOwner h'.persistenceOwner
  published : h.cachedReceiptDelivery.isSome = h'.cachedReceiptDelivery.isSome

namespace CompletedInvocation

/-- Steps of a composition that correspond on handles of one result. -/
abbrev Alike {α β : Type} (P : α → β → Prop) (m : ReceiptRoutine CompletedInvocation α)
    (n : ReceiptRoutine CompletedInvocation β) : Prop :=
  Routine.Similar receiptTexts SameButIds SameKind P m n

theorem alike_ofPython {α β : Type} {P : α → β → Prop} {r : Except PyException α}
    {r' : Except PyException β} (h : Outcomes (fun _ _ => True) P r r') :
    Alike P (ofPython r) (ofPython r') :=
  Routine.similar_ofExcept (h.mapError (fun e e' _ => .exception e e'))

theorem alike_call {op op' : ReceiptOperation} {E : BaseException → BaseException → Prop}
    {P : op.Answer → op'.Answer → Prop} (calls : SameReceiptCall op op')
    (h : ∀ r r', ReceiptTexts ⟨op,r⟩ ⟨op',r'⟩ → Outcomes E P r r') :
    Routine.Similar receiptTexts SameButIds E P (onReceipt op) (onReceipt op') :=
  Routine.similar_perform calls h

theorem materializationDelivery_alike (result : PyObject PostgresWriteSideResult)
    (status : MaterializationStatus) {r r' : Option DecisionReceipt}
    (h : Option.Rel DecisionReceipt.SameButIds r r')
    (category : Option MaterializationFailureCategory) :
    Outcomes (fun _ _ => True) MaterializationDelivery.SameButIds
      (MaterializationDelivery.make result status r category)
      (MaterializationDelivery.make result status r' category) := by
  have hnone : r.isNone = r'.isNone := by cases h <;> rfl
  have hsome : r.isSome = r'.isSome := by cases h <;> rfl
  unfold MaterializationDelivery.make
  cases status with
  | materialized =>
    simp only [hnone]
    split
    · exact .error trivial
    · split
      · exact .error trivial
      · exact .ok ⟨rfl,rfl,h,rfl⟩
  | materializationFailed =>
    simp only [hsome]
    split
    · exact .error trivial
    · split
      · exact .error trivial
      · exact .ok ⟨rfl,rfl,h,rfl⟩

theorem materialized_alike (result : PyObject PostgresWriteSideResult)
    {r r' : Except BaseException DecisionReceipt} (h : Outcomes Eq DecisionReceipt.SameButIds r r') :
    Outcomes SameKind MaterializationDelivery.SameButIds (CompletedInvocation.materialized result r)
      (CompletedInvocation.materialized result r') := by
  have hmake {d d' : Except PyException MaterializationDelivery}
      (hd : Outcomes (fun _ _ => True) MaterializationDelivery.SameButIds d d') :
      Outcomes SameKind MaterializationDelivery.SameButIds (d.mapError BaseException.exception)
        (d'.mapError BaseException.exception) := hd.mapError (fun e e' _ => .exception e e')
  cases h with
  | ok ids => exact hmake (materializationDelivery_alike result .materialized (.some ids) none)
  | @error e e' related =>
    subst related
    unfold CompletedInvocation.materialized
    split
    · exact absurd ‹_› (by simp)
    · exact hmake (materializationDelivery_alike result _ .none _)
    · split
      · exact hmake (materializationDelivery_alike result _ .none _)
      · exact .error (.exception _ _)
    · exact .error (.refl _)

theorem alike_identityFromFactory (k : IdentityFactory) (n : ℕ) :
    Alike (fun _ _ => True) (identityFromFactory k n) (identityFromFactory k n) := by
  have hcall : Alike (fun (u u' : Option Uuid) => u.isSome = u'.isSome)
      (onReceipt (.identityFactory k n)) (onReceipt (.identityFactory k n)) := by
    refine alike_call (.identityFactory k n) (fun r r' h => ?_)
    cases h with
    | identityFactory _ _ identity =>
      cases identity with
      | allocated u u' => exact .ok rfl
      | otherType => exact .ok rfl
      | error e => exact .error (.refl e)
  refine Routine.similar_bind hcall (fun u u' h => ?_)
  cases u with
  | none =>
    cases u' with
    | none => exact alike_ofPython (.error trivial)
    | some _ => cases h
  | some _ =>
    cases u' with
    | none => cases h
    | some _ => exact Routine.similar_pure trivial

theorem alike_requireMaterializationIdentities (n : ℕ) :
    Alike (fun _ _ => True) (requireMaterializationIdentities n) (requireMaterializationIdentities n) := by
  refine Routine.similar_bind Routine.similar_get (fun h h' hs => ?_)
  have hrel {a b : Option Uuid} (h : a.isSome = b.isSome) : Option.Rel (fun _ _ => True) a b := by
    cases a <;> cases b <;> first | exact .none | exact .some trivial | cases h
  have hnone {α : Type} {a b : Option α} (hab : a.isSome = b.isSome) : a.isNone = b.isNone := by
    cases a <;> cases b <;> simp_all
  simp only [hnone hs.receiptId, hnone hs.outcomeId]
  split
  on_goal 1 =>
    refine Routine.similar_bind (alike_identityFromFactory _ n) (fun r r' _ => ?_)
    refine Routine.similar_bind (alike_identityFromFactory _ n) (fun u u' _ => ?_)
    refine Routine.similar_bind (Routine.similar_modify (P := fun _ _ => True) trivial
      (fun h h' hs => ⟨hs.businessResult,hs.persistenceEligibility,rfl,rfl,hs.materialized,
        hs.persistenceOwner,hs.published⟩)) (fun _ _ _ => ?_)
  all_goals
    refine Routine.similar_bind Routine.similar_get (fun o o' ho => ?_)
    have hr := hrel ho.receiptId
    have hu := hrel ho.outcomeId
    generalize o.materializationOwner.receiptId = r at hr
    generalize o'.materializationOwner.receiptId = r' at hr
    generalize o.materializationOwner.outcomeId = u at hu
    generalize o'.materializationOwner.outcomeId = u' at hu
    cases hr with
    | none => exact alike_ofPython (.error trivial)
    | some _ =>
      cases hu with
      | none => exact alike_ofPython (.error trivial)
      | some _ => exact Routine.similar_pure trivial

theorem alike_mapResult (n : ℕ) (a u a' u' : Uuid) (result : PyObject PostgresWriteSideResult) :
    Alike (Outcomes Eq DecisionReceipt.SameButIds)
      (Routine.attempt (onReceipt (.mapResult n a u result)))
      (Routine.attempt (onReceipt (.mapResult n a' u' result))) := by
  refine Routine.similar_attempt (alike_call (.mapResult n a u a' u' result) (fun r r' h => ?_))
  cases h with
  | mapped _ _ _ _ _ _ ids => exact .ok ids
  | unmapped _ _ _ _ _ _ e => exact .error rfl

theorem alike_materializeReceipt (n : ℕ) :
    Alike MaterializationDelivery.SameButIds (materializeReceipt n) (materializeReceipt n) := by
  refine Routine.similar_bind Routine.similar_get (fun h h' hs => ?_)
  have hresult : h.materializationOwner.completedResult = h'.materializationOwner.completedResult := by
    rw [h.retained, h'.retained, hs.businessResult]
  have hmaterialized := hs.materialized
  generalize h.materializationOwner = o at hresult hmaterialized
  generalize h'.materializationOwner = o' at hresult hmaterialized
  obtain ⟨result,_,_,d⟩ := o
  obtain ⟨_,_,_,d'⟩ := o'
  subst hresult
  cases hmaterialized with
  | some same => exact Routine.similar_pure same
  | none =>
    refine Routine.similar_bind (alike_requireMaterializationIdentities n) (fun ids ids' _ => ?_)
    refine Routine.similar_bind (alike_mapResult n _ _ _ _ result) (fun r r' hr => ?_)
    refine Routine.similar_bind (Routine.similar_ofExcept (materialized_alike result hr))
      (fun d d' hd => ?_)
    refine Routine.similar_bind (Routine.similar_modify (P := fun _ _ => True) trivial
      (fun h h' hs => ?_)) (fun _ _ _ => Routine.similar_pure hd)
    exact ⟨hs.businessResult,hs.persistenceEligibility,hs.receiptId,hs.outcomeId,.some hd,
      hs.persistenceOwner,hs.published⟩

theorem persistenceDelivery_alike {m m' : MaterializationDelivery} (h : m.SameButIds m')
    (reached : Bool) {r r' : Option (PostgresDecisionReceiptTransactionResult DecisionReceipt)}
    (hr : r.isSome = r'.isSome) :
    Outcomes (fun _ _ => True) PersistenceCompositionDelivery.SameButIds
      (PersistenceCompositionDelivery.make m.businessResult m reached r)
      (PersistenceCompositionDelivery.make m'.businessResult m' reached r') := by
  have hnone : r.isNone = r'.isNone := by cases r <;> cases r' <;> simp_all
  simp only [PersistenceCompositionDelivery.make, ne_eq, not_true_eq_false, if_false, h.status, hr,
    hnone]
  repeat' split
  all_goals first
    | exact .error trivial
    | exact .ok ⟨h.businessResult,h,rfl⟩

theorem alike_persist (n : ℕ) {r r' : DecisionReceipt} (ids : r.SameButIds r') :
    Alike (fun _ _ => True) (onReceipt (.persist n r)) (onReceipt (.persist n r')) := by
  refine alike_call (.persist n ids) (fun x x' h => ?_)
  cases h with
  | persisted _ _ _ => exact .ok trivial
  | notPersisted _ e e' => exact .error (.exception e e')

theorem alike_composePersistence (n : ℕ) {o o' : PersistenceCompositionOwner}
    (h : Option.Rel PersistenceCompositionDelivery.SameButIds o.cachedDelivery o'.cachedDelivery) :
    Alike PersistenceCompositionDelivery.SameButIds (composePersistence o n)
      (composePersistence o' n) := by
  unfold composePersistence
  generalize o.cachedDelivery = d at h
  generalize o'.cachedDelivery = d' at h
  cases h with
  | some same => exact Routine.similar_pure same
  | none =>
    refine Routine.similar_bind (alike_materializeReceipt n) (fun m m' hm => ?_)
    have hrest {d d' : PersistenceCompositionDelivery} (hd : d.SameButIds d') :
        Alike PersistenceCompositionDelivery.SameButIds
          (do Routine.modify (fun h => h.compose d); pure d)
          (do Routine.modify (fun h => h.compose d'); pure d') := by
      refine Routine.similar_bind (Routine.similar_modify (P := fun _ _ => True) trivial
        (fun h h' hs => ?_)) (fun _ _ _ => Routine.similar_pure hd)
      refine ⟨hs.businessResult,hs.persistenceEligibility,hs.receiptId,hs.outcomeId,hs.materialized,
        ?_,hs.published⟩
      have howner := hs.persistenceOwner
      simp only [compose]
      generalize h.persistenceOwner = o at howner
      generalize h'.persistenceOwner = o' at howner
      cases howner with
      | none => exact .none
      | some _ => exact .some (.some hd)
    simp only [hm.status]
    split
    · exact Routine.similar_bind (alike_ofPython (persistenceDelivery_alike hm false rfl))
        (fun _ _ hd => hrest hd)
    · have hreceipt := hm.receipt
      generalize m.receipt = r at hreceipt
      generalize m'.receipt = r' at hreceipt
      cases hreceipt with
      | none => exact Routine.similar_bind (alike_ofPython (.error trivial)) (fun _ _ hd => hrest hd)
      | some ids =>
        refine Routine.similar_bind (alike_persist n ids) (fun x x' _ => ?_)
        exact Routine.similar_bind (alike_ofPython (persistenceDelivery_alike hm true rfl))
          (fun _ _ hd => hrest hd)

theorem alike_newDelivery (status : RuntimeStatus) {d d' : Option PersistenceCompositionDelivery}
    (hd : Option.Rel PersistenceCompositionDelivery.SameButIds d d') :
    Alike (fun _ _ => True) (newDelivery status d) (newDelivery status d') := by
  refine Routine.similar_bind Routine.similar_get (fun h h' hs => ?_)
  have hmake : Outcomes (fun _ _ => True) (fun _ _ => True)
      (RuntimeDelivery.make h.businessResult h.persistenceEligibility status d)
      (RuntimeDelivery.make h'.businessResult h'.persistenceEligibility status d') := by
    rw [hs.businessResult, hs.persistenceEligibility]
    cases hd with
    | none =>
      unfold RuntimeDelivery.make
      repeat' split
      all_goals first
        | exact .error trivial
        | exact .ok trivial
    | some same =>
      simp only [RuntimeDelivery.make, same.businessResult, same.materializationDelivery.status,
        same.persistenceReached]
      repeat' split
      all_goals first
        | exact .error trivial
        | exact .ok trivial
        | contradiction
  refine Routine.similar_bind (alike_ofPython hmake) (fun _ _ _ => ?_)
  refine Routine.similar_bind (alike_call (P := fun _ _ => True) .newObject (fun r r' h => ?_))
    (fun _ _ _ => Routine.similar_pure trivial)
  cases h with
  | newObject address => exact .ok trivial

/-- The compositions of one result make the same calls, up to the allocated identities. -/
theorem alike_composeSection (n : ℕ) :
    Alike (fun _ _ => True) (composeSection n) (composeSection n) := by
  refine Routine.similar_bind Routine.similar_get (fun h h' hs => ?_)
  have hrest {d d' : PyObject RuntimeDelivery} : Alike (fun _ _ => True)
      (do Routine.modify (fun h => h.publish d); pure d)
      (do Routine.modify (fun h => h.publish d'); pure d') := by
    refine Routine.similar_bind (Routine.similar_modify (P := fun _ _ => True) trivial
      (fun h h' hs => ?_)) (fun _ _ _ => Routine.similar_pure trivial)
    exact ⟨hs.businessResult,hs.persistenceEligibility,hs.receiptId,hs.outcomeId,hs.materialized,
      hs.persistenceOwner,rfl⟩
  have hpublished := hs.published
  have howner := hs.persistenceOwner
  generalize h.cachedReceiptDelivery = d at hpublished
  generalize h'.cachedReceiptDelivery = d' at hpublished
  generalize h.persistenceOwner = o at howner
  generalize h'.persistenceOwner = o' at howner
  cases d with
  | some _ =>
    cases d' with
    | some _ => exact Routine.similar_pure trivial
    | none => cases hpublished
  | none =>
    cases d' with
    | some _ => cases hpublished
    | none =>
      cases howner with
      | none => exact Routine.similar_bind (alike_newDelivery _ .none) (fun _ _ _ => hrest)
      | @some a b ho =>
        have hcomposed : Alike (fun _ _ => True)
            (do deliveryFromPersistence (← composePersistence a n))
            (do deliveryFromPersistence (← composePersistence b n)) := by
          refine Routine.similar_bind (alike_composePersistence n ho) (fun d d' hd => ?_)
          simp only [deliveryFromPersistence, hd.materializationDelivery.status]
          exact alike_newDelivery _ (.some hd)
        refine Routine.similar_bind (Routine.similar_attempt hcomposed) (fun r r' hr => ?_)
        cases hr with
        | ok _ => exact hrest
        | error related =>
          cases related with
          | exception e e' =>
            exact Routine.similar_bind (alike_newDelivery _ .none) (fun _ _ _ => hrest)
          | processControl name => exact Routine.similar_raise (.processControl name)

/-- The composition of an ineligible result makes no call but that of its delivery. -/
theorem composeSection_ineligible (n : ℕ) {h h' : CompletedInvocation}
    (hfresh : h.cachedReceiptDelivery = none) (hfresh' : h'.cachedReceiptDelivery = none)
    (hi : h.persistenceEligibility = .ineligible) (hi' : h'.persistenceEligibility = .ineligible) :
    Program.Similar receiptTexts (fun _ _ => True) (composeSection n h) (composeSection n h') := by
  obtain ⟨r,_,m,o,_,evaluated,retained,composed⟩ := h
  obtain ⟨r',_,m',o',_,evaluated',retained',composed'⟩ := h'
  subst hfresh hfresh' hi hi'
  cases o with
  | some _ => cases composed
  | none =>
    cases o' with
    | some _ => cases composed'
    | none =>
      refine .call .newObject (fun x x' hx => ?_)
      cases hx with
      | newObject address => exact .done trivial

end CompletedInvocation

theorem PostgresWriteSideResult.AppendRejected.ineligible {r : PostgresWriteSideResult}
    (h : r.AppendRejected) : evaluatePersistenceEligibility r = .ineligible := by
  obtain ⟨houtcome,hadmission⟩ := h
  obtain ⟨a,ha⟩ := Option.isSome_iff_exists.mp hadmission
  simp [evaluatePersistenceEligibility, houtcome, ha]

theorem composeSection_similar (n address : ℕ) {r r' : PostgresWriteSideResult}
    (h : SameUnlessAppendRejected r r') : Program.Similar receiptTexts (fun _ _ => True)
      (CompletedInvocation.composeSection n (.fromRuntimeOwner ⟨address,r⟩))
      (CompletedInvocation.composeSection n (.fromRuntimeOwner ⟨address,r'⟩)) := by
  rcases h with rfl | ⟨h,h'⟩
  · refine (CompletedInvocation.alike_composeSection n _ _ ?_).mono (fun _ _ _ => trivial)
    refine ⟨rfl,rfl,rfl,rfl,.none,?_,rfl⟩
    simp only [CompletedInvocation.fromRuntimeOwner]
    split
    · exact .some .none
    · exact .none
  · exact CompletedInvocation.composeSection_ineligible n rfl rfl h.ineligible h'.ineligible

/-! ## The path -/

inductive SamePathCall : PathOperation → PathOperation → Prop where
  | sql (op : Operation) : SamePathCall (.sql op) (.sql op)
  | newObject : SamePathCall .newObject .newObject
  | identityFactory (k : IdentityFactory) : SamePathCall (.identityFactory k) (.identityFactory k)
  | persist {r r' : DecisionReceipt} (ids : r.SameButIds r') : SamePathCall (.persist r) (.persist r')
  | connection {op op' : ReceiptConnectionOperation DecisionReceipt}
    (call : SameConnectionCall op op') : SamePathCall (.connection op) (.connection op')

/-- The same reply, up to the texts of exceptions and to allocated identities. -/
inductive PathTexts : PathExchange → PathExchange → Prop where
  | sql {op : Operation} {r r' : SqlReply op} (texts : SqlTexts ⟨op,r⟩ ⟨op,r'⟩) :
    PathTexts ⟨.sql op,.ok r⟩ ⟨.sql op,.ok r'⟩
  | newObject (address : ℕ) : PathTexts ⟨.newObject,.ok address⟩ ⟨.newObject,.ok address⟩
  | identityFactory (k : IdentityFactory) {r r' : Except BaseException (Option Uuid)}
    (identity : SameIdentity r r') :
    PathTexts ⟨.identityFactory k,.ok r⟩ ⟨.identityFactory k,.ok r'⟩
  | persist {r r' : DecisionReceipt} (ids : r.SameButIds r') :
    PathTexts ⟨.persist r,.ok ()⟩ ⟨.persist r',.ok ()⟩
  | connection {op op' : ReceiptConnectionOperation DecisionReceipt} {r : ReceiptConnectionReply op}
    {r' : ReceiptConnectionReply op'} (texts : ConnectionTexts ⟨op,r⟩ ⟨op',r'⟩) :
    PathTexts ⟨.connection op,.ok r⟩ ⟨.connection op',.ok r'⟩

def pathTexts : Correspondence PathOperation PathOperation.Answer Empty := ⟨SamePathCall,PathTexts⟩

namespace ReceiptPath

theorem issue_similar {op op' : PathOperation} {R : op.Answer → op'.Answer → Prop}
    (call : SamePathCall op op') (h : ∀ a b, PathTexts ⟨op,.ok a⟩ ⟨op',.ok b⟩ → R a b) :
    Program.Similar pathTexts R op.issue op'.issue := by
  refine .call call (fun r r' hr => ?_)
  cases r with
  | ok a =>
    cases r' with
    | ok b => exact .done (h a b hr)
    | error e => exact nomatch e
  | error e => exact nomatch e

theorem persistReceipt_similar (o : PostgresDecisionReceiptTransactionOwner) (n : ℕ)
    {r r' : DecisionReceipt} (ids : r.SameButIds r') :
    Program.Similar pathTexts (fun x x' => ReceiptTexts ⟨.persist n r,x⟩ ⟨.persist n r',x'⟩)
      (persistReceipt o r) (persistReceipt o r') := by
  refine (issue_similar (R := fun _ _ => True) (.persist ids) (fun _ _ _ => trivial)).bind (fun _ _ _ => ?_)
  have hpersist := PostgresDecisionReceiptTransactionOwner.alike_persist o .liveResult ids () () rfl
  refine (hpersist.interpret (fun op op' _ _ call => issue_similar (.connection call)
    (fun a b h => ?_)) _ _).bind (fun x x' h => .done ?_)
  · cases h with
    | connection texts => exact texts
  · obtain ⟨h,-⟩ := h
    generalize x.1 = y at h
    generalize x'.1 = y' at h
    cases h with
    | ok _ => exact .persisted n _ _
    | error _ => exact .notPersisted n _ _

theorem answerCall_similar (o : PostgresDecisionReceiptTransactionOwner) {op op' : ReceiptOperation}
    (ho : op.OnPath) (ho' : op'.OnPath) (call : SameReceiptCall op op') :
    Program.Similar pathTexts (fun r r' => ReceiptTexts ⟨op,r⟩ ⟨op',r'⟩) (answerCall o op ho)
      (answerCall o op' ho') := by
  cases call with
  | identityFactory k n =>
    refine issue_similar (.identityFactory k) (fun a b h => ?_)
    cases h with
    | identityFactory _ identity => exact .identityFactory k n identity
  | mapResult n r u r' u' result =>
    refine .done ?_
    have hmap := mapPostgresWriteSideResultToDecisionReceipt_sameButIds r u r' u' result.value
    generalize mapPostgresWriteSideResultToDecisionReceipt r u result.value = x at hmap
    generalize mapPostgresWriteSideResultToDecisionReceipt r' u' result.value = x' at hmap
    cases hmap with
    | ok ids => exact .mapped n r u r' u' result ids
    | error related => exact related ▸ .unmapped n r u r' u' result _
  | persist n ids => exact persistReceipt_similar o n ids
  | newObject =>
    refine (issue_similar (R := Eq) .newObject (fun a b h => ?_)).bind (fun a b hab => .done ?_)
    · cases h with
      | newObject address => rfl
    · exact hab ▸ .newObject a

end ReceiptPath

theorem receiptPath_similar (v : WriteInvocation) (o : PostgresDecisionReceiptTransactionOwner) :
    Program.Similar pathTexts (fun _ _ => True) (receiptPath v o) (receiptPath v o) := by
  refine (v.textBlind.interpret (fun op op' _ _ hop => ?_) _ _).bind (fun r r' h => ?_)
  · obtain rfl : op = op' := hop
    refine ReceiptPath.issue_similar (.sql op) (fun a b h => ?_)
    cases h with
    | sql texts => exact texts
  · cases h with
    | error _ => exact .done trivial
    | ok same =>
      refine (ReceiptPath.issue_similar (R := Eq) .newObject (fun a b h => ?_)).bind
        (fun address b hab => ?_)
      · cases h with
        | newObject address => rfl
      · subst hab
        refine Program.Similar.bind (R := fun _ _ => True) ?_ (fun _ _ _ => .done trivial)
        refine ((composeSection_similar 0 address same).interpret
          (fun op op' ho ho' call => ReceiptPath.answerCall_similar o ho ho' call) _ _).bind
          (fun _ _ _ => .done trivial)

/-- The receipts a run handed to the transaction owner. -/
def handedReceipts (es : List PathExchange) : List DecisionReceipt :=
  es.filterMap (fun x => match x.1 with
    | .persist receipt => some receipt
    | _ => none)

def acknowledgesCommit : PathExchange → Bool
  | ⟨.connection .commit,.ok (.ok _)⟩ => true
  | _ => false

def persistedReceipt (es : List PathExchange) : Bool := es.any acknowledgesCommit

theorem handedReceipts_same {es es' : List PathExchange} (h : List.Forall₂ PathTexts es es') :
    List.Forall₂ DecisionReceipt.SameButIds (handedReceipts es) (handedReceipts es') := by
  induction h with
  | nil => exact .nil
  | cons hx _ ih =>
    cases hx with
    | persist ids => exact .cons ids ih
    | sql _ => exact ih
    | newObject _ => exact ih
    | identityFactory _ _ => exact ih
    | connection _ => exact ih

theorem persistedReceipt_same {es es' : List PathExchange} (h : List.Forall₂ PathTexts es es') :
    persistedReceipt es = persistedReceipt es' := by
  induction h with
  | nil => rfl
  | @cons x y _ _ hx _ ih =>
    have hhead : acknowledgesCommit x = acknowledgesCommit y := by
      cases hx with
      | sql _ => rfl
      | newObject _ => rfl
      | identityFactory _ _ => rfl
      | persist _ => rfl
      | connection texts =>
        cases texts with
        | ok op a => rfl
        | inserted _ _ _ => rfl
        | error calls _ =>
          cases calls with
          | same => cases ‹ReceiptConnectionOperation DecisionReceipt› <;> rfl
          | insert _ _ => rfl
    simp only [persistedReceipt, List.any_cons, hhead] at ih ⊢
    rw [ih]

/-- Two runs of an invocation and its receipt path that differ in the texts of what the
database and the stores raise, and in the identities they allocate, hand over the same
receipts up to those identities, and one persists a receipt exactly when the other does. -/
theorem receipt_noninterference {v : WriteInvocation} {o : PostgresDecisionReceiptTransactionOwner}
    {es es' : List PathExchange}
    {r r' : Except PyException (Except BaseException (PyObject RuntimeDelivery))}
    (h : (receiptPath v o).Executes es r) (h' : (receiptPath v o).Executes es' r')
    (hsame : pathTexts.Aligned es es') :
    List.Forall₂ DecisionReceipt.SameButIds (handedReceipts es) (handedReceipts es') ∧
      persistedReceipt es = persistedReceipt es' := by
  obtain ⟨hall,-⟩ := (receiptPath_similar v o).executes h h' hsame
  exact ⟨handedReceipts_same hall,persistedReceipt_same hall⟩

/-! A creation that is admitted, and whose receipt is refused twice with other words; and the
same creation where already its insert is refused. -/
namespace RefusedInsert

def invocation : WriteInvocation :=
  ⟨.inTransaction,.optimistic,invokeValidation .strict,⟨"r",.create,"A",.int 10⟩,⟨1,0⟩,false,none⟩

def owner : PostgresDecisionReceiptTransactionOwner := ⟨1000,by decide⟩

/-- What everything answers; the text and the identities vary. -/
def answer (admits : Bool) (text : String) (identity : Uuid) :
    ∀ op, Reply PathOperation.Answer Empty op
  | .sql op => .ok (match op with
    | .autocommit => .ok false
    | .selectIdempotencyRecord _ => .ok none
    | .selectHistory _ => .ok []
    | .selectCurrentVersion _ => .ok 0
    | .insertOrderEvent _ => if admits then .ok () else .error (.uniqueViolation none text)
    | .begin | .commit | .rollback | .insertIdempotencyRecord _ | .upsertProjectionState _ => .ok ()
    | _ => .error (.other "OperationalError" text))
  | .newObject => .ok 7
  | .identityFactory _ => .ok (.ok (some identity))
  | .persist _ => .ok ()
  | .connection op => .ok (match op with
    | .autocommit => .ok false
    | .transactionStatus => .ok .idle
    | .insert _ _ => .error ⟨.other "OperationalError",.str "08006",text⟩
    | .connectionFactory | .setIdleOwnerTimeout _ | .commit | .rollback | .close => .ok ())

theorem answers_same (admits : Bool) (text text' : String) (identity identity' : Uuid)
    (op op' : PathOperation) (h : SamePathCall op op') :
    PathTexts ⟨op,answer admits text identity op⟩ ⟨op',answer admits text' identity' op'⟩ := by
  cases h with
  | sql op =>
    refine .sql ?_
    cases admits <;> cases op <;> first
      | exact .ok _ _
      | exact .error _ (.other _ _ _)
      | exact .error _ (.uniqueViolation _ _ _)
  | newObject => exact .newObject 7
  | identityFactory k => exact .identityFactory k (.allocated _ _)
  | persist ids => exact .persist ids
  | connection call =>
    refine .connection ?_
    cases call with
    | same =>
      cases ‹ReceiptConnectionOperation DecisionReceipt› <;> first
        | exact .ok _ _
        | exact .error (.same _) (.other _ _ _ _)
    | insert provenance ids => exact .error (.insert provenance ids) (.other _ _ _ _)

def run (admits : Bool) (text : String) (identity : Uuid) : List PathExchange :=
  ((receiptPath invocation owner).respond (answer admits text identity)).1

end RefusedInsert

open RefusedInsert in
theorem receipt_noninterference_refused :
    (handedReceipts (run true "server closed the connection" 3)).length = 1 ∧
      handedReceipts (run false "server closed the connection" 3) = [] ∧
      ∀ admits, List.Forall₂ DecisionReceipt.SameButIds
          (handedReceipts (run admits "server closed the connection" 3))
          (handedReceipts (run admits "could not receive data" 4)) ∧
        persistedReceipt (run admits "server closed the connection" 3) =
          persistedReceipt (run admits "could not receive data" 4) :=
  ⟨by decide +kernel,by decide +kernel,fun admits => receipt_noninterference
    (Program.executes_respond _ _) (Program.executes_respond _ _)
    (Correspondence.aligned_respond (answers_same admits _ _ 3 4) _ _)⟩

end StreamingCompass
