import StreamingCompass.Concurrency.OwnerCalls
import StreamingCompass.Interleaving.Monitor
import StreamingCompass.Transactional.ReceiptOwners

/-! # Calls on one runtime owner and its handles

Each method as a program: the runtime owner and every handle are monitors, and the locks of
the owners inside them are never contended. The writer, the identity factories, the mapper
and the receipt transaction return or raise what they want.
-/
namespace StreamingCompass
open Interleaving

inductive IdentityFactory where | receiptId | outcomeId
deriving DecidableEq, Repr

def IdentityFactory.name : IdentityFactory → String
  | .receiptId => "receipt_id_factory"
  | .outcomeId => "outcome_id_factory"

/-- The receipt path names the handle it works for. -/
inductive ReceiptOperation where
  | enterRuntime
  | leaveRuntime (o : PostgresWriteSideDecisionReceiptRuntimeOwner)
  | write (call : WriterCall)
  | newHandle (h : CompletedInvocation)
  | enterHandle (n : ℕ)
  | leaveHandle (n : ℕ) (h : CompletedInvocation)
  | identityFactory (k : IdentityFactory) (n : ℕ)
  | mapResult (n : ℕ) (receiptId outcomeId : Uuid) (result : PyObject PostgresWriteSideResult)
  | persist (n : ℕ) (receipt : DecisionReceipt)
  | newObject
  | uuid4

/-- A factory that returns something else than a UUID answers `none`. -/
abbrev ReceiptOperation.Answer : ReceiptOperation → Type
  | .enterRuntime => PostgresWriteSideDecisionReceiptRuntimeOwner
  | .write _ => PyObject PostgresWriteSideResult
  | .newHandle _ | .newObject => ℕ
  | .enterHandle _ => CompletedInvocation
  | .identityFactory _ _ => Option Uuid
  | .mapResult _ _ _ _ => DecisionReceipt
  | .persist _ _ => PostgresDecisionReceiptTransactionResult DecisionReceipt
  | .uuid4 => Uuid
  | _ => Unit

abbrev ReceiptReply (op : ReceiptOperation) : Type := Reply ReceiptOperation.Answer BaseException op
abbrev ReceiptExchange : Type := Exchange ReceiptOperation ReceiptOperation.Answer BaseException
abbrev ReceiptLog : Type := Log ReceiptOperation ReceiptOperation.Answer BaseException
abbrev ReceiptRoutine (σ α : Type) : Type :=
  Routine ReceiptOperation ReceiptOperation.Answer BaseException σ α
abbrev ReceiptProgram (α : Type) : Type :=
  Program ReceiptOperation ReceiptOperation.Answer BaseException α

abbrev onReceipt {σ : Type} (op : ReceiptOperation) : ReceiptRoutine σ op.Answer :=
  Routine.perform op

/-- What a computation of the code itself returns or raises. -/
abbrev ofPython {σ α : Type} (r : Except PyException α) : ReceiptRoutine σ α :=
  Routine.ofExcept (r.mapError .exception)

/-! ## Handles -/

namespace CompletedInvocation

/-- `_identity_from_factory` -/
def identityFromFactory (k : IdentityFactory) (n : ℕ) : ReceiptRoutine CompletedInvocation Uuid := do
  match ← onReceipt (.identityFactory k n) with
  | some identity => pure identity
  | none => ofPython (.error (.typeError (k.name ++ " must return UUID")))

/-- `_require_materialization_identities` -/
def requireMaterializationIdentities (n : ℕ) :
    ReceiptRoutine CompletedInvocation (Uuid × Uuid) := do
  let o := (← Routine.get).materializationOwner
  if o.receiptId.isNone && o.outcomeId.isNone then
    let receiptId ← identityFromFactory .receiptId n
    let outcomeId ← identityFromFactory .outcomeId n
    Routine.modify (fun h => h.allocate receiptId outcomeId)
  let o ← Routine.get
  match o.materializationOwner.receiptId, o.materializationOwner.outcomeId with
  | some receiptId, some outcomeId => pure (receiptId,outcomeId)
  | _, _ => ofPython (.error (.assertionError "materialization identities must be coherent"))

/-- The delivery of a mapped result: `TypeError` and `ValueError` are the failures the
materialization owner recognizes. -/
def materialized (result : PyObject PostgresWriteSideResult)
    (mapped : Except BaseException DecisionReceipt) : Except BaseException MaterializationDelivery :=
  match mapped with
  | .ok receipt =>
    (MaterializationDelivery.make result .materialized (some receipt) none).mapError .exception
  | .error (.exception (.typeError _)) => (MaterializationDelivery.make result
      .materializationFailed none (some .typeError)).mapError .exception
  | .error (.exception e) =>
    if e.isValueError then (MaterializationDelivery.make result
      .materializationFailed none (some .valueError)).mapError .exception
    else .error (.exception e)
  | .error e => .error e

/-- `PostgresWriteSideDecisionReceiptMaterializationOwner.materialize` -/
def materializeReceipt (n : ℕ) : ReceiptRoutine CompletedInvocation MaterializationDelivery := do
  let o := (← Routine.get).materializationOwner
  match o.cachedDelivery with
  | some delivery => pure delivery
  | none =>
    let (receiptId,outcomeId) ← requireMaterializationIdentities n
    let mapped ← Routine.attempt (onReceipt (.mapResult n receiptId outcomeId o.completedResult))
    let delivery ← Routine.ofExcept (materialized o.completedResult mapped)
    Routine.modify (fun h => h.materialize delivery)
    pure delivery

/-- `PostgresWriteSideDecisionReceiptPersistenceCompositionOwner.compose` -/
def composePersistence (o : PersistenceCompositionOwner) (n : ℕ) :
    ReceiptRoutine CompletedInvocation PersistenceCompositionDelivery := do
  match o.cachedDelivery with
  | some delivery => pure delivery
  | none =>
    let m ← materializeReceipt n
    let delivery ← match m.status with
      | .materializationFailed =>
        ofPython (PersistenceCompositionDelivery.make m.businessResult m false none)
      | .materialized => match m.receipt with
        | none => ofPython (.error (.assertionError
            "materialized delivery must retain its exact receipt"))
        | some receipt => do
          let result ← onReceipt (.persist n receipt)
          ofPython (PersistenceCompositionDelivery.make m.businessResult m true (some result))
    Routine.modify (fun h => h.compose delivery)
    pure delivery

def newDelivery (status : RuntimeStatus) (delivery : Option PersistenceCompositionDelivery) :
    ReceiptRoutine CompletedInvocation (PyObject RuntimeDelivery) := do
  let h ← Routine.get
  let d ← ofPython
    (RuntimeDelivery.make h.businessResult h.persistenceEligibility status delivery)
  let address ← onReceipt .newObject
  pure ⟨address,d⟩

/-- `_delivery_from_persistence` -/
def deliveryFromPersistence (d : PersistenceCompositionDelivery) :
    ReceiptRoutine CompletedInvocation (PyObject RuntimeDelivery) :=
  newDelivery (match d.materializationDelivery.status with
    | .materializationFailed => .materializationFailed
    | .materialized => .persistenceCompleted) (some d)

/-- The section of `compose_receipt`. -/
def composeSection (n : ℕ) : ReceiptRoutine CompletedInvocation (PyObject RuntimeDelivery) := do
  let h ← Routine.get
  match h.cachedReceiptDelivery with
  | some delivery => pure delivery
  | none =>
    let delivery ← match h.persistenceOwner with
      | none => newDelivery .persistenceIneligible none
      | some o => do
        let composed ← Routine.attempt (do deliveryFromPersistence (← composePersistence o n))
        match composed with
        | .ok delivery => pure delivery
        | .error (.exception _) => newDelivery .unexpectedCompositionException none
        | .error e => Routine.raise e
    Routine.modify (fun h => h.publish delivery)
    pure delivery

/-- `compose_receipt` -/
def composeReceipt (n : ℕ) : ReceiptProgram (Except BaseException (PyObject RuntimeDelivery)) :=
  Program.synchronized (.enterHandle n) id (.leaveHandle n) (composeSection n)

end CompletedInvocation

/-! ## The runtime owner -/

namespace PostgresWriteSideDecisionReceiptRuntimeOwner

def completion (o : PostgresWriteSideDecisionReceiptRuntimeOwner) : Attempt → Option ℕ
  | .initial => o.initialCompletion
  | .reinvocation => o.authorizedReinvocationCompletion

def retain (o : PostgresWriteSideDecisionReceiptRuntimeOwner) (a : Attempt) (n : ℕ) :
    PostgresWriteSideDecisionReceiptRuntimeOwner :=
  match a with
  | .initial => {o with initialCompletion := some n}
  | .reinvocation => {o with authorizedReinvocationCompletion := some n}

@[simp] theorem completion_retain (o : PostgresWriteSideDecisionReceiptRuntimeOwner) (a b : Attempt)
    (n : ℕ) : (o.retain a n).completion b = if b = a then some n else o.completion b := by
  cases a <;> cases b <;> rfl

def missingCompletion : Attempt → String
  | .initial => "initial invocation has not completed normally"
  | .reinvocation => "authorized re-invocation has not completed normally"

def publishedTwice : Attempt → String
  | .initial => "initial completion must publish once"
  | .reinvocation => "authorized re-invocation completion must publish once"

/-- `initial_completion` and `authorized_reinvocation_completion` -/
def readCompletion (a : Attempt) : ReceiptRoutine PostgresWriteSideDecisionReceiptRuntimeOwner ℕ := do
  match (← Routine.get).completion a with
  | some n => pure n
  | none => ofPython (.error (.runtimeLifecycleError (missingCompletion a)))

/-- A method of the invocation owner, under whose lock the runtime owner's also is. -/
def onInvocationOwner {α : Type}
    (f : PostgresWriteSideInvocationOwner → Except PyException α × PostgresWriteSideInvocationOwner) :
    ReceiptRoutine PostgresWriteSideDecisionReceiptRuntimeOwner α := do
  let o ← Routine.get
  Routine.modify (fun o => {o with invocationOwner := (f o.invocationOwner).2})
  ofPython (f o.invocationOwner).1

/-- `invoke_initial` and `invoke_authorized_reinvocation` of the invocation owner -/
def invokeOwner (a : Attempt) : ReceiptRoutine PostgresWriteSideDecisionReceiptRuntimeOwner
    (PyObject PostgresWriteSideResult) := do
  onInvocationOwner (fun o => o.admission a)
  let s := (← Routine.get).invocationOwner.requestSignature
  let result ← onReceipt (.write (retainedCall s))
  onInvocationOwner (fun o => (.ok (),o.publish a result))
  pure result

/-- The section of `invoke_initial` and `invoke_authorized_reinvocation`. -/
def invokeSection (a : Attempt) : ReceiptRoutine PostgresWriteSideDecisionReceiptRuntimeOwner ℕ := do
  let result ← invokeOwner a
  let n ← onReceipt (.newHandle (.fromRuntimeOwner result))
  if ((← Routine.get).completion a).isSome then
    ofPython (.error (.assertionError (publishedTwice a)))
  Routine.modify (fun o => o.retain a n)
  pure n

def evaluateCurrentResponse : ReceiptRoutine PostgresWriteSideDecisionReceiptRuntimeOwner
    (PyObject PostgresWriteSideCurrentResponseDelivery) := do
  let drawn ← onReceipt .uuid4
  let address ← onReceipt .newObject
  onInvocationOwner (fun o => o.evaluateCurrentResponse drawn address)

def evaluateReinvocationAuthority : ReceiptRoutine PostgresWriteSideDecisionReceiptRuntimeOwner
    (PyObject ReinvocationAuthorityEvaluation) := do
  let address ← onReceipt .newObject
  onInvocationOwner (fun o => o.evaluateReinvocationAuthority address)

end PostgresWriteSideDecisionReceiptRuntimeOwner

/-! ## The machine -/

inductive ReceiptMethod where
  | completion (a : Attempt)
  | invoke (a : Attempt)
  | evaluateCurrentResponse
  | evaluateReinvocationAuthority
  | composeReceipt (n : ℕ)
deriving DecidableEq, Repr

inductive ReceiptOutcome where
  | completion (r : Except BaseException ℕ)
  | delivery (r : Except BaseException (PyObject PostgresWriteSideCurrentResponseDelivery))
  | evaluation (r : Except BaseException (PyObject ReinvocationAuthorityEvaluation))
  | receipt (r : Except BaseException (PyObject RuntimeDelivery))

/-- A section under the lock of the runtime owner. -/
def onRuntime {α : Type} (body : ReceiptRoutine PostgresWriteSideDecisionReceiptRuntimeOwner α) :
    ReceiptProgram (Except BaseException α) :=
  Program.synchronized .enterRuntime id .leaveRuntime body

open PostgresWriteSideDecisionReceiptRuntimeOwner in
def ReceiptMethod.program : ReceiptMethod → ReceiptProgram ReceiptOutcome
  | .completion a => (onRuntime (readCompletion a)).bind (fun r => .done (.completion r))
  | .invoke a => (onRuntime (invokeSection a)).bind (fun r => .done (.completion r))
  | .evaluateCurrentResponse =>
    (onRuntime PostgresWriteSideDecisionReceiptRuntimeOwner.evaluateCurrentResponse).bind
      (fun r => .done (.delivery r))
  | .evaluateReinvocationAuthority =>
    (onRuntime PostgresWriteSideDecisionReceiptRuntimeOwner.evaluateReinvocationAuthority).bind
      (fun r => .done (.evaluation r))
  | .composeReceipt n =>
    (CompletedInvocation.composeReceipt n).bind (fun r => .done (.receipt r))

/-- The runtime owner and the handles in the order they were built. -/
structure ReceiptWorld (ι : Type) where
  runtime : Monitor ι PostgresWriteSideDecisionReceiptRuntimeOwner
  handles : List (Monitor ι CompletedInvocation)

/-- What an operation of a thread does; `raises` are the exceptions the receipt path may raise. -/
inductive ReceiptStep {ι : Type} (raises : BaseException → Prop) (i : ι) :
    ReceiptWorld ι → (op : ReceiptOperation) → ReceiptReply op → ReceiptWorld ι → Prop where
  | enterRuntime {w : ReceiptWorld ι} (open_ : w.runtime.holder = none) :
    ReceiptStep raises i w .enterRuntime (.ok w.runtime.value) {w with runtime := w.runtime.enter i}
  | leaveRuntime {w : ReceiptWorld ι} (o : PostgresWriteSideDecisionReceiptRuntimeOwner) :
    ReceiptStep raises i w (.leaveRuntime o) (.ok ()) {w with runtime := .free o}
  | write {w : ReceiptWorld ι} (call : WriterCall) (reply : ReceiptReply (.write call)) :
    ReceiptStep raises i w (.write call) reply w
  | newHandle {w : ReceiptWorld ι} (h : CompletedInvocation) :
    ReceiptStep raises i w (.newHandle h) (.ok w.handles.length)
      {w with handles := w.handles ++ [.free h]}
  | enterHandle {w : ReceiptWorld ι} {n : ℕ} {m : Monitor ι CompletedInvocation}
    (built : w.handles[n]? = some m) (open_ : m.holder = none) :
    ReceiptStep raises i w (.enterHandle n) (.ok m.value)
      {w with handles := w.handles.set n (m.enter i)}
  | leaveHandle {w : ReceiptWorld ι} (n : ℕ) (h : CompletedInvocation) :
    ReceiptStep raises i w (.leaveHandle n h) (.ok ())
      {w with handles := w.handles.set n (.free h)}
  | identityFactory {w : ReceiptWorld ι} (k : IdentityFactory) (n : ℕ)
    (reply : ReceiptReply (.identityFactory k n)) (raised : ∀ e, reply = .error e → raises e) :
    ReceiptStep raises i w (.identityFactory k n) reply w
  | mapResult {w : ReceiptWorld ι} (n : ℕ) (receiptId outcomeId : Uuid)
    (result : PyObject PostgresWriteSideResult)
    (reply : ReceiptReply (.mapResult n receiptId outcomeId result))
    (raised : ∀ e, reply = .error e → raises e) :
    ReceiptStep raises i w (.mapResult n receiptId outcomeId result) reply w
  | persist {w : ReceiptWorld ι} (n : ℕ) (receipt : DecisionReceipt)
    (reply : ReceiptReply (.persist n receipt)) (raised : ∀ e, reply = .error e → raises e) :
    ReceiptStep raises i w (.persist n receipt) reply w
  | newObject {w : ReceiptWorld ι} (address : ℕ) : ReceiptStep raises i w .newObject (.ok address) w
  | uuid4 {w : ReceiptWorld ι} (u : Uuid) : ReceiptStep raises i w .uuid4 (.ok u) w

abbrev ReceiptSystem (ι : Type) : Type :=
  Config ι (ReceiptWorld ι) ReceiptOperation ReceiptOperation.Answer BaseException ReceiptOutcome
abbrev ReceiptEntry (ι : Type) : Type :=
  Entry ι (ReceiptWorld ι) ReceiptOperation ReceiptOperation.Answer BaseException

/-- A thread that is given up inside a section keeps its lock. -/
def receiptMachine (ι : Type) (raises : BaseException → Prop) :
    Machine ι (ReceiptWorld ι) ReceiptOperation ReceiptOperation.Answer BaseException where
  step i w op reply w' := ReceiptStep raises i w op reply w'
  abandon _ w := w

/-- A new runtime owner and the calls that will be made on it and on its handles. -/
def ReceiptSystem.start {ι : Type} (o : PostgresWriteSideDecisionReceiptRuntimeOwner)
    (calls : ι → ReceiptMethod) : ReceiptSystem ι :=
  ⟨⟨.free o,[]⟩,fun i => some (calls i).program,[]⟩

/-- The configurations of the runs of some calls, by what the receipt path may raise. -/
def ReceiptReachable {ι : Type} [DecidableEq ι] (raises : BaseException → Prop)
    (o : PostgresWriteSideDecisionReceiptRuntimeOwner) (calls : ι → ReceiptMethod)
    (c : ReceiptSystem ι) : Prop := Reaches (receiptMachine ι raises) (ReceiptSystem.start o calls) c

end StreamingCompass
