import StreamingCompass.Interleaving.System
import StreamingCompass.Transactional.InvocationOwner

/-! # Calls on one invocation owner

The methods of an owner as programs of its sections under the lock, with the writer running
between them. Each thread makes one call; the writer returns any result or raises.
-/
namespace StreamingCompass
open Interleaving

/-- The first invocation and the one that authority allows. -/
inductive Attempt where | initial | reinvocation
deriving DecidableEq, Repr

inductive WriterCall where
  | createOrder (requestId orderId : String) (amount : MoneyInput)
  | payOrder (requestId orderId : String) (amount : MoneyInput)
deriving DecidableEq, Repr

def WriterCall.signature : WriterCall → RequestSignature
  | .createOrder requestId orderId amount => ⟨requestId,.create,orderId,amount⟩
  | .payOrder requestId orderId amount => ⟨requestId,.pay,orderId,amount⟩

namespace PostgresWriteSideInvocationOwner

/-- The section before the writer runs. -/
def admission (o : PostgresWriteSideInvocationOwner) :
    Attempt → Except PyException Unit × PostgresWriteSideInvocationOwner
  | .initial => o.admitInitial
  | .reinvocation => o.spendAuthority

/-- The section after the writer returned. -/
def publish (o : PostgresWriteSideInvocationOwner) (a : Attempt)
    (result : PyObject PostgresWriteSideResult) : PostgresWriteSideInvocationOwner :=
  match a with
  | .initial => o.publishInitial result
  | .reinvocation => o.publishCurrentResponseResult result

def admitted (o : PostgresWriteSideInvocationOwner) : Attempt → Bool
  | .initial => o.initialInvocationStarted
  | .reinvocation => o.authoritySpent

end PostgresWriteSideInvocationOwner

inductive OwnerOperation where
  | admission (a : Attempt)
  | enterWriter (call : WriterCall)
  | leaveWriter
  | publish (a : Attempt) (result : PyObject PostgresWriteSideResult)
  | evaluateCurrentResponse
  | evaluateReinvocationAuthority

abbrev OwnerOperation.Answer : OwnerOperation → Type
  | .leaveWriter => PyObject PostgresWriteSideResult
  | .evaluateCurrentResponse => PyObject PostgresWriteSideCurrentResponseDelivery
  | .evaluateReinvocationAuthority => PyObject ReinvocationAuthorityEvaluation
  | _ => Unit

abbrev OwnerReply (op : OwnerOperation) : Type := Reply OwnerOperation.Answer PyException op
abbrev OwnerLog : Type := Log OwnerOperation OwnerOperation.Answer PyException
abbrev OwnerRoutine (α : Type) : Type :=
  Routine OwnerOperation OwnerOperation.Answer PyException Unit α
abbrev OwnerProgram (α : Type) : Type := Program OwnerOperation OwnerOperation.Answer PyException α

abbrev onOwner (op : OwnerOperation) : OwnerRoutine op.Answer := Routine.perform op

/-- What an operation does to the owner; the writer does what it wants. -/
inductive OwnerStep : PostgresWriteSideInvocationOwner → (op : OwnerOperation) → OwnerReply op →
    PostgresWriteSideInvocationOwner → Prop where
  | admission {o : PostgresWriteSideInvocationOwner} (a : Attempt) :
    OwnerStep o (.admission a) (o.admission a).1 (o.admission a).2
  | enterWriter {o : PostgresWriteSideInvocationOwner} (call : WriterCall) :
    OwnerStep o (.enterWriter call) (.ok ()) o
  | leaveWriter {o : PostgresWriteSideInvocationOwner} (reply : OwnerReply .leaveWriter) :
    OwnerStep o .leaveWriter reply o
  | publish {o : PostgresWriteSideInvocationOwner} (a : Attempt)
    (result : PyObject PostgresWriteSideResult) :
    OwnerStep o (.publish a result) (.ok ()) (o.publish a result)
  | evaluateCurrentResponse {o : PostgresWriteSideInvocationOwner} (drawn : Uuid) (address : ℕ) :
    OwnerStep o .evaluateCurrentResponse (o.evaluateCurrentResponse drawn address).1
      (o.evaluateCurrentResponse drawn address).2
  | evaluateReinvocationAuthority {o : PostgresWriteSideInvocationOwner} (address : ℕ) :
    OwnerStep o .evaluateReinvocationAuthority (o.evaluateReinvocationAuthority address).1
      (o.evaluateReinvocationAuthority address).2

/-- `_dispatch_retained_request`. A writer that returns another type raises for it. -/
def retainedCall (s : RequestSignature) : WriterCall :=
  match s.commandType with
  | .create => .createOrder s.requestId s.orderId s.amount
  | .pay => .payOrder s.requestId s.orderId s.amount

theorem retainedCall_signature (s : RequestSignature) : (retainedCall s).signature = s := by
  rcases s with ⟨requestId,command,orderId,amount⟩
  cases command <;> rfl

def dispatchRetainedRequest (s : RequestSignature) :
    OwnerRoutine (PyObject PostgresWriteSideResult) := do
  onOwner (.enterWriter (retainedCall s))
  onOwner .leaveWriter

/-- Admission, the writer without the lock, publication. -/
def invoke (s : RequestSignature) (a : Attempt) : OwnerRoutine (PyObject PostgresWriteSideResult) := do
  onOwner (.admission a)
  let result ← dispatchRetainedRequest s
  onOwner (.publish a result)
  pure result

def invokeInitial (s : RequestSignature) : OwnerRoutine (PyObject PostgresWriteSideResult) :=
  invoke s .initial
def invokeAuthorizedReinvocation (s : RequestSignature) :
    OwnerRoutine (PyObject PostgresWriteSideResult) := invoke s .reinvocation

inductive OwnerMethod where
  | invoke (a : Attempt)
  | evaluateCurrentResponse
  | evaluateReinvocationAuthority
deriving DecidableEq, Repr

inductive OwnerOutcome where
  | result (r : Except PyException (PyObject PostgresWriteSideResult))
  | delivery (r : Except PyException (PyObject PostgresWriteSideCurrentResponseDelivery))
  | evaluation (r : Except PyException (PyObject ReinvocationAuthorityEvaluation))

def OwnerMethod.program (s : RequestSignature) : OwnerMethod → OwnerProgram OwnerOutcome
  | .invoke .initial => (invokeInitial s ()).bind (fun out => .done (.result out.1))
  | .invoke .reinvocation =>
    (invokeAuthorizedReinvocation s ()).bind (fun out => .done (.result out.1))
  | .evaluateCurrentResponse =>
    .call .evaluateCurrentResponse (fun r => .done (.delivery r))
  | .evaluateReinvocationAuthority =>
    .call .evaluateReinvocationAuthority (fun r => .done (.evaluation r))

abbrev OwnerSystem (ι : Type) : Type :=
  Config ι PostgresWriteSideInvocationOwner OwnerOperation OwnerOperation.Answer PyException OwnerOutcome
abbrev OwnerEntry (ι : Type) : Type :=
  Entry ι PostgresWriteSideInvocationOwner OwnerOperation OwnerOperation.Answer PyException

def ownerMachine (ι : Type) :
    Machine ι PostgresWriteSideInvocationOwner OwnerOperation OwnerOperation.Answer PyException where
  step _ o op reply o' := OwnerStep o op reply o'
  abandon _ o := o

/-- A new owner and the calls that will be made on it. -/
def OwnerSystem.start {ι : Type} (o : PostgresWriteSideInvocationOwner) (calls : ι → OwnerMethod) :
    OwnerSystem ι := ⟨o,fun i => some ((calls i).program o.requestSignature),[]⟩

/-! ## What a call issues -/

/-- The log of a call fixes its next operation. -/
inductive Issues (s : RequestSignature) : OwnerMethod → OwnerLog → OwnerOperation → Prop where
  | admission (a : Attempt) : Issues s (.invoke a) [] (.admission a)
  | enterWriter (a : Attempt) :
    Issues s (.invoke a) [⟨.admission a,.ok ()⟩] (.enterWriter (retainedCall s))
  | leaveWriter (a : Attempt) :
    Issues s (.invoke a) [⟨.enterWriter (retainedCall s),.ok ()⟩,⟨.admission a,.ok ()⟩] .leaveWriter
  | publish (a : Attempt) (result : PyObject PostgresWriteSideResult) :
    Issues s (.invoke a) [⟨.leaveWriter,.ok result⟩,⟨.enterWriter (retainedCall s),.ok ()⟩,
      ⟨.admission a,.ok ()⟩] (.publish a result)
  | evaluateCurrentResponse : Issues s .evaluateCurrentResponse [] .evaluateCurrentResponse
  | evaluateReinvocationAuthority :
    Issues s .evaluateReinvocationAuthority [] .evaluateReinvocationAuthority

/-- Entering the writer and publishing cannot fail. -/
def OwnerOperation.succeeds : (op : OwnerOperation) → OwnerReply op → Prop
  | .enterWriter _, r => r = .ok ()
  | .publish _ _, r => r = .ok ()
  | _, _ => True

theorem OwnerStep.succeeds {o o' : PostgresWriteSideInvocationOwner} {op : OwnerOperation}
    {reply : OwnerReply op} (h : OwnerStep o op reply o') : op.succeeds reply := by
  cases h <;> trivial

def ownerContract (s : RequestSignature) (m : OwnerMethod) :
    Contract OwnerOperation OwnerOperation.Answer PyException where
  allowed _ := OwnerOperation.succeeds
  guard := Issues s m

theorem invoke_meets (s : RequestSignature) (a : Attempt) :
    (invoke s a).Meets (ownerContract s (.invoke a)) () [] (fun _ _ _ => True) := by
  simp only [invoke, dispatchRetainedRequest, Routine.meets_bind, Routine.meets_perform]
  refine ⟨.admission a,fun reply _ => ?_⟩
  cases reply with
  | error e => trivial
  | ok _ =>
    refine ⟨.enterWriter a,fun reply hr => ?_⟩
    obtain rfl : reply = .ok () := hr
    refine ⟨.leaveWriter a,fun reply _ => ?_⟩
    cases reply with
    | error e => trivial
    | ok result =>
      refine ⟨.publish a result,fun reply hr => ?_⟩
      obtain rfl : reply = .ok () := hr
      trivial

theorem OwnerMethod.program_meets (s : RequestSignature) (m : OwnerMethod) :
    (m.program s).Meets (ownerContract s m) (fun _ _ => True) [] := by
  cases m with
  | invoke a =>
    have h := invoke_meets s a
    cases a <;> exact (Program.meets_bind _ _ _).mpr h
  | evaluateCurrentResponse => exact ⟨.evaluateCurrentResponse,fun _ _ => trivial⟩
  | evaluateReinvocationAuthority => exact ⟨.evaluateReinvocationAuthority,fun _ _ => trivial⟩

variable {ι : Type} [DecidableEq ι] {o : PostgresWriteSideInvocationOwner} {calls : ι → OwnerMethod}
  {c c' : OwnerSystem ι} {i j : ι}

/-- The configurations of the runs of some calls on an owner. -/
def OwnerReachable (o : PostgresWriteSideInvocationOwner) (calls : ι → OwnerMethod)
    (c : OwnerSystem ι) : Prop := Reaches (ownerMachine ι) (OwnerSystem.start o calls) c

namespace OwnerReachable

/-- A call issues what its log calls for. -/
theorem issues (h : OwnerReachable o calls c) {op : OwnerOperation}
    {next : OwnerReply op → OwnerProgram OwnerOutcome} (hp : c.program i = some (.call op next)) :
    Issues o.requestSignature (calls i) (c.log i) op := by
  have hmeets : ∀ p, c.program i = some p →
      p.Meets (ownerContract o.requestSignature (calls i)) (fun _ _ => True) (c.log i) := by
    refine Reaches.meets (fun c _ op next _ _ reply w hs => OwnerStep.succeeds hs) (fun p hp => ?_) h
    obtain rfl : (calls i).program o.requestSignature = p := Option.some.inj hp
    exact OwnerMethod.program_meets _ _
  exact (hmeets _ hp).1

/-- Every exchange of a log was issued after the ones before it. -/
theorem issued (h : OwnerReachable o calls c) {op : OwnerOperation} {reply : OwnerReply op}
    (hmem : (⟨op,reply⟩ : Exchange OwnerOperation OwnerOperation.Answer PyException) ∈ c.log i) :
    ∃ earlier, Issues o.requestSignature (calls i) earlier op ∧
      (⟨op,reply⟩ :: earlier) <:+ c.log i := by
  obtain ⟨c₁,next,w,hp,hlog⟩ := Reaches.performed_of_mem h rfl hmem
  exact ⟨c₁.log i,issues hp.before hp.running,hlog⟩

end OwnerReachable
end StreamingCompass
