import StreamingCompass.Concurrency.OwnerCalls

/-! # Proposed and controlled recovery

`experiments/deterministic_autonomous_governance`: a planner that proposes one fresh
invocation after any stale append, and an executor that checks a proposal against an
assessment it was given and otherwise leaves everything to the invocation owner. The checks
of types are the types.
-/
namespace StreamingCompass
open Interleaving

inductive RecoveryActionKind where | oneFreshSameRequestInvocation
deriving DecidableEq, Repr

structure RecoveryProposal where
  requestSignature : RequestSignature
  sourceResult : PyObject PostgresWriteSideResult
  action : RecoveryActionKind
deriving DecidableEq, Repr

def PyException.controlledExecutionRefused (message : String) : PyException :=
  .other "ControlledExecutionRefused" message

/-- The fields of an executor but the owner, which is the one the system is about. -/
structure ControlledExecutor where
  expectedSignature : RequestSignature
  retainedA1Result : PyObject PostgresWriteSideResult
  reinvocationAssessment : ReinvocationAuthorityEvaluation
deriving DecidableEq, Repr

namespace ControlledExecutor

/-- The checks of `execute`, before it delegates to the owner. -/
def check (x : ControlledExecutor) (proposal : RecoveryProposal) : Except PyException Unit :=
  if proposal.action ≠ .oneFreshSameRequestInvocation then
    .error (.controlledExecutionRefused "proposal action is unsupported by ControlledExecutor")
  else if proposal.sourceResult ≠ x.retainedA1Result then
    .error (.controlledExecutionRefused "proposal source_result is not the retained live A1 result")
  else if proposal.requestSignature.eq x.expectedSignature = false then
    .error (.controlledExecutionRefused
      "proposal request_signature does not equal expected_signature")
  else match x.reinvocationAssessment with
    | .noAuthority _ _ => .error (.controlledExecutionRefused
        "independent Stage 4E assessment issued no authority")
    | .authorization requestSignature =>
      if requestSignature.eq x.expectedSignature = false ∨
          requestSignature.eq proposal.requestSignature = false then
        .error (.controlledExecutionRefused
          ("authorization request_signature does not match the complete " ++
          "expected and proposed request identity"))
      else .ok ()

/-- `execute`, on an owner of a request. -/
def execute (x : ControlledExecutor) (proposal : RecoveryProposal) (s : RequestSignature) :
    OwnerProgram OwnerOutcome :=
  match x.check proposal with
  | .error e => .done (.result (.error e))
  | .ok () => (OwnerMethod.invoke .reinvocation).program s

end ControlledExecutor

/-! ## Calls on a governed owner -/

/-- A call of the owner itself, or a proposal handed to an executor bound to it. -/
inductive GovernedCall where
  | method (m : OwnerMethod)
  | execute (x : ControlledExecutor) (proposal : RecoveryProposal)
deriving DecidableEq, Repr

namespace GovernedCall

def program (s : RequestSignature) : GovernedCall → OwnerProgram OwnerOutcome
  | .method m => m.program s
  | .execute x proposal => x.execute proposal s

/-- The owner's method behind a call. -/
def owned : GovernedCall → OwnerMethod
  | .method m => m
  | .execute _ _ => .invoke .reinvocation

/-- A call ends at once with a refusal, or is its owner's method. -/
theorem program_cases (s : RequestSignature) (call : GovernedCall) :
    call.program s = call.owned.program s ∨ ∃ out, call.program s = .done out := by
  cases call with
  | method m => exact .inl rfl
  | execute x proposal =>
    cases h : x.check proposal with
    | error e =>
      right
      exact ⟨.result (.error e),by simp only [program, ControlledExecutor.execute, h]⟩
    | ok _ =>
      left
      simp only [program, ControlledExecutor.execute, h, owned]

end GovernedCall
end StreamingCompass
