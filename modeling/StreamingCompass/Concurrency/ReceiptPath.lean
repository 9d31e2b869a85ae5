import StreamingCompass.Concurrency.ReceiptCalls
import StreamingCompass.Storage.ReceiptDurability
import StreamingCompass.Transactional.DiagnosticText

/-! # The receipt path of one invocation

A write-side invocation, the handle of its result and the composition of its receipt, as one
program: the statements of both transactions, the identities that are allocated and the
receipt handed to the transaction owner are its calls.
-/
namespace StreamingCompass
open Interleaving

/-! ## The program -/

inductive PathOperation where
  | sql (op : Operation)
  | newObject
  | identityFactory (k : IdentityFactory)
  /-- the call of the transaction owner -/
  | persist (receipt : DecisionReceipt)
  | connection (op : ReceiptConnectionOperation DecisionReceipt)

/-- What a call returns or raises is its answer. -/
abbrev PathOperation.Answer : PathOperation → Type
  | .sql op => SqlReply op
  | .newObject => ℕ
  | .identityFactory _ => Except BaseException (Option Uuid)
  | .persist _ => Unit
  | .connection op => ReceiptConnectionReply op

abbrev PathProgram (α : Type) : Type := Program PathOperation PathOperation.Answer Empty α
abbrev PathExchange : Type := Exchange PathOperation PathOperation.Answer Empty

def PathOperation.issue (op : PathOperation) : PathProgram op.Answer :=
  .call op (fun r => match r with
    | .ok a => .done a
    | .error e => nomatch e)

/-- What a composition calls inside its handle. -/
def ReceiptOperation.OnPath : ReceiptOperation → Prop
  | .identityFactory _ _ | .mapResult _ _ _ _ | .persist _ _ | .newObject => True
  | _ => False

def ReceiptException.toPython (e : ReceiptException) : PyException :=
  .other (match e.exceptionClass with
    | .idleInTransactionSessionTimeout => "IdleInTransactionSessionTimeout"
    | .decisionReceiptConflictError _ => "DecisionReceiptConflictError"
    | .other name => name) e.message

namespace ReceiptPath

/-- `PostgresDecisionReceiptTransactionOwner.persist` with `LIVE_RESULT` provenance. -/
def persistReceipt (o : PostgresDecisionReceiptTransactionOwner) (receipt : DecisionReceipt) :
    PathProgram (Except BaseException (PostgresDecisionReceiptTransactionResult DecisionReceipt)) :=
  (PathOperation.persist receipt).issue.bind (fun _ =>
    ((o.persist receipt .liveResult ()).interpret (fun op _ => (PathOperation.connection op).issue)
      (Program.only_true _)).bind
    (fun out => .done (out.1.mapError (fun e => .exception e.toPython))))

def answerCall (o : PostgresDecisionReceiptTransactionOwner) (op : ReceiptOperation) :
    op.OnPath → PathProgram (ReceiptReply op) :=
  match op with
  | .identityFactory k _ => fun _ => (PathOperation.identityFactory k).issue
  | .mapResult _ receiptId outcomeId result => fun _ =>
    .done ((mapPostgresWriteSideResultToDecisionReceipt receiptId outcomeId result.value).mapError
      .exception)
  | .persist _ receipt => fun _ => persistReceipt o receipt
  | .newObject => fun _ => PathOperation.newObject.issue.bind (fun address => .done (.ok address))
  | .enterRuntime | .leaveRuntime _ | .write _ | .newHandle _ | .enterHandle _ | .leaveHandle _ _
  | .uuid4 => False.elim

section Only
variable {n : ℕ}
open CompletedInvocation

theorem only_onReceipt {σ : Type} {op : ReceiptOperation} (h : op.OnPath) :
    Routine.Only ReceiptOperation.OnPath (onReceipt op : ReceiptRoutine σ op.Answer) :=
  Routine.only_perform h

theorem only_identityFromFactory (k : IdentityFactory) :
    Routine.Only ReceiptOperation.OnPath (identityFromFactory k n) := by
  refine Routine.only_bind (only_onReceipt trivial) (fun r => ?_)
  cases r with
  | some identity => exact Routine.only_pure identity
  | none => exact Routine.only_ofExcept _

theorem only_requireMaterializationIdentities :
    Routine.Only ReceiptOperation.OnPath (requireMaterializationIdentities n) := by
  refine Routine.only_bind Routine.only_get (fun h => ?_)
  simp only
  split
  on_goal 1 =>
    refine Routine.only_bind (only_identityFromFactory _) (fun receiptId => ?_)
    refine Routine.only_bind (only_identityFromFactory _) (fun outcomeId => ?_)
    refine Routine.only_bind (Routine.only_modify _) (fun _ => ?_)
  all_goals
    refine Routine.only_bind Routine.only_get (fun o => ?_)
    split
    · exact Routine.only_pure _
    · exact Routine.only_ofExcept _

theorem only_materializeReceipt : Routine.Only ReceiptOperation.OnPath (materializeReceipt n) := by
  refine Routine.only_bind Routine.only_get (fun h => ?_)
  simp only
  split
  · exact Routine.only_pure _
  · refine Routine.only_bind only_requireMaterializationIdentities (fun ids => ?_)
    refine Routine.only_bind (Routine.only_attempt (only_onReceipt trivial)) (fun mapped => ?_)
    refine Routine.only_bind (Routine.only_ofExcept _) (fun delivery => ?_)
    exact Routine.only_bind (Routine.only_modify _) (fun _ => Routine.only_pure _)

theorem only_composePersistence (o : PersistenceCompositionOwner) :
    Routine.Only ReceiptOperation.OnPath (composePersistence o n) := by
  unfold composePersistence
  split
  · exact Routine.only_pure _
  · refine Routine.only_bind only_materializeReceipt (fun m => ?_)
    have hrest (delivery : PersistenceCompositionDelivery) : Routine.Only ReceiptOperation.OnPath
        (do Routine.modify (fun h => h.compose delivery); pure delivery :
          ReceiptRoutine CompletedInvocation PersistenceCompositionDelivery) :=
      Routine.only_bind (Routine.only_modify _) (fun _ => Routine.only_pure _)
    simp only
    split
    · exact Routine.only_bind (Routine.only_ofExcept _) hrest
    · split
      · exact Routine.only_bind (Routine.only_ofExcept _) hrest
      · exact Routine.only_bind (only_onReceipt trivial)
          (fun _ => Routine.only_bind (Routine.only_ofExcept _) hrest)

theorem only_newDelivery (status : RuntimeStatus) (delivery : Option PersistenceCompositionDelivery) :
    Routine.Only ReceiptOperation.OnPath (newDelivery status delivery) := by
  refine Routine.only_bind Routine.only_get (fun h => ?_)
  refine Routine.only_bind (Routine.only_ofExcept _) (fun d => ?_)
  exact Routine.only_bind (only_onReceipt trivial) (fun _ => Routine.only_pure _)

/-- A composition calls nothing but the receipt path. -/
theorem only_composeSection : Routine.Only ReceiptOperation.OnPath (composeSection n) := by
  refine Routine.only_bind Routine.only_get (fun h => ?_)
  split
  · exact Routine.only_pure _
  · have hrest (delivery : PyObject RuntimeDelivery) : Routine.Only ReceiptOperation.OnPath
        (do Routine.modify (fun h => h.publish delivery); pure delivery :
          ReceiptRoutine CompletedInvocation (PyObject RuntimeDelivery)) :=
      Routine.only_bind (Routine.only_modify _) (fun _ => Routine.only_pure _)
    simp only
    split
    · exact Routine.only_bind (only_newDelivery _ _) hrest
    · refine Routine.only_bind (Routine.only_attempt (Routine.only_bind (only_composePersistence _)
        (fun d => only_newDelivery _ _))) (fun composed => ?_)
      split
      · exact Routine.only_bind (Routine.only_pure _) hrest
      · exact Routine.only_bind (only_newDelivery _ _) hrest
      · exact Routine.only_bind (Routine.only_raise _) hrest

end Only

end ReceiptPath

open ReceiptPath in
/-- The composition of a fresh handle of a result. -/
def ReceiptPath.composeReceipt (o : PostgresDecisionReceiptTransactionOwner)
    (result : PyObject PostgresWriteSideResult) :
    PathProgram (Except BaseException (PyObject RuntimeDelivery)) :=
  ((CompletedInvocation.composeSection 0 (.fromRuntimeOwner result)).interpret (answerCall o)
    (only_composeSection _)).bind (fun out => .done out.1)

/-- An invocation and, when it returns, the composition of its receipt. -/
def receiptPath (v : WriteInvocation) (o : PostgresDecisionReceiptTransactionOwner) :
    PathProgram (Except PyException (Except BaseException (PyObject RuntimeDelivery))) :=
  (v.program.interpret (fun op _ => (PathOperation.sql op).issue) (Program.only_true _)).bind
    (fun out => match out with
      | .error e => .done (.error e)
      | .ok d => PathOperation.newObject.issue.bind (fun address =>
        (ReceiptPath.composeReceipt o ⟨address,d.producerValue.result⟩).bind (fun r => .done (.ok r))))

end StreamingCompass
