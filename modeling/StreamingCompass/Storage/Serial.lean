import StreamingCompass.Interleaving.Run
import StreamingCompass.Storage.Database
import Mathlib.Data.Finset.Lattice.Fold
import Mathlib.Order.Lattice.Nat

/-! # A deterministic server

The server as a function: the sequence behind `global_position` yields the next number
above every position in use. Runs of the function are runs of the machine.
-/
namespace StreamingCompass
open Interleaving

def lastPosition (rows : List OrderEventRow) : ℕ :=
  (rows.map (fun r => r.globalPosition)).foldr max 0

theorem le_lastPosition {rows : List OrderEventRow} {r : OrderEventRow} (h : r ∈ rows) :
    r.globalPosition ≤ lastPosition rows := by
  induction rows with
  | nil => simp at h
  | cons a rows ih =>
    rcases List.mem_cons.mp h with rfl | h
    · exact le_max_left _ _
    · exact (ih h).trans (le_max_right _ _)

variable {ι : Type} [Fintype ι]

def World.nextPosition (w : World ι) : ℕ :=
  max (lastPosition w.tables.orderEvents)
    (Finset.univ.sup (fun j => lastPosition (w.transactions j).orderEvents))+1

theorem World.freshPosition_next (w : World ι) : w.FreshPosition w.nextPosition := by
  refine ⟨Nat.succ_pos _,fun r hr => ?_,fun j r hr => ?_⟩
  · have h1 := le_lastPosition hr
    have h2 := le_max_left (lastPosition w.tables.orderEvents)
      (Finset.univ.sup (fun j => lastPosition (w.transactions j).orderEvents))
    unfold nextPosition
    omega
  · have h1 := le_lastPosition hr
    have h2 := Finset.le_sup (f := fun j => lastPosition (w.transactions j).orderEvents)
      (Finset.mem_univ j)
    have h3 := le_max_right (lastPosition w.tables.orderEvents)
      (Finset.univ.sup (fun j => lastPosition (w.transactions j).orderEvents))
    unfold nextPosition
    omega

variable [DecidableEq ι]

/-- Perform an operation for a connection. -/
def Database.serve (D : Database ι) (i : ι) :
    Semantics (World ι) Operation Operation.Answer PyException :=
  fun op w => exec D w.nextPosition i w op

theorem Database.serve_step {D : Database ι} {faulty : ι → Prop} (i : ι) (op : Operation)
    (w : World ι) (reply : SqlReply op) (w' : World ι) (h : D.serve i op w = some (reply,w')) :
    (D.machine faulty).step i w op reply w' := .executed w.freshPosition_next h

namespace Database
variable {D : Database ι} {i : ι} {w : World ι}

theorem serve_autocommit : D.serve i .autocommit w = some (.ok (D.autocommit i),w) := rfl
theorem serve_transactionStatus :
    D.serve i .transactionStatus w = some (.ok (!(w.transactions i).isOpen),w) := rfl
theorem serve_begin :
    D.serve i .begin w = some (.ok (),w.put i {w.transactions i with isOpen := true}) := rfl
theorem serve_commit : D.serve i .commit w = some (.ok (),w.commit i) := rfl
theorem serve_rollback : D.serve i .rollback w = some (.ok (),w.rollback i) := rfl

end Database
end StreamingCompass
