import StreamingCompass.Storage.Serial
import StreamingCompass.Storage.Session

/-! # One connection at a time

The world in which one connection has a transaction and nobody else has, as the
deterministic server leaves it operation by operation.
-/
namespace StreamingCompass
open Interleaving

variable {ι : Type} [DecidableEq ι] {D : Database ι} {i : ι} {t : Tables} {x y : Transaction}

/-- Everybody is idle but one connection. -/
def World.solo (t : Tables) (i : ι) (x : Transaction) : World ι := (World.initial t).put i x

/-- A transaction that has written nothing. -/
def Transaction.reading (isOpen : Bool) (locks : List (ℤ × ℤ)) : Transaction :=
  ⟨isOpen,false,[],[],[],[],locks⟩

@[simp] theorem Tables.apply_reading (t : Tables) (isOpen : Bool) (locks : List (ℤ × ℤ)) :
    t.apply (.reading isOpen locks) = t := by
  simp [Tables.apply, Transaction.reading]

namespace World

@[simp] theorem solo_tables : (solo t i x).tables = t := rfl
@[simp] theorem solo_self : (solo t i x).transactions i = x := put_self _ i x
@[simp] theorem solo_visible : (solo t i x).visible i = t.apply x := by
  rw [visible, solo_self, solo_tables]

@[simp] theorem solo_put : (solo t i x).put i y = solo t i y := by
  simp only [solo, put, initial, Function.update_idem]

theorem solo_idle : solo t i .idle = World.initial t := by
  exact congrArg _ (Function.update_eq_self i (fun _ : ι => Transaction.idle))

@[simp] theorem solo_rollback : (solo t i x).rollback i = World.initial t := by
  rw [rollback, solo_put, solo_idle]

theorem solo_commit (h : x.failed = false) : (solo t i x).commit i = World.initial (t.apply x) := by
  rw [commit, solo_self, h, if_neg (by decide), solo_visible, ← solo_idle (i := i)]
  simp only [solo, put, initial, Function.update_idem]

variable [Fintype ι]

theorem solo_others {p : Transaction → Bool} (hp : p .idle = false) : (solo t i x).others i p = false := by
  simp only [others, decide_eq_false_iff_not, not_exists, not_and, Bool.not_eq_true]
  intro j hj
  rw [solo, put_ne _ hj]
  exact hp

end World

variable [Fintype ι]

/-- A statement that succeeds leaves an open transaction. -/
theorem Database.serve_solo (hmanual : D.autocommit i = false) (op : Operation) {a : op.Answer}
    (hs : op.isStatement = true) (ht : op.texts.any hasNul = false) (hx : x.failed = false)
    (he : effect D (World.solo t i x).nextPosition i (World.solo t i x) op = some (.ok (a,y))) :
    D.serve i op (World.solo t i x) = some (.ok a,World.solo t i {y with isOpen := true}) := by
  simp only [Database.serve, exec_statement hs, statement, ht, Bool.false_eq_true, if_false,
    World.solo_self, hx, he, settle_explicit (.inl hmanual), World.solo_put]

/-- Text the driver cannot encode is refused; the transaction is as it was. -/
theorem Database.serve_nul (hmanual : D.autocommit i = false) (op : Operation)
    (hs : op.isStatement = true) (ht : op.texts.any hasNul = true) :
    D.serve i op (World.solo t i x) = some (.error nulInText,World.solo t i {x with isOpen := true}) := by
  simp only [Database.serve, exec_statement hs, statement, ht, if_true, World.solo_self,
    settle_explicit (.inl hmanual), World.solo_put]

/-- A statement the server refuses aborts its transaction. -/
theorem Database.serve_refused (hmanual : D.autocommit i = false) (op : Operation) {err : PyException}
    (hs : op.isStatement = true) (ht : op.texts.any hasNul = false) (hx : x.failed = false)
    (he : effect D (World.solo t i x).nextPosition i (World.solo t i x) op = some (.error err)) :
    D.serve i op (World.solo t i x) =
      some (.error err,World.solo t i {x with failed := true, isOpen := true}) := by
  simp only [Database.serve, exec_statement hs, statement, ht, Bool.false_eq_true, if_false,
    World.solo_self, hx, he, settle_explicit (.inl hmanual), World.solo_put]

/-- A read of a transaction that has written nothing. -/
theorem Database.serve_read (hmanual : D.autocommit i = false) (isOpen : Bool) (locks : List (ℤ × ℤ))
    (op : Operation) {a : op.Answer} (hs : op.isStatement = true)
    (ht : op.texts.any hasNul = false)
    (he : ∀ position, effect D position i (World.solo t i (.reading isOpen locks)) op =
      read (World.solo t i (.reading isOpen locks)) i a) :
    D.serve i op (World.solo t i (.reading isOpen locks)) =
      some (.ok a,World.solo t i (.reading true locks)) := by
  refine serve_solo hmanual op (y := .reading isOpen locks) hs ht rfl ?_
  rw [he, read, World.solo_self]

end StreamingCompass
