import Mathlib.Logic.Basic
import Mathlib.Data.List.Basic

/-! # Programs over an operation signature

A program issues operations of a signature and continues with the reply of each.
A reply is the answer or the exception the operation raised, so the control flow
of handlers and clean-up blocks is ordinary data. A contract is checked along
every sequence of replies, before any semantics of the operations is fixed.
-/
namespace StreamingCompass.Interleaving

variable {Op : Type} {Answer : Op → Type} {ε σ α β : Type}

/-- The answer of an operation, or the exception it raised. -/
abbrev Reply (Answer : Op → Type) (ε : Type) (op : Op) : Type := Except ε (Answer op)

inductive Program (Op : Type) (Answer : Op → Type) (ε α : Type) where
  | done (value : α)
  | call (op : Op) (next : Reply Answer ε op → Program Op Answer ε α)

/-- One operation with the reply it got. -/
abbrev Exchange (Op : Type) (Answer : Op → Type) (ε : Type) := (op : Op) × Reply Answer ε op

/-- The exchanges of one program so far, latest first. -/
abbrev Log (Op : Type) (Answer : Op → Type) (ε : Type) := List (Exchange Op Answer ε)

namespace Program

def bind (p : Program Op Answer ε α) (f : α → Program Op Answer ε β) : Program Op Answer ε β :=
  match p with
  | .done a => f a
  | .call op next => .call op (fun r => (next r).bind f)

@[simp] theorem bind_done (a : α) (f : α → Program Op Answer ε β) : (done a).bind f = f a := rfl
@[simp] theorem bind_call (op : Op) (next : Reply Answer ε op → Program Op Answer ε α)
    (f : α → Program Op Answer ε β) :
    (call op next).bind f = call op (fun r => (next r).bind f) := rfl

end Program

/-- What a program may rely on from replies, and what it owes at each call. -/
structure Contract (Op : Type) (Answer : Op → Type) (ε : Type) where
  allowed : Log Op Answer ε → (op : Op) → Reply Answer ε op → Prop
  guard : Log Op Answer ε → Op → Prop

/-- Every call satisfies the guard and every return the postcondition, along each
sequence of allowed replies that continues the log. -/
def Program.Meets (C : Contract Op Answer ε) (post : Log Op Answer ε → α → Prop) :
    Program Op Answer ε α → Log Op Answer ε → Prop
  | .done a, log => post log a
  | .call op next, log =>
    C.guard log op ∧ ∀ r, C.allowed log op r → (next r).Meets C post (⟨op, r⟩ :: log)

namespace Program
variable {C : Contract Op Answer ε} {post : Log Op Answer ε → α → Prop}

@[simp] theorem meets_done (a : α) (log : Log Op Answer ε) :
    (done a).Meets C post log ↔ post log a := Iff.rfl
@[simp] theorem meets_call (op : Op) (next : Reply Answer ε op → Program Op Answer ε α)
    (log : Log Op Answer ε) :
    (call op next).Meets C post log ↔
      C.guard log op ∧ ∀ r, C.allowed log op r → (next r).Meets C post (⟨op, r⟩ :: log) := Iff.rfl

theorem Meets.mono {post' : Log Op Answer ε → α → Prop} {p : Program Op Answer ε α}
    {log : Log Op Answer ε} (h : p.Meets C post log)
    (himp : ∀ log a, post log a → post' log a) : p.Meets C post' log := by
  induction p generalizing log with
  | done a => exact himp _ _ h
  | call op next ih => exact ⟨h.1,fun r hr => ih r (h.2 r hr)⟩

/-- The sequencing rule: the rest of the program is checked at the logs the first
part can end with. -/
theorem meets_bind {post : Log Op Answer ε → β → Prop} (p : Program Op Answer ε α)
    (f : α → Program Op Answer ε β) (log : Log Op Answer ε) :
    (p.bind f).Meets C post log ↔ p.Meets C (fun log a => (f a).Meets C post log) log := by
  induction p generalizing log with
  | done a => rfl
  | call op next ih => simp only [bind_call, meets_call, ih]

end Program

/-- A stateful computation that may raise: its state survives an exception, as the
attributes of a mutable object do. -/
def Routine (Op : Type) (Answer : Op → Type) (ε σ α : Type) : Type :=
  σ → Program Op Answer ε (Except ε α × σ)

namespace Routine

def ret (a : α) : Routine Op Answer ε σ α := fun s => .done (.ok a,s)

def andThen (m : Routine Op Answer ε σ α) (f : α → Routine Op Answer ε σ β) :
    Routine Op Answer ε σ β := fun s =>
  (m s).bind (fun out => match out.1 with
    | .ok a => f a out.2
    | .error e => .done (.error e,out.2))

instance : Monad (Routine Op Answer ε σ) where
  pure := ret
  bind := andThen

def raise (e : ε) : Routine Op Answer ε σ α := fun s => .done (.error e,s)

def ofExcept (r : Except ε α) : Routine Op Answer ε σ α := fun s => .done (r,s)

def get : Routine Op Answer ε σ σ := fun s => .done (.ok s,s)

def modify (f : σ → σ) : Routine Op Answer ε σ Unit := fun s => .done (.ok (),f s)

/-- Issue one operation; an exception it raises propagates. -/
def perform (op : Op) : Routine Op Answer ε σ (Answer op) := fun s => .call op (fun r => .done (r,s))

/-- Run a block and hand its exception, if any, to the handler that follows. -/
def attempt (m : Routine Op Answer ε σ α) : Routine Op Answer ε σ (Except ε α) := fun s =>
  (m s).bind (fun out => .done (.ok out.1,out.2))

/-- A clean-up block that runs on every exit; its own exception replaces the first. -/
def tryFinally (m : Routine Op Answer ε σ α) (cleanup : Routine Op Answer ε σ Unit) :
    Routine Op Answer ε σ α := do
  let outcome ← attempt m
  cleanup
  ofExcept outcome

theorem ofExcept_ok_bind (a : α) (f : α → Routine Op Answer ε σ β) :
    (ofExcept (.ok a) : Routine Op Answer ε σ α) >>= f = f a := rfl

/-- A postcondition on the log, the outcome and the state left behind. -/
abbrev Post (Op : Type) (Answer : Op → Type) (ε σ α : Type) :=
  Log Op Answer ε → Except ε α → σ → Prop

def Meets (C : Contract Op Answer ε) (m : Routine Op Answer ε σ α) (s : σ)
    (log : Log Op Answer ε) (Q : Post Op Answer ε σ α) : Prop :=
  (m s).Meets C (fun log out => Q log out.1 out.2) log

section Rules
variable {C : Contract Op Answer ε} {s : σ} {log : Log Op Answer ε}

theorem Meets.mono {m : Routine Op Answer ε σ α} {Q Q' : Post Op Answer ε σ α}
    (h : m.Meets C s log Q) (himp : ∀ log r s, Q log r s → Q' log r s) : m.Meets C s log Q' :=
  Program.Meets.mono h (fun _ _ => himp _ _ _)

@[simp] theorem meets_pure (a : α) (Q : Post Op Answer ε σ α) :
    Meets C (pure a) s log Q ↔ Q log (.ok a) s := Iff.rfl
@[simp] theorem meets_raise (e : ε) (Q : Post Op Answer ε σ α) :
    Meets C (raise e) s log Q ↔ Q log (.error e) s := Iff.rfl
@[simp] theorem meets_ofExcept (r : Except ε α) (Q : Post Op Answer ε σ α) :
    Meets C (ofExcept r) s log Q ↔ Q log r s := Iff.rfl
@[simp] theorem meets_get (Q : Post Op Answer ε σ σ) :
    Meets C get s log Q ↔ Q log (.ok s) s := Iff.rfl
@[simp] theorem meets_modify (f : σ → σ) (Q : Post Op Answer ε σ Unit) :
    Meets C (modify f) s log Q ↔ Q log (.ok ()) (f s) := Iff.rfl
@[simp] theorem meets_perform (op : Op) (Q : Post Op Answer ε σ (Answer op)) :
    Meets C (perform op) s log Q ↔
      C.guard log op ∧ ∀ r, C.allowed log op r → Q (⟨op,r⟩ :: log) r s := Iff.rfl

/-- The rule for sequencing: an exception skips the rest. -/
@[simp] theorem meets_bind (m : Routine Op Answer ε σ α) (f : α → Routine Op Answer ε σ β)
    (Q : Post Op Answer ε σ β) :
    Meets C (m >>= f) s log Q ↔ m.Meets C s log (fun log r s => match r with
      | .ok a => (f a).Meets C s log Q
      | .error e => Q log (.error e) s) := by
  change ((m s).bind _).Meets C _ log ↔ _
  rw [Program.meets_bind]
  constructor
  · intro h
    apply Program.Meets.mono h
    rintro log ⟨r,s⟩ hr
    cases r with
    | ok a => exact hr
    | error e => exact hr
  · intro h
    apply Program.Meets.mono h
    rintro log ⟨r,s⟩ hr
    cases r with
    | ok a => exact hr
    | error e => exact hr

@[simp] theorem meets_attempt (m : Routine Op Answer ε σ α)
    (Q : Post Op Answer ε σ (Except ε α)) :
    Meets C (attempt m) s log Q ↔ m.Meets C s log (fun log r s => Q log (.ok r) s) := by
  change ((m s).bind _).Meets C _ log ↔ _
  rw [Program.meets_bind]
  rfl

/-- The outcome of a clean-up block: its own exception replaces the first outcome. -/
def cleanedUp (r : Except ε α) : Except ε Unit → Except ε α
  | .ok _ => r
  | .error e => .error e

/-- Clean-up runs after a normal and after an exceptional exit alike. -/
@[simp] theorem meets_tryFinally (m : Routine Op Answer ε σ α)
    (cleanup : Routine Op Answer ε σ Unit) (Q : Post Op Answer ε σ α) :
    Meets C (tryFinally m cleanup) s log Q ↔ m.Meets C s log (fun log r s =>
      cleanup.Meets C s log (fun log c s => Q log (cleanedUp r c) s)) := by
  simp only [tryFinally, meets_bind, meets_attempt, meets_ofExcept]
  constructor
  · intro h
    refine h.mono (fun log r s hc => hc.mono (fun log c s hq => ?_))
    cases c with
    | ok _ => exact hq
    | error e => exact hq
  · intro h
    refine h.mono (fun log r s hc => hc.mono (fun log c s hq => ?_))
    cases c with
    | ok _ => exact hq
    | error e => exact hq

end Rules
end Routine
end StreamingCompass.Interleaving
