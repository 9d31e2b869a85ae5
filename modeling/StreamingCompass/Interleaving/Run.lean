import StreamingCompass.Interleaving.System

/-! # Running one program alone

A deterministic reading of the operations runs a program without interference. Such a
run is one of the interleavings of the machine it implements.
-/
namespace StreamingCompass.Interleaving

variable {ι World Op : Type} {Answer : Op → Type} {ε σ α β : Type}

/-- One way to perform each operation; `none` is an operation that waits. -/
abbrev Semantics (World Op : Type) (Answer : Op → Type) (ε : Type) :=
  (op : Op) → World → Option (Reply Answer ε op × World)

def Program.run (f : Semantics World Op Answer ε) :
    Program Op Answer ε α → World → Option (α × World)
  | .done a, w => some (a,w)
  | .call op next, w => (f op w).bind (fun out => (next out.1).run f out.2)

namespace Program
variable {f : Semantics World Op Answer ε} {w : World}

@[simp] theorem run_done (a : α) : (done a : Program Op Answer ε α).run f w = some (a,w) := rfl
@[simp] theorem run_call (op : Op) (next : Reply Answer ε op → Program Op Answer ε α) :
    (call op next).run f w = (f op w).bind (fun out => (next out.1).run f out.2) := rfl

theorem run_bind (p : Program Op Answer ε α) (g : α → Program Op Answer ε β) (w : World) :
    (p.bind g).run f w = (p.run f w).bind (fun out => (g out.1).run f out.2) := by
  induction p generalizing w with
  | done a => rfl
  | call op next ih => simp only [bind_call, run_call, Option.bind_assoc, ih]

end Program

def Routine.run (f : Semantics World Op Answer ε) (m : Routine Op Answer ε σ α) (s : σ) (w : World) :
    Option ((Except ε α × σ) × World) := (m s).run f w

namespace Routine
variable {f : Semantics World Op Answer ε} {s : σ} {w : World}

@[simp] theorem run_pure (a : α) :
    (pure a : Routine Op Answer ε σ α).run f s w = some ((.ok a,s),w) := rfl
@[simp] theorem run_raise (e : ε) :
    (raise e : Routine Op Answer ε σ α).run f s w = some ((.error e,s),w) := rfl
@[simp] theorem run_ofExcept (r : Except ε α) :
    (ofExcept r : Routine Op Answer ε σ α).run f s w = some ((r,s),w) := rfl
@[simp] theorem run_get : (get : Routine Op Answer ε σ σ).run f s w = some ((.ok s,s),w) := rfl
@[simp] theorem run_modify (g : σ → σ) :
    (modify g : Routine Op Answer ε σ Unit).run f s w = some ((.ok (),g s),w) := rfl
@[simp] theorem run_perform (op : Op) :
    (perform op : Routine Op Answer ε σ (Answer op)).run f s w =
      (f op w).map (fun out => ((out.1,s),out.2)) := by
  simp only [run, perform, Program.run_call, Program.run_done]
  cases f op w <;> rfl

@[simp] theorem run_bind (m : Routine Op Answer ε σ α) (g : α → Routine Op Answer ε σ β) :
    (m >>= g).run f s w = (m.run f s w).bind (fun out => match out.1.1 with
      | .ok a => (g a).run f out.1.2 out.2
      | .error e => some ((.error e,out.1.2),out.2)) := by
  change ((m s).bind _).run f w = _
  rw [Program.run_bind]
  congr 1
  funext out
  rcases out with ⟨⟨r,s'⟩,w'⟩
  cases r <;> rfl

@[simp] theorem run_attempt (m : Routine Op Answer ε σ α) :
    (attempt m).run f s w = (m.run f s w).map (fun out => ((.ok out.1.1,out.1.2),out.2)) := by
  change ((m s).bind _).run f w = _
  rw [Program.run_bind]
  simp only [run, Program.run_done]
  cases (m s).run f w <;> rfl

@[simp] theorem run_tryFinally (m : Routine Op Answer ε σ α) (cleanup : Routine Op Answer ε σ Unit) :
    (tryFinally m cleanup).run f s w = (m.run f s w).bind (fun out =>
      (cleanup.run f out.1.2 out.2).map (fun out' =>
        ((cleanedUp out.1.1 out'.1.1,out'.1.2),out'.2))) := by
  simp only [tryFinally, run_bind, run_attempt, run_ofExcept, Option.bind_map]
  congr 1
  funext out
  cases h : cleanup.run f out.1.2 out.2 with
  | none => simp [h]
  | some out' => rcases out' with ⟨⟨c,s'⟩,w'⟩; cases c <;> simp [h, cleanedUp]

end Routine

variable [DecidableEq ι]

/-- Perform the pending operation of each scheduled thread in turn. -/
def Config.drive (f : ι → Semantics World Op Answer ε) :
    List ι → Config ι World Op Answer ε α → Option (Config ι World Op Answer ε α)
  | [], c => some c
  | i :: schedule, c => match c.program i with
    | some (.call op next) => (f i op c.world).bind (fun out =>
        (c.advance i op out.1 (next out.1) out.2).drive f schedule)
    | _ => none

theorem Config.drive_reaches {M : Machine ι World Op Answer ε} {f : ι → Semantics World Op Answer ε}
    (hf : ∀ i op w reply w', f i op w = some (reply,w') → M.step i w op reply w')
    {schedule : List ι} {c c' : Config ι World Op Answer ε α} (h : c.drive f schedule = some c') :
    Reaches M c c' := by
  induction schedule generalizing c with
  | nil =>
    obtain rfl := Option.some.inj h
    exact .refl
  | cons i schedule ih =>
    rw [drive] at h
    split at h
    · rename_i op next hp
      obtain ⟨out,hout,hrest⟩ := Option.bind_eq_some_iff.mp h
      exact .head (.call hp (hf i op c.world out.1 out.2 hout)) (ih hrest)
    · cases h

end StreamingCompass.Interleaving
