import StreamingCompass.Interleaving.Run

/-! # Programs that stop

A process can stop at any moment of its program: what it leaves is the world after some of
its operations.
-/
namespace StreamingCompass.Interleaving

variable {Op : Type} {Answer : Op → Type} {ε σ α β World : Type}

/-- Some of the operations of a program lead from one world to the other. -/
def Program.Visits (f : Semantics World Op Answer ε) :
    Program Op Answer ε α → World → World → Prop
  | .done _, w, w' => w' = w
  | .call op next, w, w' => w' = w ∨ ∃ out, f op w = some out ∧ (next out.1).Visits f out.2 w'

namespace Program
variable {f : Semantics World Op Answer ε} {w w' : World}

@[simp] theorem visits_done (a : α) :
    (done a : Program Op Answer ε α).Visits f w w' ↔ w' = w := Iff.rfl
@[simp] theorem visits_call (op : Op) (next : Reply Answer ε op → Program Op Answer ε α) :
    (call op next).Visits f w w' ↔
      w' = w ∨ ∃ out, f op w = some out ∧ (next out.1).Visits f out.2 w' := Iff.rfl

theorem visits_refl (p : Program Op Answer ε α) (w : World) : p.Visits f w w := by
  cases p with
  | done a => rfl
  | call op next => exact .inl rfl

/-- A program that is not stopped leaves the world it ends in. -/
theorem visits_of_run {p : Program Op Answer ε α} {a : α} (h : p.run f w = some (a,w')) :
    p.Visits f w w' := by
  induction p generalizing w with
  | done b =>
    obtain ⟨-,rfl⟩ := Prod.mk.inj (Option.some.inj h)
    rfl
  | call op next ih =>
    obtain ⟨out,hout,hrest⟩ := Option.bind_eq_some_iff.mp h
    exact .inr ⟨out,hout,ih out.1 hrest⟩

/-- A sequence stops in its first part, or after all of it in the second. -/
theorem visits_bind (p : Program Op Answer ε α) (g : α → Program Op Answer ε β) :
    (p.bind g).Visits f w w' ↔
      p.Visits f w w' ∨ ∃ out, p.run f w = some out ∧ (g out.1).Visits f out.2 w' := by
  induction p generalizing w with
  | done a =>
    rw [bind_done, visits_done, run_done]
    constructor
    · intro h
      exact .inr ⟨_,rfl,h⟩
    · rintro (rfl | ⟨out,hout,h⟩)
      · exact visits_refl _ _
      · obtain rfl := Option.some.inj hout
        exact h
  | call op next ih =>
    rw [bind_call, visits_call, visits_call, run_call]
    constructor
    · rintro (h | ⟨out,hout,h⟩)
      · exact .inl (.inl h)
      · rcases (ih out.1).mp h with h | ⟨last,hlast,h⟩
        · exact .inl (.inr ⟨out,hout,h⟩)
        · refine .inr ⟨last,?_,h⟩
          rw [hout]
          exact hlast
    · rintro ((h | ⟨out,hout,h⟩) | ⟨last,hlast,h⟩)
      · exact .inl h
      · exact .inr ⟨out,hout,(ih out.1).mpr (.inl h)⟩
      · obtain ⟨out,hout,hrest⟩ := Option.bind_eq_some_iff.mp hlast
        exact .inr ⟨out,hout,(ih out.1).mpr (.inr ⟨last,hrest,h⟩)⟩

end Program

/-- Some of the operations of a routine. -/
def Routine.Visits (f : Semantics World Op Answer ε) (m : Routine Op Answer ε σ α) (s : σ)
    (w w' : World) : Prop := (m s).Visits f w w'

namespace Routine
variable {f : Semantics World Op Answer ε} {s : σ} {w w' : World}

@[simp] theorem visits_pure (a : α) :
    Visits f (pure a : Routine Op Answer ε σ α) s w w' ↔ w' = w := Iff.rfl
@[simp] theorem visits_raise (e : ε) :
    Visits f (raise e : Routine Op Answer ε σ α) s w w' ↔ w' = w := Iff.rfl
@[simp] theorem visits_ofExcept (r : Except ε α) :
    Visits f (ofExcept r : Routine Op Answer ε σ α) s w w' ↔ w' = w := Iff.rfl

theorem visits_bind (m : Routine Op Answer ε σ α) (g : α → Routine Op Answer ε σ β) :
    Visits f (m >>= g) s w w' ↔ Visits f m s w w' ∨
      ∃ a s₁ w₁, m.run f s w = some ((.ok a,s₁),w₁) ∧ Visits f (g a) s₁ w₁ w' := by
  change ((m s).bind _).Visits f w w' ↔ _
  rw [Program.visits_bind]
  constructor
  · rintro (h | ⟨⟨⟨r,s₁⟩,w₁⟩,hrun,h⟩)
    · exact .inl h
    · cases r with
      | ok a => exact .inr ⟨a,s₁,w₁,hrun,h⟩
      | error e =>
        -- an exception ends the sequence where its first part ends
        obtain rfl := h
        exact .inl (Program.visits_of_run hrun)
  · rintro (h | ⟨a,s₁,w₁,hrun,h⟩)
    · exact .inl h
    · exact .inr ⟨_,hrun,h⟩

end Routine
end StreamingCompass.Interleaving
