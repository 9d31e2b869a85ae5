import Mathlib.Data.DFinsupp.WellFounded
import StreamingCompass.Interleaving.System

/-! # Completion

Finitely many programs, each without an infinite run of its own, have no infinite run
together. Where some thread can always go on, every run can be continued until all
threads have returned.
-/
namespace StreamingCompass.Interleaving

variable {ι World Op : Type} {Answer : Op → Type} {ε α : Type}

/-- A call and the rest of the program after one of its replies. -/
def Program.Continues (q p : Program Op Answer ε α) : Prop :=
  ∃ op next reply, p = .call op next ∧ q = next reply

theorem Program.continues_wf : WellFounded (@Continues Op Answer ε α) := by
  refine ⟨fun p => ?_⟩
  induction p with
  | done a =>
    refine ⟨_,?_⟩
    rintro q ⟨op,next,reply,h,-⟩
    cases h
  | call op next ih =>
    refine ⟨_,?_⟩
    rintro q ⟨op',next',reply,h,rfl⟩
    obtain ⟨rfl,hnext⟩ := Program.call.inj h
    exact eq_of_heq hnext ▸ ih reply

/-- The rest of a thread that is still there. -/
def Program.Proceeds : Option (Program Op Answer ε α) → Option (Program Op Answer ε α) → Prop
  | some q, some p => q.Continues p
  | _, _ => False

theorem Program.proceeds_wf :
    WellFounded (@Proceeds Op Answer ε α) := by
  have hnone : Acc (@Proceeds Op Answer ε α) none := by
    refine ⟨_,fun q hq => ?_⟩
    cases q <;> exact hq.elim
  refine ⟨fun o => ?_⟩
  cases o with
  | none => exact hnone
  | some p =>
    induction p using continues_wf.induction with
    | h p ih =>
      refine ⟨_,fun q hq => ?_⟩
      cases q with
      | none => exact hnone
      | some q => exact ih q hq

variable [DecidableEq ι] [Finite ι]

/-- If some thread can go on as long as one has not returned, the run can be completed. -/
theorem Reaches.completes {M : Machine ι World Op Answer ε} {c₀ c : Config ι World Op Answer ε α}
    (hgoes : ∀ c, Reaches M c₀ c → ∀ i op next, c.program i = some (.call op next) →
      ∃ j op next reply w, c.program j = some (.call op next) ∧ M.step j c.world op reply w)
    (h : Reaches M c₀ c) :
    ∃ c', Reaches M c c' ∧ ∀ i p, c'.program i = some p → ∃ a, p = .done a := by
  generalize hf : c.program = f
  induction f using (Pi.Lex.wellFounded (ι := ι) WellOrderingRel
    (fun _ => Program.proceeds_wf)).induction generalizing c with
  | h f ih =>
    by_cases hdone : ∀ i p, c.program i = some p → ∃ a, p = .done a
    · exact ⟨c,.refl,hdone⟩
    · push Not at hdone
      obtain ⟨i,p,hp,hne⟩ := hdone
      cases p with
      | done a => exact absurd rfl (hne a)
      | call op next =>
        obtain ⟨j,op',next',reply,w,hj,hw⟩ := hgoes c h i op next hp
        have hs : Step M c (c.advance j op' reply (next' reply) w) := .call hj hw
        -- only the program of the thread that goes on has changed
        have hless : Pi.Lex WellOrderingRel (fun {_} => Program.Proceeds)
            (c.advance j op' reply (next' reply) w).program f := by
          refine ⟨j,fun k hk => ?_,?_⟩
          · rw [Config.advance_program_ne _ (by rintro rfl; exact irrefl_of WellOrderingRel k hk), hf]
          · rw [Config.advance_program_self, ← hf, hj]
            exact ⟨op',next',reply,rfl,rfl⟩
        obtain ⟨c',hr,hc'⟩ := ih _ hless (h.tail hs) rfl
        exact ⟨c',.head hs hr,hc'⟩

end StreamingCompass.Interleaving
