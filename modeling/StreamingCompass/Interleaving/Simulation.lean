import StreamingCompass.Interleaving.Run

/-! # Programs in lockstep

Two programs that issue the same operations and return related values. What is proved
of the simpler one, along every sequence of replies or in a run alone, holds of the other.
-/
namespace StreamingCompass.Interleaving

variable {World Op : Type} {Answer : Op → Type} {ε σ α β γ δ : Type}

inductive Program.Sim (R : α → β → Prop) :
    Program Op Answer ε α → Program Op Answer ε β → Prop where
  | done {a : α} {b : β} (related : R a b) : Sim R (.done a) (.done b)
  | call {op : Op} {next : Reply Answer ε op → Program Op Answer ε α}
    {next' : Reply Answer ε op → Program Op Answer ε β} (related : ∀ r, Sim R (next r) (next' r)) :
    Sim R (.call op next) (.call op next')

namespace Program.Sim
variable {R : α → β → Prop} {p : Program Op Answer ε α} {q : Program Op Answer ε β}

theorem refl {R : α → α → Prop} (hrefl : ∀ a, R a a) (p : Program Op Answer ε α) : Sim R p p := by
  induction p with
  | done a => exact .done (hrefl a)
  | call op next ih => exact .call ih

theorem mono {R' : α → β → Prop} (h : Sim R p q) (himp : ∀ a b, R a b → R' a b) : Sim R' p q := by
  induction h with
  | done related => exact .done (himp _ _ related)
  | call _ ih => exact .call ih

theorem bind {S : γ → δ → Prop} {f : α → Program Op Answer ε γ} {g : β → Program Op Answer ε δ}
    (h : Sim R p q) (hf : ∀ a b, R a b → Sim S (f a) (g b)) : Sim S (p.bind f) (q.bind g) := by
  induction h with
  | done related => exact hf _ _ related
  | call _ ih => exact .call ih

/-- Work after the last operation of the first program alone. -/
theorem bind_left {S : γ → β → Prop} {f : α → Program Op Answer ε γ} (h : Sim R p q)
    (hf : ∀ a b, R a b → ∃ c, f a = .done c ∧ S c b) : Sim S (p.bind f) q := by
  induction h with
  | @done a b related =>
    obtain ⟨c,hc,hs⟩ := hf a b related
    rw [bind_done, hc]
    exact .done hs
  | call _ ih => exact .call ih

theorem meets {C : Contract Op Answer ε} {post : Log Op Answer ε → β → Prop} {log : Log Op Answer ε}
    (h : Sim R p q) (hq : q.Meets C post log) :
    p.Meets C (fun log a => ∃ b, R a b ∧ post log b) log := by
  induction h generalizing log with
  | done related => exact ⟨_,related,hq⟩
  | call _ ih => exact ⟨hq.1,fun r hr => ih r (hq.2 r hr)⟩

theorem run {f : Semantics World Op Answer ε} {w w' : World} {b : β} (h : Sim R p q)
    (hq : q.run f w = some (b,w')) : ∃ a, p.run f w = some (a,w') ∧ R a b := by
  induction h generalizing w with
  | @done a b' related =>
    obtain ⟨rfl,rfl⟩ := Prod.mk.inj (Option.some.inj hq)
    exact ⟨a,rfl,related⟩
  | call _ ih =>
    rw [run_call] at hq ⊢
    obtain ⟨out,hout,hrest⟩ := Option.bind_eq_some_iff.mp hq
    obtain ⟨a,ha,hr⟩ := ih out.1 hrest
    exact ⟨a,by rw [hout, Option.bind_some, ha],hr⟩

/-- Two programs in lockstep with one third are in lockstep with each other. -/
theorem join {S : γ → β → Prop} {p' : Program Op Answer ε γ} (h : Sim R p q) (h' : Sim S p' q) :
    Sim (fun a c => ∃ b, R a b ∧ S c b) p p' := by
  induction h generalizing p' with
  | done related =>
    cases h' with
    | done related' => exact .done ⟨_,related,related'⟩
  | call _ ih =>
    cases h' with
    | call related' => exact .call (fun r => ih r (related' r))

end Program.Sim

/-! ## Runs in lockstep -/

section Runs
variable {ι : Type} [DecidableEq ι] {M : Machine ι World Op Answer ε} {R : α → β → Prop}
  {c c₁ : Config ι World Op Answer ε α} {d d₁ : Config ι World Op Answer ε β}

/-- The same world and trace, with every two programs in lockstep. -/
structure Config.Lockstep (R : α → β → Prop) (c : Config ι World Op Answer ε α)
    (d : Config ι World Op Answer ε β) : Prop where
  world : d.world = c.world
  trace : d.trace = c.trace
  programs : ∀ i, Option.Rel (Program.Sim R) (c.program i) (d.program i)

theorem Step.lockstep (hs : Step M c c₁) (h : c.Lockstep R d) : ∃ d₁, Step M d d₁ ∧ c₁.Lockstep R d₁ := by
  cases hs with
  | @call i op next reply w running executes =>
    have hi := h.programs i
    rw [running] at hi
    generalize hp : d.program i = p at hi
    obtain ⟨hsim⟩ | _ := hi
    cases hsim with
    | @call _ _ next' related =>
      refine ⟨_,.call hp (h.world ▸ executes),rfl,?_,fun j => ?_⟩
      · rw [Config.advance_trace, Config.advance_trace, h.world, h.trace]
      · by_cases hj : j = i
        · subst hj
          rw [Config.advance_program_self, Config.advance_program_self]
          exact .some (related reply)
        · rw [Config.advance_program_ne _ hj, Config.advance_program_ne _ hj]
          exact h.programs j
  | @abandon i op next running =>
    have hi := h.programs i
    rw [running] at hi
    generalize hp : d.program i = p at hi
    obtain ⟨hsim⟩ | _ := hi
    cases hsim with
    | call related =>
      refine ⟨_,.abandon hp,?_,?_,fun j => ?_⟩
      · rw [Config.drop_world, Config.drop_world, h.world]
      · rw [Config.drop_trace, Config.drop_trace, h.trace]
      · by_cases hj : j = i
        · subst hj
          rw [Config.drop_program_self, Config.drop_program_self]
          exact .none
        · rw [Config.drop_program_ne _ hj, Config.drop_program_ne _ hj]
          exact h.programs j

theorem Reaches.lockstep (hr : Reaches M c c₁) (h : c.Lockstep R d) :
    ∃ d₁, Reaches M d d₁ ∧ c₁.Lockstep R d₁ := by
  induction hr with
  | refl => exact ⟨d,.refl,h⟩
  | tail _ hs ih =>
    obtain ⟨d₁,hr₁,h₁⟩ := ih
    obtain ⟨d₂,hs₂,h₂⟩ := hs.lockstep h₁
    exact ⟨d₂,hr₁.tail hs₂,h₂⟩

end Runs

/-- Outcomes of two routines that raise the same exceptions: `E` holds of the state an
exception leaves, `P` relates what is returned otherwise. -/
def Routine.Agree (E : σ → Prop) (P : α → σ → β → Prop) : Except ε α → σ → Except ε β → Prop
  | .ok a, s, .ok b => P a s b
  | .error e, s, .error e' => E s ∧ e = e'
  | _, _, _ => False

/-- A routine in lockstep with one that keeps no state. -/
def Routine.Sim (E : σ → Prop) (P : α → σ → β → Prop) (m : Routine Op Answer ε σ α) (s : σ)
    (n : Routine Op Answer ε Unit β) : Prop :=
  Program.Sim (fun x y => Agree E P x.1 x.2 y.1) (m s) (n ())

namespace Routine

theorem ofExcept_bind (r : Except ε α) (f : α → Except ε β) :
    (ofExcept (r >>= f) : Routine Op Answer ε σ β) = ofExcept r >>= fun a => ofExcept (f a) := by
  funext s
  cases r <;> rfl

variable {E E' : σ → Prop} {P : α → σ → β → Prop} {s : σ} {m : Routine Op Answer ε σ α}
  {n : Routine Op Answer ε Unit β}

theorem Sim.mono {P' : α → σ → β → Prop} (h : Sim E P m s n) (herror : ∀ s, E s → E' s)
    (himp : ∀ a s b, P a s b → P' a s b) : Sim E' P' m s n := by
  apply Program.Sim.mono h
  rintro ⟨r,s⟩ ⟨r',_⟩ ha
  cases r with
  | ok a =>
    cases r' with
    | ok b => exact himp _ _ _ ha
    | error e => exact ha
  | error e =>
    cases r' with
    | ok b => exact ha
    | error e' => exact ⟨herror _ ha.1,ha.2⟩

theorem sim_pure {a : α} {b : β} (h : P a s b) :
    Sim E P (pure a : Routine Op Answer ε σ α) s (pure b) := .done h

theorem sim_ofExcept {P : α → σ → α → Prop} {r : Except ε α} (he : E s)
    (h : ∀ a, r = .ok a → P a s a) :
    Sim E P (ofExcept r : Routine Op Answer ε σ α) s (ofExcept r) := by
  cases r with
  | ok a => exact .done (h a rfl)
  | error e => exact .done ⟨he,rfl⟩

theorem sim_raise {e : ε} (he : E s) :
    Sim E P (raise e : Routine Op Answer ε σ α) s (raise e) := .done ⟨he,rfl⟩

theorem sim_perform {op : Op} {P : Answer op → σ → Answer op → Prop} (he : E s) (h : ∀ a, P a s a) :
    Sim E P (perform op : Routine Op Answer ε σ (Answer op)) s (perform op) := by
  refine .call (fun r => .done ?_)
  cases r with
  | ok a => exact h a
  | error e => exact ⟨he,rfl⟩

theorem sim_bind {P' : γ → σ → δ → Prop} {f : α → Routine Op Answer ε σ γ}
    {g : β → Routine Op Answer ε Unit δ} (hm : Sim E P m s n)
    (hf : ∀ a s b, P a s b → Sim E P' (f a) s (g b)) : Sim E P' (m >>= f) s (n >>= g) := by
  refine Program.Sim.bind hm ?_
  rintro ⟨r,s⟩ ⟨r',_⟩ ha
  cases r with
  | ok a =>
    cases r' with
    | ok b => exact hf a s b ha
    | error e => exact ha.elim
  | error e =>
    cases r' with
    | ok b => exact ha.elim
    | error e' => exact .done ha

theorem sim_modify {g : σ → σ} {f : Unit → Routine Op Answer ε σ α} (h : Sim E P (f ()) (g s) n) :
    Sim E P (modify g >>= f) s n := h

/-- Work of the first routine that changes its state alone. -/
theorem sim_then {P' : γ → σ → β → Prop} {f : α → Routine Op Answer ε σ γ} (hm : Sim E P m s n)
    (hf : ∀ a s b, P a s b → ∃ c s', f a s = .done (.ok c,s') ∧ P' c s' b) :
    Sim E P' (m >>= f) s n := by
  refine Program.Sim.bind_left hm ?_
  rintro ⟨r,s⟩ ⟨r',_⟩ ha
  cases r with
  | ok a =>
    cases r' with
    | ok b =>
      obtain ⟨c,s',hc,hp⟩ := hf a s b ha
      exact ⟨_,hc,hp⟩
    | error e => exact ha.elim
  | error e =>
    cases r' with
    | ok b => exact ha.elim
    | error e' => exact ⟨_,rfl,ha⟩

theorem sim_attempt (hm : Sim E P m s n) :
    Sim E' (fun r s r' => Agree E P r s r') (attempt m) s (attempt n) :=
  Program.Sim.bind hm (fun _ _ ha => .done ha)

/-- Clean-up blocks in lockstep after outcomes that agree. -/
theorem sim_tryFinally {P' : α → σ → β → Prop} {c : Routine Op Answer ε σ Unit}
    {d : Routine Op Answer ε Unit Unit} (hm : Sim E P m s n)
    (hc : ∀ (r : Except ε α) s (r' : Except ε β), Agree E P r s r' →
      Sim E' (fun _ s _ => Agree E' P' r s r') c s d) :
    Sim E' P' (tryFinally m c) s (tryFinally n d) := by
  refine sim_bind (sim_attempt hm) (fun r s r' ha => sim_bind (hc r s r' ha) (fun _ s _ ha' => ?_))
  exact .done ha'

/-- The same routine on both sides, which leaves the state alone. -/
def Same (m : Routine Op Answer ε σ α) (s : σ) (n : Routine Op Answer ε Unit α) : Prop :=
  Sim (fun s' => s' = s) (fun a s' b => s' = s ∧ a = b) m s n

theorem Same.sim {P : α → σ → α → Prop} {n : Routine Op Answer ε Unit α} (h : Same m s n) (he : E s)
    (hp : ∀ a, P a s a) : Sim E P m s n := by
  refine Sim.mono h ?_ ?_
  · rintro _ rfl
    exact he
  · rintro a _ _ ⟨rfl,rfl⟩
    exact hp a

theorem same_perform (op : Op) : Same (perform op : Routine Op Answer ε σ (Answer op)) s (perform op) :=
  sim_perform rfl (fun _ => ⟨rfl,rfl⟩)

theorem same_ofExcept (r : Except ε α) :
    Same (ofExcept r : Routine Op Answer ε σ α) s (ofExcept r) :=
  sim_ofExcept rfl (fun _ _ => ⟨rfl,rfl⟩)

theorem same_bind {n : Routine Op Answer ε Unit α} {f : α → Routine Op Answer ε σ γ}
    {g : α → Routine Op Answer ε Unit γ} (hm : Same m s n) (hf : ∀ a, Same (f a) s (g a)) :
    Same (m >>= f) s (n >>= g) := by
  refine sim_bind hm ?_
  rintro a _ _ ⟨rfl,rfl⟩
  exact hf a

theorem same_attempt {n : Routine Op Answer ε Unit α} (hm : Same m s n) :
    Same (attempt m) s (attempt n) := by
  refine Sim.mono (sim_attempt hm) (fun _ h => h) (fun r s' r' ha => ?_)
  cases r with
  | ok a =>
    cases r' with
    | ok b => exact ⟨ha.1,congrArg Except.ok ha.2⟩
    | error e => exact ha.elim
  | error e =>
    cases r' with
    | ok b => exact ha.elim
    | error e' => exact ⟨ha.1,congrArg Except.error ha.2⟩

end Routine

/-! ## Threads with nothing to do -/

section Ended
variable {ι World Op : Type} {Answer : Op → Type} {ε α : Type} [DecidableEq ι]
  {M : Machine ι World Op Answer ε} {c₀ c : Config ι World Op Answer ε α}

/-- A run in which some threads have nothing to do is a run of threads that could do
anything, in which those never step. -/
theorem Reaches.of_ended (programs : ι → Option (Program Op Answer ε α)) (h : Reaches M c₀ c)
    (hsame : ∀ i, c₀.program i = programs i ∨ ∃ a, c₀.program i = some (.done a)) :
    ∃ c', Reaches M {c₀ with program := programs} c' ∧ c'.world = c.world ∧ c'.trace = c.trace ∧
      ∀ i, c.program i = c'.program i ∨ ∃ a, c.program i = some (.done a) := by
  induction h with
  | refl => exact ⟨_,.refl,rfl,rfl,hsame⟩
  | @tail c c₁ _ hs ih =>
    obtain ⟨c',hr,hworld,htrace,hprograms⟩ := ih
    have hrunning {i : ι} {op : Op} {next : Reply Answer ε op → Program Op Answer ε α}
        (hp : c.program i = some (.call op next)) : c'.program i = some (.call op next) := by
      rcases hprograms i with h | ⟨a,h⟩
      · rw [← h, hp]
      · rw [hp] at h
        cases h
    cases hs with
    | @call i op next reply w running executes =>
      refine ⟨_,hr.tail (.call (hrunning running) (hworld ▸ executes)),rfl,?_,fun j => ?_⟩
      · simp only [Config.advance_trace, hworld, htrace]
      · by_cases hj : j = i
        · subst hj
          exact .inl (by simp only [Config.advance_program_self])
        · rw [Config.advance_program_ne _ hj, Config.advance_program_ne _ hj]
          exact hprograms j
    | @abandon i op next running =>
      refine ⟨_,hr.tail (.abandon (hrunning running)),?_,htrace,fun j => ?_⟩
      · simp only [Config.drop_world, hworld]
      · by_cases hj : j = i
        · subst hj
          exact .inl (by simp only [Config.drop_program_self])
        · rw [Config.drop_program_ne _ hj, Config.drop_program_ne _ hj]
          exact hprograms j

end Ended
end StreamingCompass.Interleaving
