import StreamingCompass.Interleaving.Simulation

/-! # What a program can end with

The values a program ends with under some replies, and partial correctness of the normal
returns of a routine: what an exception leaves behind is of no interest.
-/
namespace StreamingCompass.Interleaving

variable {Op : Type} {Answer : Op → Type} {ε σ α β : Type}

/-- Some replies lead the program to a value. -/
inductive Program.Ends : Program Op Answer ε α → α → Prop where
  | done (a : α) : Ends (.done a) a
  | call {op : Op} {next : Reply Answer ε op → Program Op Answer ε α} {a : α}
    (reply : Reply Answer ε op) (rest : Ends (next reply) a) : Ends (.call op next) a

namespace Program

@[simp] theorem ends_done (a b : α) : (done a : Program Op Answer ε α).Ends b ↔ b = a := by
  constructor
  · rintro ⟨⟩
    rfl
  · rintro rfl
    exact .done _

@[simp] theorem ends_call (op : Op) (next : Reply Answer ε op → Program Op Answer ε α) (a : α) :
    (call op next).Ends a ↔ ∃ reply, (next reply).Ends a := by
  constructor
  · rintro ⟨⟩
    exact ⟨_,‹_›⟩
  · rintro ⟨reply,h⟩
    exact .call reply h

/-- A program ends with what its second part ends with after the first. -/
theorem ends_bind (p : Program Op Answer ε α) (f : α → Program Op Answer ε β) (b : β) :
    (p.bind f).Ends b ↔ ∃ a, p.Ends a ∧ (f a).Ends b := by
  induction p with
  | done a => simp
  | call op next ih =>
    simp only [bind_call, ends_call, ih]
    constructor
    · rintro ⟨reply,a,ha,hb⟩
      exact ⟨a,⟨reply,ha⟩,hb⟩
    · rintro ⟨a,⟨reply,ha⟩,hb⟩
      exact ⟨reply,a,ha,hb⟩

/-- A program in lockstep ends where the other one does. -/
theorem Sim.ends {R : α → β → Prop} {p : Program Op Answer ε α} {q : Program Op Answer ε β}
    (h : Sim R p q) {a : α} (ha : p.Ends a) : ∃ b, q.Ends b ∧ R a b := by
  induction h with
  | done related =>
    obtain rfl := (ends_done _ _).mp ha
    exact ⟨_,.done _,related⟩
  | call _ ih =>
    obtain ⟨reply,hr⟩ := (ends_call _ _ _).mp ha
    obtain ⟨b,hb,hab⟩ := ih reply hr
    exact ⟨b,.call reply hb,hab⟩

theorem ends_of_run {World : Type} {f : Semantics World Op Answer ε} {p : Program Op Answer ε α}
    {w w' : World} {a : α} (h : p.run f w = some (a,w')) : p.Ends a := by
  induction p generalizing w with
  | done b =>
    obtain ⟨rfl,-⟩ := Prod.mk.inj (Option.some.inj h)
    exact .done _
  | call op next ih =>
    obtain ⟨out,-,hrest⟩ := Option.bind_eq_some_iff.mp h
    exact .call out.1 (ih out.1 hrest)

end Program

namespace Routine

/-- Whenever the routine returns, its value and the state it leaves satisfy `Q`. -/
def Returns (m : Routine Op Answer ε σ α) (s : σ) (Q : α → σ → Prop) : Prop :=
  ∀ a s', (m s).Ends (.ok a,s') → Q a s'

variable {s : σ} {m : Routine Op Answer ε σ α} {Q Q' : α → σ → Prop}

theorem Returns.mono (h : m.Returns s Q) (himp : ∀ a s, Q a s → Q' a s) : m.Returns s Q' :=
  fun a s' he => himp a s' (h a s' he)

@[simp] theorem returns_pure (a : α) : (pure a : Routine Op Answer ε σ α).Returns s Q ↔ Q a s := by
  constructor
  · intro h
    exact h a s (.done _)
  · intro h b s' he
    obtain ⟨hb,rfl⟩ := Prod.mk.inj ((Program.ends_done _ _).mp he)
    exact Except.ok.inj hb ▸ h

@[simp] theorem returns_raise (e : ε) : (raise e : Routine Op Answer ε σ α).Returns s Q := by
  intro a s' he
  exact nomatch (Prod.mk.inj ((Program.ends_done _ _).mp he)).1

@[simp] theorem returns_ofExcept (r : Except ε α) :
    (ofExcept r : Routine Op Answer ε σ α).Returns s Q ↔ ∀ a, r = .ok a → Q a s := by
  constructor
  · rintro h a rfl
    exact h a s (.done _)
  · intro h a s' he
    obtain ⟨hr,rfl⟩ := Prod.mk.inj ((Program.ends_done _ _).mp he)
    exact h a hr.symm

@[simp] theorem returns_get {Q : σ → σ → Prop} :
    (get : Routine Op Answer ε σ σ).Returns s Q ↔ Q s s := returns_pure s

@[simp] theorem returns_modify {Q : Unit → σ → Prop} (f : σ → σ) :
    (modify f : Routine Op Answer ε σ Unit).Returns s Q ↔ Q () (f s) := by
  constructor
  · intro h
    exact h () (f s) (.done _)
  · intro h _ s' he
    obtain ⟨-,rfl⟩ := Prod.mk.inj ((Program.ends_done _ _).mp he)
    exact h

@[simp] theorem returns_perform (op : Op) {Q : Answer op → σ → Prop} :
    (perform op : Routine Op Answer ε σ (Answer op)).Returns s Q ↔ ∀ a, Q a s := by
  constructor
  · intro h a
    exact h a s (.call (.ok a) (.done _))
  · intro h a s' he
    obtain ⟨reply,hr⟩ := (Program.ends_call _ _ _).mp he
    obtain ⟨-,rfl⟩ := Prod.mk.inj ((Program.ends_done _ _).mp hr)
    exact h a

/-- The rule for sequencing: the rest is reached only by a return. -/
@[simp] theorem returns_bind {Q : β → σ → Prop} (f : α → Routine Op Answer ε σ β) :
    (m >>= f).Returns s Q ↔ m.Returns s (fun a s' => (f a).Returns s' Q) := by
  have hends (b : β) (s' : σ) : ((m >>= f) s).Ends (.ok b,s') ↔
      ∃ a s₁, (m s).Ends (.ok a,s₁) ∧ (f a s₁).Ends (.ok b,s') := by
    refine (Program.ends_bind _ _ _).trans ⟨?_,?_⟩
    · rintro ⟨⟨r,s₁⟩,hm,hf⟩
      cases r with
      | ok a => exact ⟨a,s₁,hm,hf⟩
      | error e => exact nomatch (Prod.mk.inj ((Program.ends_done _ _).mp hf)).1
    · rintro ⟨a,s₁,hm,hf⟩
      exact ⟨(.ok a,s₁),hm,hf⟩
  constructor
  · intro h a s₁ hm b s' hf
    exact h b s' ((hends b s').mpr ⟨a,s₁,hm,hf⟩)
  · intro h b s' hb
    obtain ⟨a,s₁,hm,hf⟩ := (hends b s').mp hb
    exact h a s₁ hm b s' hf

/-- A block whose exception is handled afterwards. -/
theorem returns_attempt {Q : Except ε α → σ → Prop} :
    (attempt m).Returns s Q ↔ ∀ r s', (m s).Ends (r,s') → Q r s' := by
  have hends (r : Except ε α) (s' : σ) : (attempt m s).Ends (.ok r,s') ↔ (m s).Ends (r,s') := by
    refine (Program.ends_bind _ _ _).trans ⟨?_,fun h => ⟨_,h,.done _⟩⟩
    rintro ⟨out,hm,ho⟩
    obtain ⟨hr,rfl⟩ := Prod.mk.inj ((Program.ends_done _ _).mp ho)
    obtain rfl := Except.ok.inj hr
    exact hm
  exact ⟨fun h r s' he => h r s' ((hends r s').mpr he),fun h r s' he => h r s' ((hends r s').mp he)⟩

/-- An attempted block followed by a continuation that passes its exception on. -/
theorem returns_attempt_bind {Q : β → σ → Prop} {f : Except ε α → Routine Op Answer ε σ β}
    (hok : m.Returns s (fun a s' => (f (.ok a)).Returns s' Q))
    (herror : ∀ e s', (f (.error e)).Returns s' Q) : (attempt m >>= f).Returns s Q := by
  rw [returns_bind, returns_attempt]
  intro r s' he
  cases r with
  | ok a => exact hok a s' he
  | error e => exact herror e s'

theorem returns_tryFinally {cleanup : Routine Op Answer ε σ Unit}
    (h : m.Returns s (fun a s' => cleanup.Returns s' (fun _ s'' => Q a s''))) :
    (tryFinally m cleanup).Returns s Q := by
  refine returns_attempt_bind ?_ (fun e s' => ?_)
  · refine h.mono (fun a s' hc => ?_)
    simp only [returns_bind, returns_ofExcept]
    exact hc.mono (fun _ s'' hq b hb => Except.ok.inj hb ▸ hq)
  · simp only [returns_bind, returns_ofExcept]
    exact fun _ _ _ _ hb => nomatch hb

theorem Same.returns {n : Routine Op Answer ε Unit α} (h : Same m s n) (hq : ∀ a, Q a s) :
    m.Returns s Q := by
  intro a s' he
  obtain ⟨⟨r,_⟩,-,ha⟩ := h.ends he
  cases r with
  | ok b =>
    obtain rfl : s' = s := ha.1
    exact hq a
  | error e => exact ha.elim

end Routine
end StreamingCompass.Interleaving
