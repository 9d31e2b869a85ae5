import StreamingCompass.Interleaving.Run

/-! # Programs amid interference

A program whose world others change before each of its operations, in whatever way a
relation allows.
-/
namespace StreamingCompass.Interleaving

variable {World Op : Type} {Answer : Op → Type} {ε σ α β : Type}

/-- A run of a program in a world that others move between its operations. -/
inductive Program.Amid (f : Semantics World Op Answer ε) (others : World → World → Prop) :
    Program Op Answer ε α → World → α → World → Prop where
  | done {a : α} {w : World} : Amid f others (.done a) w a w
  | call {op : Op} {next : Reply Answer ε op → Program Op Answer ε α} {w w₁ w₂ w' : World} {a : α}
    {r : Reply Answer ε op} (moved : others w w₁) (served : f op w₁ = some (r,w₂))
    (rest : Amid f others (next r) w₂ a w') : Amid f others (.call op next) w a w'

/-- A run of a routine from a local state. -/
def Routine.Amid (f : Semantics World Op Answer ε) (others : World → World → Prop)
    (m : Routine Op Answer ε σ α) (s : σ) (w : World) (r : Except ε α) (s' : σ) (w' : World) : Prop :=
  Program.Amid f others (m s) w (r,s') w'

section Rules
variable {f : Semantics World Op Answer ε} {others : World → World → Prop} {w w' : World}

@[simp] theorem Program.amid_done {a b : α} :
    Amid f others (.done a : Program Op Answer ε α) w b w' ↔ b = a ∧ w' = w := by
  constructor
  · intro h
    cases h with
    | done => exact ⟨rfl,rfl⟩
  · rintro ⟨rfl,rfl⟩
    exact .done

@[simp] theorem Program.amid_call {op : Op} {next : Reply Answer ε op → Program Op Answer ε α}
    {b : α} : Amid f others (.call op next) w b w' ↔
      ∃ w₁ r w₂, others w w₁ ∧ f op w₁ = some (r,w₂) ∧ Amid f others (next r) w₂ b w' := by
  constructor
  · intro h
    cases h with
    | call moved served rest => exact ⟨_,_,_,moved,served,rest⟩
  · rintro ⟨w₁,r,w₂,moved,served,rest⟩
    exact .call moved served rest

theorem Program.amid_bind (p : Program Op Answer ε α) (g : α → Program Op Answer ε β) {b : β} :
    Amid f others (p.bind g) w b w' ↔ ∃ a w₁, Amid f others p w a w₁ ∧ Amid f others (g a) w₁ b w' := by
  induction p generalizing w with
  | done a =>
    simp only [bind_done, amid_done]
    constructor
    · intro h
      exact ⟨a,w,⟨rfl,rfl⟩,h⟩
    · rintro ⟨_,_,⟨rfl,rfl⟩,h⟩
      exact h
  | call op next ih =>
    simp only [bind_call, amid_call, ih]
    constructor
    · rintro ⟨w₁,r,w₂,moved,served,a,w₃,hfirst,hrest⟩
      exact ⟨a,w₃,⟨w₁,r,w₂,moved,served,hfirst⟩,hrest⟩
    · rintro ⟨a,w₃,⟨w₁,r,w₂,moved,served,hfirst⟩,hrest⟩
      exact ⟨w₁,r,w₂,moved,served,a,w₃,hfirst,hrest⟩

/-- A program whose guarded operations are served can be run to its end. -/
theorem Program.Meets.exists_amid {C : Contract Op Answer ε} {post : Log Op Answer ε → α → Prop}
    {p : Program Op Answer ε α} {log : Log Op Answer ε} (h : p.Meets C post log)
    (hquiet : ∀ w, others w w) (hserved : ∀ log op w, C.guard log op → ∃ r w', f op w = some (r,w') ∧
      C.allowed log op r) : ∃ a w', Program.Amid f others p w a w' := by
  induction p generalizing w log with
  | done a => exact ⟨a,w,.done⟩
  | call op next ih =>
    obtain ⟨hguard,hnext⟩ := h
    obtain ⟨r,w₁,hr,hallowed⟩ := hserved log op w hguard
    obtain ⟨a,w',hrest⟩ := ih r (hnext r hallowed)
    exact ⟨a,w',.call (hquiet w) hr hrest⟩

variable {s s' : σ} {r : Except ε α}

@[simp] theorem Routine.amid_pure {a : α} :
    Amid f others (pure a : Routine Op Answer ε σ α) s w r s' w' ↔ r = .ok a ∧ s' = s ∧ w' = w := by
  change Program.Amid f others (.done (.ok a,s)) w (r,s') w' ↔ _
  rw [Program.amid_done, Prod.mk.injEq, and_assoc]

@[simp] theorem Routine.amid_raise {e : ε} :
    Amid f others (raise e : Routine Op Answer ε σ α) s w r s' w' ↔
      r = .error e ∧ s' = s ∧ w' = w := by
  change Program.Amid f others (.done (.error e,s)) w (r,s') w' ↔ _
  rw [Program.amid_done, Prod.mk.injEq, and_assoc]

@[simp] theorem Routine.amid_ofExcept {r₀ : Except ε α} :
    Amid f others (ofExcept r₀ : Routine Op Answer ε σ α) s w r s' w' ↔
      r = r₀ ∧ s' = s ∧ w' = w := by
  change Program.Amid f others (.done (r₀,s)) w (r,s') w' ↔ _
  rw [Program.amid_done, Prod.mk.injEq, and_assoc]

theorem Routine.amid_perform {op : Op} {r : Reply Answer ε op} :
    Amid f others (perform op : Routine Op Answer ε σ (Answer op)) s w r s' w' ↔
      s' = s ∧ ∃ w₁, others w w₁ ∧ f op w₁ = some (r,w') := by
  change Program.Amid f others (.call op _) w (r,s') w' ↔ _
  simp only [Program.amid_call, Program.amid_done, Prod.mk.injEq]
  constructor
  · rintro ⟨w₁,_,_,moved,served,⟨rfl,rfl⟩,rfl⟩
    exact ⟨rfl,w₁,moved,served⟩
  · rintro ⟨rfl,w₁,moved,served⟩
    exact ⟨w₁,r,w',moved,served,⟨rfl,rfl⟩,rfl⟩

/-- An exception of the first part is the outcome of a sequence. -/
theorem Routine.amid_bind (m : Routine Op Answer ε σ α) (g : α → Routine Op Answer ε σ β)
    {r : Except ε β} : Amid f others (m >>= g) s w r s' w' ↔
      (∃ a s₁ w₁, Amid f others m s w (.ok a) s₁ w₁ ∧ Amid f others (g a) s₁ w₁ r s' w') ∨
        ∃ e, Amid f others m s w (.error e) s' w' ∧ r = .error e := by
  change Program.Amid f others ((m s).bind _) w (r,s') w' ↔ _
  rw [Program.amid_bind]
  constructor
  · rintro ⟨⟨r₁,s₁⟩,w₁,hfirst,hrest⟩
    cases r₁ with
    | ok a => exact .inl ⟨a,s₁,w₁,hfirst,hrest⟩
    | error e =>
      obtain ⟨hout,rfl⟩ := Program.amid_done.mp hrest
      obtain ⟨rfl,rfl⟩ := Prod.mk.inj hout
      exact .inr ⟨e,hfirst,rfl⟩
  · rintro (⟨a,s₁,w₁,hfirst,hrest⟩ | ⟨e,hfirst,rfl⟩)
    · exact ⟨_,w₁,hfirst,hrest⟩
    · exact ⟨_,w',hfirst,.done⟩

end Rules
end StreamingCompass.Interleaving
