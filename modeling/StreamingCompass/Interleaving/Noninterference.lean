import StreamingCompass.Interleaving.Simulation

/-! # Two runs of one program

Two programs are similar when they make corresponding calls as long as the replies they get
correspond. Any two runs of them whose replies correspond then do so as a whole. Handlers
that turn calls into programs over another signature keep similarity.
-/
namespace StreamingCompass.Interleaving

variable {Op : Type} {Answer : Op → Type} {ε α β γ δ : Type}
variable {Op' : Type} {Answer' : Op' → Type} {ε' : Type}

/-- The exchanges of a whole run, in order, and the value it ends with. -/
inductive Program.Executes : Program Op Answer ε α → List (Exchange Op Answer ε) → α → Prop where
  | done (a : α) : Executes (.done a) [] a
  | call {op : Op} {next : Reply Answer ε op → Program Op Answer ε α}
    {es : List (Exchange Op Answer ε)} {a : α} (reply : Reply Answer ε op)
    (rest : Executes (next reply) es a) : Executes (.call op next) (⟨op,reply⟩ :: es) a

/-- Which calls of two runs correspond, and which calls with their replies. -/
structure Correspondence (Op : Type) (Answer : Op → Type) (ε : Type) where
  calls : Op → Op → Prop
  exchanges : Exchange Op Answer ε → Exchange Op Answer ε → Prop

/-- The runs differ in corresponding replies only: wherever they make corresponding calls. -/
def Correspondence.Aligned (C : Correspondence Op Answer ε) (es es' : List (Exchange Op Answer ε)) :
    Prop :=
  ∀ (n : ℕ) x y, es[n]? = some x → es'[n]? = some y → C.calls x.1 y.1 → C.exchanges x y

inductive Program.Similar (C : Correspondence Op Answer ε) (R : α → β → Prop) :
    Program Op Answer ε α → Program Op Answer ε β → Prop where
  | done {a : α} {b : β} (related : R a b) : Similar C R (.done a) (.done b)
  | call {op op' : Op} {next : Reply Answer ε op → Program Op Answer ε α}
    {next' : Reply Answer ε op' → Program Op Answer ε β} (calls : C.calls op op')
    (rest : ∀ r r', C.exchanges ⟨op,r⟩ ⟨op',r'⟩ → Similar C R (next r) (next' r')) :
    Similar C R (.call op next) (.call op' next')

namespace Program.Similar
variable {C : Correspondence Op Answer ε} {R : α → β → Prop} {p : Program Op Answer ε α}
  {q : Program Op Answer ε β}

/-- Runs of similar programs correspond call by call. -/
theorem executes (h : Similar C R p q) {es es' : List (Exchange Op Answer ε)} {a : α} {b : β}
    (hp : p.Executes es a) (hq : q.Executes es' b) (haligned : C.Aligned es es') :
    List.Forall₂ C.exchanges es es' ∧ R a b := by
  induction h generalizing es es' with
  | done related =>
    cases hp
    cases hq
    exact ⟨.nil,related⟩
  | call calls _ ih =>
    cases hp with
    | call r hp =>
      cases hq with
      | call r' hq =>
        have hfirst := haligned 0 _ _ rfl rfl calls
        have hrest := ih r r' hfirst hp hq (fun n x y hx hy => haligned (n+1) x y hx hy)
        exact ⟨.cons hfirst hrest.1,hrest.2⟩

theorem mono {R' : α → β → Prop} (h : Similar C R p q) (himp : ∀ a b, R a b → R' a b) :
    Similar C R' p q := by
  induction h with
  | done related => exact .done (himp _ _ related)
  | call calls _ ih => exact .call calls ih

theorem bind {S : γ → δ → Prop} {f : α → Program Op Answer ε γ} {g : β → Program Op Answer ε δ}
    (h : Similar C R p q) (hf : ∀ a b, R a b → Similar C S (f a) (g b)) :
    Similar C S (p.bind f) (q.bind g) := by
  induction h with
  | done related => exact hf _ _ related
  | call calls _ ih => exact .call calls ih

/-- Programs in lockstep with similar ones are similar. -/
theorem of_sim {T : γ → α → Prop} {T' : δ → β → Prop} {p' : Program Op Answer ε γ}
    {q' : Program Op Answer ε δ} (h : Similar C R p q) (hp : Sim T p' p) (hq : Sim T' q' q) :
    Similar C (fun c d => ∃ a b, T c a ∧ T' d b ∧ R a b) p' q' := by
  induction h generalizing p' q' with
  | done related =>
    cases hp with
    | done hc =>
      cases hq with
      | done hd => exact .done ⟨_,_,hc,hd,related⟩
  | call calls _ ih =>
    cases hp with
    | call hp =>
      cases hq with
      | call hq => exact .call calls (fun r r' hr => ih r r' hr (hp r) (hq r'))

end Program.Similar

/-- The run of a program whose every call is answered by its operation alone. -/
def Program.respond (f : ∀ op, Reply Answer ε op) :
    Program Op Answer ε α → List (Exchange Op Answer ε) × α
  | .done a => ([],a)
  | .call op next => (⟨op,f op⟩ :: ((next (f op)).respond f).1,((next (f op)).respond f).2)

theorem Program.executes_respond (f : ∀ op, Reply Answer ε op) (p : Program Op Answer ε α) :
    p.Executes (p.respond f).1 (p.respond f).2 := by
  induction p with
  | done a => exact .done a
  | call op next ih => exact .call (f op) (ih (f op))

theorem Program.respond_answers (f : ∀ op, Reply Answer ε op) (p : Program Op Answer ε α) :
    ∀ x ∈ (p.respond f).1, x.2 = f x.1 := by
  induction p with
  | done a => exact fun _ h => nomatch h
  | call op next ih =>
    intro x hx
    rcases List.mem_cons.mp hx with rfl | hx
    · rfl
    · exact ih (f op) x hx

theorem Correspondence.aligned_respond {C : Correspondence Op Answer ε}
    {f f' : ∀ op, Reply Answer ε op}
    (h : ∀ op op', C.calls op op' → C.exchanges ⟨op,f op⟩ ⟨op',f' op'⟩) (p : Program Op Answer ε α)
    (q : Program Op Answer ε β) : C.Aligned (p.respond f).1 (q.respond f').1 := by
  intro n x y hx hy hcalls
  obtain ⟨op,r⟩ := x
  obtain ⟨op',r'⟩ := y
  obtain rfl : r = f op := p.respond_answers f _ (List.mem_of_getElem? hx)
  obtain rfl : r' = f' op' := q.respond_answers f' _ (List.mem_of_getElem? hy)
  exact h op op' hcalls

/-! ## Handlers -/

/-- Every call of the program satisfies `H`. -/
def Program.Only (H : Op → Prop) : Program Op Answer ε α → Prop
  | .done _ => True
  | .call op next => H op ∧ ∀ r, (next r).Only H

theorem Program.only_true (p : Program Op Answer ε α) : p.Only (fun _ => True) := by
  induction p with
  | done a => trivial
  | call op next ih => exact ⟨trivial,ih⟩

theorem Program.Only.bind {H : Op → Prop} {p : Program Op Answer ε α}
    {f : α → Program Op Answer ε β} (hp : p.Only H) (hf : ∀ a, (f a).Only H) : (p.bind f).Only H := by
  induction p with
  | done a => exact hf a
  | call op next ih => exact ⟨hp.1,fun r => ih r (hp.2 r)⟩

namespace Routine
variable {σ : Type} {H : Op → Prop} {m : Routine Op Answer ε σ α}

/-- Every call of the routine satisfies `H`, whatever its state. -/
def Only (H : Op → Prop) (m : Routine Op Answer ε σ α) : Prop := ∀ s, (m s).Only H

theorem only_pure (a : α) : Only H (pure a : Routine Op Answer ε σ α) := fun _ => trivial
theorem only_raise (e : ε) : Only H (raise e : Routine Op Answer ε σ α) := fun _ => trivial
theorem only_ofExcept (r : Except ε α) : Only H (ofExcept r : Routine Op Answer ε σ α) :=
  fun _ => trivial
theorem only_get : Only H (get : Routine Op Answer ε σ σ) := fun _ => trivial
theorem only_modify (f : σ → σ) : Only H (modify f : Routine Op Answer ε σ Unit) := fun _ => trivial
theorem only_perform {op : Op} (h : H op) : Only H (perform op : Routine Op Answer ε σ (Answer op)) :=
  fun _ => ⟨h,fun _ => trivial⟩

theorem only_bind {f : α → Routine Op Answer ε σ β} (hm : Only H m) (hf : ∀ a, Only H (f a)) :
    Only H (m >>= f) := by
  intro s
  refine (hm s).bind (fun out => ?_)
  cases out.1 with
  | ok a => exact hf a _
  | error e => trivial

theorem only_attempt (hm : Only H m) : Only H (attempt m) :=
  fun s => (hm s).bind (fun _ => trivial)

end Routine

/-- The program with each call replaced by the program that handles it. -/
def Program.interpret {H : Op → Prop} (f : ∀ op, H op → Program Op' Answer' ε' (Reply Answer ε op)) :
    (p : Program Op Answer ε α) → p.Only H → Program Op' Answer' ε' α
  | .done a, _ => .done a
  | .call op next, h => (f op h.1).bind (fun r => (next r).interpret f (h.2 r))

/-- Similar handlers of corresponding calls keep similarity. -/
theorem Program.Similar.interpret {C : Correspondence Op Answer ε} {C' : Correspondence Op' Answer' ε'}
    {R : α → β → Prop} {H : Op → Prop} {f g : ∀ op, H op → Program Op' Answer' ε' (Reply Answer ε op)}
    {p : Program Op Answer ε α} {q : Program Op Answer ε β} (h : Similar C R p q)
    (hf : ∀ op op' (ho : H op) (ho' : H op'), C.calls op op' →
      Similar C' (fun r r' => C.exchanges ⟨op,r⟩ ⟨op',r'⟩) (f op ho) (g op' ho'))
    (hp : p.Only H) (hq : q.Only H) : Similar C' R (p.interpret f hp) (q.interpret g hq) := by
  induction h with
  | done related => exact .done related
  | call calls _ ih =>
    exact (hf _ _ hp.1 hq.1 calls).bind (fun r r' hr => ih r r' hr (hp.2 r) (hq.2 r'))

/-! ## Outcomes and routines -/

/-- Two outcomes of the same kind. -/
inductive Outcomes (E : ε → ε → Prop) (P : α → β → Prop) : Except ε α → Except ε β → Prop where
  | ok {a : α} {b : β} (related : P a b) : Outcomes E P (.ok a) (.ok b)
  | error {e e' : ε} (related : E e e') : Outcomes E P (.error e) (.error e')

namespace Outcomes

theorem bind {E : ε → ε → Prop} {P : α → β → Prop} {Q : γ → δ → Prop} {r : Except ε α}
    {r' : Except ε β} {f : α → Except ε γ} {g : β → Except ε δ} (h : Outcomes E P r r')
    (hf : ∀ a b, P a b → Outcomes E Q (f a) (g b)) : Outcomes E Q (r >>= f) (r' >>= g) := by
  cases h with
  | ok related => exact hf _ _ related
  | error related => exact .error related

theorem refl (r : Except ε α) : Outcomes Eq Eq r r := by
  cases r with
  | ok a => exact .ok rfl
  | error e => exact .error rfl

theorem bind_same {Q : γ → δ → Prop} (r : Except ε α) {f : α → Except ε γ} {g : α → Except ε δ}
    (hf : ∀ a, Outcomes Eq Q (f a) (g a)) : Outcomes Eq Q (r >>= f) (r >>= g) := by
  refine (refl r).bind (fun a b hab => ?_)
  subst hab
  exact hf a

theorem mapError {ε₁ : Type} {E : ε → ε → Prop} {E₁ : ε₁ → ε₁ → Prop} {P : α → β → Prop}
    {r : Except ε α} {r' : Except ε β} {f : ε → ε₁} (h : Outcomes E P r r')
    (hf : ∀ e e', E e e' → E₁ (f e) (f e')) : Outcomes E₁ P (r.mapError f) (r'.mapError f) := by
  cases h with
  | ok related => exact .ok related
  | error related => exact .error (hf _ _ related)

end Outcomes

namespace Routine
variable {σ : Type} {C : Correspondence Op Answer ε} {S : σ → σ → Prop} {E : ε → ε → Prop}
  {P : α → β → Prop} {m : Routine Op Answer ε σ α} {n : Routine Op Answer ε σ β}

/-- From states that correspond, similar programs whose outcomes and states do. -/
def Similar (C : Correspondence Op Answer ε) (S : σ → σ → Prop) (E : ε → ε → Prop)
    (P : α → β → Prop) (m : Routine Op Answer ε σ α) (n : Routine Op Answer ε σ β) : Prop :=
  ∀ s s', S s s' → Program.Similar C (fun x y => Outcomes E P x.1 y.1 ∧ S x.2 y.2) (m s) (n s')

theorem similar_pure {a : α} {b : β} (h : P a b) :
    Similar C S E P (pure a : Routine Op Answer ε σ α) (pure b) := fun _ _ hs => .done ⟨.ok h,hs⟩

theorem similar_raise {e e' : ε} (h : E e e') :
    Similar C S E P (raise e : Routine Op Answer ε σ α) (raise e') := fun _ _ hs => .done ⟨.error h,hs⟩

theorem similar_ofExcept {r : Except ε α} {r' : Except ε β} (h : Outcomes E P r r') :
    Similar C S E P (ofExcept r) (ofExcept r') := fun _ _ hs => .done ⟨h,hs⟩

theorem similar_get : Similar C S E S get get := fun _ _ hs => .done ⟨.ok hs,hs⟩

theorem similar_modify {P : Unit → Unit → Prop} {f g : σ → σ} (hp : P () ())
    (h : ∀ s s', S s s' → S (f s) (g s')) : Similar C S E P (modify f) (modify g) :=
  fun s s' hs => .done ⟨.ok hp,h s s' hs⟩

theorem similar_perform {op op' : Op} {P : Answer op → Answer op' → Prop} (calls : C.calls op op')
    (h : ∀ r r', C.exchanges ⟨op,r⟩ ⟨op',r'⟩ → Outcomes E P r r') :
    Similar C S E P (perform op) (perform op') :=
  fun _ _ hs => .call calls (fun r r' hr => .done ⟨h r r' hr,hs⟩)

theorem similar_bind {Q : γ → δ → Prop} {f : α → Routine Op Answer ε σ γ}
    {g : β → Routine Op Answer ε σ δ} (hm : Similar C S E P m n)
    (hf : ∀ a b, P a b → Similar C S E Q (f a) (g b)) : Similar C S E Q (m >>= f) (n >>= g) := by
  intro s s' hs
  refine Program.Similar.bind (hm s s' hs) ?_
  rintro ⟨r,t⟩ ⟨r',t'⟩ ⟨h,ht⟩
  cases h with
  | ok related => exact hf _ _ related t t' ht
  | error related => exact .done ⟨.error related,ht⟩

theorem similar_attempt {E' : ε → ε → Prop} (hm : Similar C S E P m n) :
    Similar C S E' (Outcomes E P) (attempt m) (attempt n) :=
  fun s s' hs => Program.Similar.bind (hm s s' hs) (fun _ _ h => .done ⟨.ok h.1,h.2⟩)

theorem similar_tryFinally {Q : Unit → Unit → Prop} {c d : Routine Op Answer ε σ Unit}
    (hm : Similar C S E P m n) (hc : Similar C S E Q c d) :
    Similar C S E P (tryFinally m c) (tryFinally n d) :=
  similar_bind (similar_attempt hm) (fun _ _ h => similar_bind hc (fun _ _ _ => similar_ofExcept h))

end Routine
end StreamingCompass.Interleaving
