import StreamingCompass.Interleaving.System

/-! # Monitors

A value under a lock. The thread that enters takes the value, works on it alone and puts it
back; it leaves on every exit, normal or exceptional.
-/
namespace StreamingCompass.Interleaving

structure Monitor (ι α : Type) where
  value : α
  holder : Option ι

namespace Monitor
variable {ι α : Type}

def enter (m : Monitor ι α) (i : ι) : Monitor ι α := ⟨m.value,some i⟩
def free (a : α) : Monitor ι α := ⟨a,none⟩

@[simp] theorem enter_value (m : Monitor ι α) (i : ι) : (m.enter i).value = m.value := rfl
@[simp] theorem enter_holder (m : Monitor ι α) (i : ι) : (m.enter i).holder = some i := rfl
@[simp] theorem free_value (a : α) : (free a : Monitor ι α).value = a := rfl
@[simp] theorem free_holder (a : α) : (free a : Monitor ι α).holder = none := rfl

end Monitor

/-! ## Visits

Each thread visits a monitor at most once. The history of the visits determines who is
inside, and what every visit preserves holds between any visit and the present value.
-/

/-- Who entered with which value, and who left with which. -/
@[ext]
structure Visits (ι α : Type) where
  entered : ι → α → Prop
  left : ι → α → Prop

namespace Visits
section
variable {ι α β : Type} {v : Visits ι α} {m : Monitor ι α} {i k : ι} {a b : α}

def none : Visits ι α := ⟨fun _ _ => False,fun _ _ => False⟩

def enter (v : Visits ι α) (k : ι) (a : α) : Visits ι α :=
  ⟨fun i b => (i = k ∧ b = a) ∨ v.entered i b,v.left⟩

def leave (v : Visits ι α) (k : ι) (b : α) : Visits ι α :=
  ⟨v.entered,fun i a => (i = k ∧ a = b) ∨ v.left i a⟩

def Inside (v : Visits ι α) (i : ι) : Prop := (∃ a, v.entered i a) ∧ ∀ a, ¬v.left i a

/-- The holder is the thread inside, and the value is still the one it entered with. -/
structure Kept (v : Visits ι α) (m : Monitor ι α) : Prop where
  holder : ∀ i, m.holder = some i ↔ v.Inside i
  held : ∀ i a, m.holder = some i → v.entered i a → m.value = a

theorem Kept.free (a : α) : (none : Visits ι α).Kept (.free a) :=
  ⟨fun _ => iff_of_false (fun h => nomatch h) (fun h => h.1.elim (fun _ hf => hf)),
    fun _ _ h => nomatch h⟩

theorem Kept.enter (h : v.Kept m) (open_ : m.holder = Option.none) (hnew : ∀ a, ¬v.entered k a)
    (hleft : ∀ a, ¬v.left k a) : (v.enter k m.value).Kept (m.enter k) where
  holder i := by
    constructor
    · intro hi
      obtain rfl : k = i := Option.some.inj hi
      exact ⟨⟨m.value,.inl ⟨rfl,rfl⟩⟩,hleft⟩
    · rintro ⟨⟨a,⟨rfl,-⟩ | ha⟩,hout⟩
      · rfl
      · have hi := (h.holder i).mpr ⟨⟨a,ha⟩,hout⟩
        rw [open_] at hi
        cases hi
  held i a hi ha := by
    obtain rfl : k = i := Option.some.inj hi
    rcases ha with ⟨-,rfl⟩ | ha
    · rfl
    · exact (hnew a ha).elim

theorem Kept.leave (h : v.Kept m) (hk : v.Inside k) (b : α) :
    (v.leave k b).Kept (.free b) where
  holder i := by
    refine iff_of_false (fun hi => nomatch hi) ?_
    rintro ⟨⟨a,ha⟩,hout⟩
    have hi : m.holder = some i := (h.holder i).mpr ⟨⟨a,ha⟩,fun a' ha' => hout a' (.inr ha')⟩
    obtain rfl : k = i := Option.some.inj (((h.holder k).mpr hk).symm.trans hi)
    exact hout b (.inl ⟨rfl,rfl⟩)
  held i a hi := nomatch hi

/-- What relates a value to all later ones. -/
structure Past (R : α → α → Prop) (v : Visits ι α) (m : Monitor ι α) : Prop where
  entered : ∀ i a, v.entered i a → R a m.value
  left : ∀ i b, v.left i b → R b m.value

section Past
variable {R : α → α → Prop}

theorem Past.free (a : α) : (none : Visits ι α).Past R (.free a) :=
  ⟨fun _ _ h => h.elim,fun _ _ h => h.elim⟩

theorem Past.enter (h : v.Past R m) (hrefl : ∀ a, R a a) : (v.enter k m.value).Past R (m.enter k) where
  entered i a ha := by
    rcases ha with ⟨-,rfl⟩ | ha
    · exact hrefl _
    · exact h.entered i a ha
  left := h.left

theorem Past.leave (h : v.Past R m) (hrefl : ∀ a, R a a)
    (htrans : ∀ {a b c}, R a b → R b c → R a c) (hb : R m.value b) :
    (v.leave k b).Past R (.free b) where
  entered i a ha := htrans (h.entered i a ha) hb
  left i a ha := by
    rcases ha with ⟨-,rfl⟩ | ha
    · exact hrefl _
    · exact htrans (h.left i a ha) hb

end Past

/-- A cell of the value that is filled once: one thread finds it empty, and what the others
find is what that thread left. -/
structure Once (cell : α → Option β) (v : Visits ι α) (m : Monitor ι α) : Prop where
  opened : ∀ i a, v.entered i a → cell a = Option.none → m.holder = some i ∨ (cell m.value).isSome
  filled : ∀ i b, v.left i b → (cell b).isSome ∧ cell b = cell m.value
  unique : ∀ i j a b, v.entered i a → cell a = Option.none → v.entered j b → cell b = Option.none →
    i = j

section Once
variable {cell : α → Option β}

theorem Once.free (a : α) : (none : Visits ι α).Once cell (.free a) :=
  ⟨fun _ _ h => h.elim,fun _ _ h => h.elim,fun _ _ _ _ h => h.elim⟩

theorem Once.enter (h : v.Once cell m) (open_ : m.holder = Option.none) :
    (v.enter k m.value).Once cell (m.enter k) := by
  have hold {i : ι} {a : α} (ha : v.entered i a) (hn : cell a = Option.none)
      (hm : cell m.value = Option.none) : False := by
    rcases h.opened i a ha hn with hi | hs
    · rw [open_] at hi
      cases hi
    · rw [hm] at hs
      cases hs
  refine ⟨?_,h.filled,?_⟩
  · rintro i a (⟨rfl,rfl⟩ | ha) hn
    · exact .inl rfl
    · rcases h.opened i a ha hn with hi | hs
      · rw [open_] at hi
        cases hi
      · exact .inr hs
  · rintro i j a b (⟨rfl,rfl⟩ | ha) hna (⟨rfl,rfl⟩ | hb) hnb
    · rfl
    · exact (hold hb hnb hna).elim
    · exact (hold ha hna hnb).elim
    · exact h.unique i j a b ha hna hb hnb

theorem Once.leave (h : v.Once cell m) (hb : (cell b).isSome)
    (hkept : (cell m.value).isSome → cell b = cell m.value) :
    (v.leave k b).Once cell (.free b) := by
  refine ⟨fun i a _ _ => .inr hb,?_,h.unique⟩
  rintro i a (⟨-,rfl⟩ | ha)
  · exact ⟨hb,rfl⟩
  · obtain ⟨hs,heq⟩ := h.filled i a ha
    exact ⟨hs,heq.trans (hkept (heq ▸ hs)).symm⟩

end Once
end
end Visits

variable {Op : Type} {Answer : Op → Type} {ε σ α : Type}

/-- A block under a lock, by the operations that enter and leave it. -/
def Program.synchronized (enter : Op) (take : Answer enter → σ) (leave : σ → Op)
    (body : Routine Op Answer ε σ α) : Program Op Answer ε (Except ε α) :=
  .call enter (fun r => match r with
    | .error e => .done (.error e)
    | .ok a => (body (take a)).bind (fun out => .call (leave out.2) (fun _ => .done out.1)))

/-- The rule for a block under a lock: it leaves the value of its body, whatever the outcome. -/
theorem Program.meets_synchronized {C : Contract Op Answer ε} {post : Log Op Answer ε → Except ε α → Prop}
    {enter : Op} {take : Answer enter → σ} {leave : σ → Op} {body : Routine Op Answer ε σ α}
    {log : Log Op Answer ε} (henter : C.guard log enter)
    (herror : ∀ e, C.allowed log enter (.error e) → post (⟨enter,.error e⟩ :: log) (.error e))
    (hbody : ∀ a, C.allowed log enter (.ok a) → body.Meets C (take a) (⟨enter,.ok a⟩ :: log)
      (fun log r s => C.guard log (leave s) ∧
        ∀ reply, C.allowed log (leave s) reply → post (⟨leave s,reply⟩ :: log) r)) :
    (synchronized enter take leave body).Meets C post log := by
  refine ⟨henter,fun r hr => ?_⟩
  cases r with
  | error e => exact herror e hr
  | ok a => exact (Program.meets_bind _ _ _).mpr (hbody a hr)

end StreamingCompass.Interleaving
