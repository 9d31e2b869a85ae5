import Mathlib.Algebra.Order.Floor.Div
import Mathlib.Data.List.Basic

/-! # Unbounded loops and paged reads

A `while True` loop is one round, which ends with an answer or with the state of the
next round. `run` gives it fuel and counts the rounds; an answer does not depend on
the fuel. The second part reads a list in pages until an empty page comes back.
-/
namespace StreamingCompass.Iteration

variable {σ ρ : Type}

/-- The answer of a loop and the number of its rounds, when the fuel suffices. -/
def run (round : σ → σ ⊕ ρ) : ℕ → σ → Option (ρ × ℕ)
  | 0, _ => none
  | fuel+1, s => match round s with
    | .inr r => some (r,1)
    | .inl s' => (run round fuel s').map (fun out => (out.1,out.2+1))

variable {round : σ → σ ⊕ ρ}

theorem run_exit {s : σ} {r : ρ} (h : round s = .inr r) (fuel : ℕ) :
    run round (fuel+1) s = some (r,1) := by simp only [run, h]

theorem run_next {s s' : σ} (h : round s = .inl s') (fuel : ℕ) :
    run round (fuel+1) s = (run round fuel s').map (fun out => (out.1,out.2+1)) := by
  simp only [run, h]

/-- The countdown rule: with `k` rounds to go, a loop that counts down ends after one more. -/
theorem run_of_countdown {answer : ρ} (I : ℕ → σ → Prop)
    (hnext : ∀ k s, I (k+1) s → ∃ s', round s = .inl s' ∧ I k s')
    (hexit : ∀ s, I 0 s → round s = .inr answer) {k fuel : ℕ} {s : σ} (hs : I k s)
    (hf : k < fuel) : run round fuel s = some (answer,k+1) := by
  induction k generalizing s fuel with
  | zero =>
    obtain ⟨fuel,rfl⟩ : ∃ m, fuel = m+1 := ⟨fuel-1,by omega⟩
    exact run_exit (hexit s hs) fuel
  | succ k ih =>
    obtain ⟨fuel,rfl⟩ : ∃ m, fuel = m+1 := ⟨fuel-1,by omega⟩
    obtain ⟨s',hr,hi⟩ := hnext k s hs
    rw [run_next hr, ih hi (by omega)]
    rfl

/-- The answer and the number of rounds do not depend on the fuel. -/
theorem run_unique {fuel fuel' : ℕ} {s : σ} {out out' : ρ × ℕ} (h : run round fuel s = some out)
    (h' : run round fuel' s = some out') : out = out' := by
  induction fuel generalizing fuel' s out out' with
  | zero => cases h
  | succ fuel ih =>
    cases fuel' with
    | zero => cases h'
    | succ fuel' =>
      cases hr : round s with
      | inr r =>
        rw [run_exit hr] at h h'
        exact Option.some.inj (h.symm.trans h')
      | inl s' =>
        rw [run_next hr, Option.map_eq_some_iff] at h h'
        obtain ⟨a,ha,rfl⟩ := h
        obtain ⟨b,hb,rfl⟩ := h'
        rw [ih ha hb]

section Paging
variable {α : Type}

/-- The number of non-empty pages of a list. -/
def pages (limit : ℕ) (xs : List α) : ℕ := xs.length ⌈/⌉ limit

theorem pages_nil (limit : ℕ) : pages limit ([] : List α) = 0 := zero_ceilDiv limit

/-- Dropping one page from a list that is not empty leaves one page less. -/
theorem pages_drop {limit : ℕ} {xs : List α} (hl : 0 < limit) (hx : xs ≠ []) :
    pages limit xs = pages limit (xs.drop limit)+1 := by
  have hpos := List.length_pos_iff.mpr hx
  simp only [pages, List.length_drop, Nat.ceilDiv_eq_add_pred_div]
  rcases Nat.le_total xs.length limit with h | h
  · have h1 : (xs.length+limit-1)/limit = 1 := by
      rw [Nat.div_eq_of_lt_le] <;> omega
    have h0 : (xs.length-limit+limit-1)/limit = 0 := Nat.div_eq_of_lt (by omega)
    omega
  · have he : xs.length+limit-1 = (xs.length-limit+limit-1)+limit := by omega
    rw [he, Nat.add_div_right _ hl]

/-- A loop that takes one page a round and ends on an empty one reads the whole list, in
one round more than it has pages. -/
theorem run_pages {limit : ℕ} (hl : 0 < limit) {whole : List α} (state : List α → List α → σ)
    {answer : ρ}
    (hnext : ∀ read rest, read ++ rest = whole → rest ≠ [] →
      round (state read rest) = .inl (state (read ++ rest.take limit) (rest.drop limit)))
    (hexit : round (state whole []) = .inr answer) {fuel : ℕ} (hf : pages limit whole < fuel) :
    run round fuel (state [] whole) = some (answer,pages limit whole+1) := by
  refine run_of_countdown (fun k s => ∃ read rest, s = state read rest ∧ read ++ rest = whole ∧
    pages limit rest = k) ?_ ?_ ⟨[],whole,rfl,rfl,rfl⟩ hf
  · rintro k s ⟨read,rest,rfl,hw,hk⟩
    have hne : rest ≠ [] := by
      rintro rfl
      rw [pages_nil] at hk
      cases hk
    have hp := pages_drop hl hne
    refine ⟨_,hnext read rest hw hne,_,_,rfl,?_,by omega⟩
    rw [List.append_assoc, List.take_append_drop, hw]
  · rintro s ⟨read,rest,rfl,hw,hk⟩
    cases rest with
    | nil =>
      obtain rfl : read = whole := by simpa using hw
      exact hexit
    | cons y rest =>
      have hp := pages_drop hl (List.cons_ne_nil y rest)
      omega

end Paging
end StreamingCompass.Iteration
