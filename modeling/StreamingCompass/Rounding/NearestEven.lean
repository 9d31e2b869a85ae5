import Mathlib.Algebra.Order.Field.Basic
import Mathlib.Algebra.Ring.Int.Parity
import Mathlib.Tactic.Linarith
import Mathlib.Tactic.Ring

/-! # Rounding to the nearest integer, ties to even

The rule, what determines the rounded integer, and how rounding meets order, negation and
an even bound.
-/
namespace StreamingCompass.Rounding

variable {K : Type} [Field K] [LinearOrder K] [IsStrictOrderedRing K] {x y : K} {p q : ℤ}

/-- No integer is nearer to `x` than `q`, and of two at the same distance `q` is the even one. -/
structure NearestEven (x : K) (q : ℤ) : Prop where
  nearest : ∀ p : ℤ, |x-q| ≤ |x-p|
  even : ∀ p : ℤ, p ≠ q → |x-q| = |x-p| → Even q

namespace NearestEven

theorem distance_le (h : NearestEven x q) : |x-q| ≤ 1/2 := by
  have hup := h.nearest (q+1)
  have hdown := h.nearest (q-1)
  push_cast at hup hdown
  rw [abs_le]
  constructor
  · by_contra hlt
    have hneg : x-q < 0 := by linarith
    rw [abs_of_neg hneg, le_abs] at hdown
    rcases hdown with hd | hd
    · linarith
    · linarith
  · by_contra hlt
    have hpos : 0 < x-q := by linarith
    rw [abs_of_pos hpos, le_abs] at hup
    rcases hup with hd | hd
    · linarith
    · linarith

theorem even_of_distance (h : NearestEven x q) (hd : |x-q| = 1/2) : Even q := by
  rcases le_total 0 (x-q) with hs | hs
  · rw [abs_of_nonneg hs] at hd
    refine h.even (q+1) (by omega) ?_
    push_cast
    rw [abs_of_nonneg hs, abs_of_nonpos (by linarith)]
    linarith
  · rw [abs_of_nonpos hs] at hd
    refine h.even (q-1) (by omega) ?_
    push_cast
    rw [abs_of_nonpos hs, abs_of_nonneg (by linarith)]
    linarith

/-- Within half a unit, and even at exactly half. -/
theorem of_distance (hle : |x-q| ≤ 1/2) (heven : |x-q| = 1/2 → Even q) : NearestEven x q := by
  have hother (p : ℤ) (hp : p ≠ q) : 1/2 ≤ |x-p| := by
    have hone : (1 : K) ≤ |(q : K)-p| := by
      rw [← Int.cast_sub, ← Int.cast_abs]
      exact_mod_cast Int.one_le_abs (sub_ne_zero.mpr hp.symm)
    have htriangle : |(q : K)-p| ≤ |x-q|+|x-p| := by
      have hsplit : (q : K)-p = -(x-q)+(x-p) := by ring
      rw [hsplit]
      exact (abs_add_le _ _).trans (by rw [abs_neg])
    linarith
  refine ⟨fun p => ?_,fun p hp hd => heven (le_antisymm hle ?_)⟩
  · by_cases hp : p = q
    · rw [hp]
    · exact hle.trans (hother p hp)
  · rw [hd]
    exact hother p hp

theorem mono (hx : NearestEven x p) (hy : NearestEven y q) (hxy : x ≤ y) : p ≤ q := by
  by_contra hlt
  have hstep : (q : K)+1 ≤ p := by exact_mod_cast not_le.mp hlt
  have h1 := abs_le.mp hx.distance_le
  have h2 := abs_le.mp hy.distance_le
  -- both are at the midpoint, and the integers around it are not both even
  have hp : |x-p| = 1/2 := by
    rw [abs_of_nonpos (by linarith)]
    linarith
  have hq : |y-q| = 1/2 := by
    rw [abs_of_nonneg (by linarith)]
    linarith
  have hsucc : p = q+1 := by
    have hle : (p : K) ≤ q+1 := by linarith
    exact_mod_cast le_antisymm hle hstep
  obtain ⟨a,ha⟩ := hx.even_of_distance hp
  obtain ⟨b,hb⟩ := hy.even_of_distance hq
  omega

theorem unique (hp : NearestEven x p) (hq : NearestEven x q) : p = q :=
  le_antisymm (hp.mono hq le_rfl) (hq.mono hp le_rfl)

theorem neg (h : NearestEven x q) : NearestEven (-x) (-q) := by
  have hd : |-x-((-q : ℤ) : K)| = |x-q| := by
    rw [← abs_neg]
    congr 1
    push_cast
    ring
  refine of_distance (hd ▸ h.distance_le) (fun heq => ?_)
  rw [hd] at heq
  exact (h.even_of_distance heq).neg

/-- Rounding stays below an even bound exactly below the midpoint before it. -/
theorem lt_iff (h : NearestEven x q) {n : ℤ} (hn : Even n) : q < n ↔ x < n-1/2 := by
  have hd := abs_le.mp h.distance_le
  constructor
  · intro hlt
    have hstep : (q : K)+1 ≤ n := by exact_mod_cast hlt
    by_contra hge
    have hx : |x-q| = 1/2 := by
      rw [abs_of_nonneg (by linarith)]
      linarith
    have hsucc : n = q+1 := by
      have hle : (n : K) ≤ q+1 := by linarith
      exact_mod_cast le_antisymm hle hstep
    obtain ⟨a,ha⟩ := h.even_of_distance hx
    obtain ⟨b,hb⟩ := hn
    omega
  · intro hlt
    have hcast : (q : K) < n := by linarith
    exact_mod_cast hcast

end NearestEven
end StreamingCompass.Rounding
