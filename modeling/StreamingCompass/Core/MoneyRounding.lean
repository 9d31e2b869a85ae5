import Mathlib.Data.Rat.Cast.Order
import Mathlib.Tactic.FieldSimp
import Mathlib.Tactic.NormNum
import StreamingCompass.Core.Money
import StreamingCompass.Rounding.NearestEven

/-! # What normalization does to an amount

The exact value of an input as a rational number, and `normalize_money` as rounding of it
to the nearest hundredth.
-/
namespace StreamingCompass
open Rounding

/-! ## Exact values -/

def Decimal.value : Decimal → Option ℚ
  | .finite s c e => some (Decimal.signed s c*10^e)
  | _ => none

/-- The number an input denotes: what `Decimal(value)` holds, exactly. -/
def MoneyInput.value (v : MoneyInput) : Option ℚ :=
  match v.toDecimal with
  | .ok d => d.value
  | .error _ => none

theorem nearestEven_roundHalfEven (n : ℕ) {d : ℕ} (hd : 0 < d) :
    NearestEven ((n : ℚ)/d) (roundHalfEven n d : ℤ) := by
  have hpos : (0 : ℚ) < d := by exact_mod_cast hd
  have hlt : n % d < d := Nat.mod_lt n hd
  have hsplit : (n : ℚ)/d = (n/d : ℕ)+((n % d : ℕ) : ℚ)/d := by
    rw [← mul_right_inj' hpos.ne', mul_add, mul_div_cancel₀ _ hpos.ne', mul_div_cancel₀ _ hpos.ne']
    exact_mod_cast (Nat.div_add_mod n d).symm
  have hnonneg : (0 : ℚ) ≤ ((n % d : ℕ) : ℚ)/d := by positivity
  generalize hr : ((n % d : ℕ) : ℚ)/d = r at hsplit hnonneg
  -- the remainder, as a fraction of the divisor, against one half
  have hcompare : (2*(n % d) < d ↔ r < 1/2) ∧ (d < 2*(n % d) ↔ 1/2 < r) := by
    rw [← hr, div_lt_iff₀ hpos, lt_div_iff₀ hpos]
    constructor
    · rw [← Nat.cast_lt (α := ℚ)]
      push_cast
      constructor <;> intro h <;> linarith
    · rw [← Nat.cast_lt (α := ℚ)]
      push_cast
      constructor <;> intro h <;> linarith
  have hone : r < 1 := by
    rw [← hr, div_lt_one hpos]
    exact_mod_cast hlt
  rw [hsplit]
  unfold roundHalfEven
  split
  · rename_i hless
    have hless := hcompare.1.mp hless
    refine .of_distance ?_ (fun h => ?_)
    · rw [Int.cast_natCast, add_sub_cancel_left, abs_of_nonneg hnonneg]
      exact hless.le
    · rw [Int.cast_natCast, add_sub_cancel_left, abs_of_nonneg hnonneg] at h
      exact absurd h hless.ne
  · rename_i hless
    have hless : 1/2 ≤ r := not_lt.mp (fun h => hless (hcompare.1.mpr h))
    have hup : ((n/d : ℕ) : ℚ)+r-(((n/d+1 : ℕ) : ℤ) : ℚ) = -(1-r) := by
      rw [Int.cast_natCast, Nat.cast_succ]
      ring
    have habs : |(-(1-r) : ℚ)| = 1-r := by
      rw [abs_neg, abs_of_nonneg (by linarith)]
    split
    · rename_i hmore
      have hmore := hcompare.2.mp hmore
      refine .of_distance ?_ (fun h => ?_)
      · rw [hup, habs]
        linarith
      · rw [hup, habs] at h
        linarith
    · rename_i hmore
      have hhalf : r = 1/2 := le_antisymm (not_lt.mp (fun h => hmore (hcompare.2.mpr h))) hless
      split
      · rename_i heven
        refine .of_distance ?_ (fun _ => ?_)
        · rw [Int.cast_natCast, add_sub_cancel_left, abs_of_nonneg hnonneg, hhalf]
        · exact_mod_cast Nat.even_iff.mpr heven
      · rename_i hodd
        refine .of_distance ?_ (fun _ => ?_)
        · rw [hup, habs, hhalf]
          norm_num
        · exact_mod_cast Nat.even_iff.mpr (by omega)

namespace Decimal

theorem numerator_div_denominator (c : ℕ) (e : ℤ) :
    (numerator c e : ℚ)/denominator e = c*10^e := by
  rcases le_total 0 e with he | he
  · obtain ⟨n,rfl⟩ := Int.eq_ofNat_of_zero_le he
    simp [numerator, denominator]
  · obtain ⟨n,hn⟩ := Int.eq_ofNat_of_zero_le (Int.neg_nonneg.mpr he)
    obtain rfl : e = -n := by omega
    simp [numerator, denominator, div_eq_mul_inv]

theorem cast_signed (s : Bool) (n : ℕ) : (signed s n : ℚ) = if s then -(n : ℚ) else n := by
  cases s <;> simp [signed]

theorem value_ofCents (s : Bool) (q : ℕ) : (ofCents s q).value = some ((signed s q : ℚ)/100) := by
  simp only [ofCents, value, zpow_neg, div_eq_mul_inv]
  norm_num

theorem cast_signed_mul (s : Bool) (m n : ℕ) : (signed s (m*n) : ℚ) = signed s m*n := by
  cases s <;> simp [signed]

theorem cast_signed_div (s : Bool) (c : ℕ) (e : ℤ) :
    (signed s (numerator c e) : ℚ)/denominator e = signed s c*10^e := by
  rw [cast_signed, cast_signed]
  cases s with
  | false => simpa using numerator_div_denominator c e
  | true => simpa [neg_div] using numerator_div_denominator c e

/-- A number equals exactly the decimals that denote it. -/
theorem eq_iff_value {d d' : Decimal} {x : ℚ} (hx : d.value = some x) :
    d.eq d' = true ↔ d'.value = some x := by
  rcases d with ⟨s,c,e⟩ | s | _
  · rcases d' with ⟨s',c',e'⟩ | s' | _
    · have hpos : (denominator e : ℚ) ≠ 0 := Nat.cast_ne_zero.mpr (denominator_pos e).ne'
      have hpos' : (denominator e' : ℚ) ≠ 0 := Nat.cast_ne_zero.mpr (denominator_pos e').ne'
      obtain rfl := Option.some.inj hx
      simp only [eq, beq_iff_eq, value, Option.some.injEq]
      rw [← cast_signed_div s, ← cast_signed_div s', div_eq_div_iff hpos' hpos, ← cast_signed_mul,
        ← cast_signed_mul, ← Int.cast_inj (α := ℚ)]
      exact ⟨Eq.symm,Eq.symm⟩
    · simp [eq, value]
    · simp [eq, value]
  · cases hx
  · cases hx

/-- Rounding the magnitude of a decimal rounds the decimal. -/
theorem nearestEven_signed (s : Bool) (c : ℕ) (e : ℤ) :
    NearestEven (100*((signed s c : ℚ)*10^e))
      (signed s (roundHalfEven (100*numerator c e) (denominator e))) := by
  have hround := nearestEven_roundHalfEven (100*numerator c e) (denominator_pos e)
  have hvalue : ((100*numerator c e : ℕ) : ℚ)/denominator e = 100*(c*10^e) := by
    rw [← numerator_div_denominator, Nat.cast_mul, mul_div_assoc]
    norm_num
  rw [hvalue] at hround
  cases s with
  | false => simpa [signed] using hround
  | true => simpa [signed] using hround.neg

end Decimal

/-! ## Normalization -/

/-- An input is refused with the declared error, or is parsed as the number it denotes. -/
theorem parseMoney_cases (v : MoneyInput) :
    (∃ message, parseMoney v = .error (.moneyValidationError message)) ∧ v.value = none ∨
      ∃ s c e, parseMoney v = .ok (.finite s c e) ∧ v.value = some ((Decimal.signed s c : ℚ)*10^e) := by
  cases h : v.toDecimal with
  | error err =>
    left
    cases v with
    | str s =>
      simp only [MoneyInput.toDecimal] at h
      split at h
      · cases h
      · rename_i htext
        refine ⟨⟨"invalid money input: " ++ pyRepr s,?_⟩,?_⟩
        · simp only [parseMoney, MoneyInput.toDecimal, htext]
          rfl
        · simp only [MoneyInput.value, MoneyInput.toDecimal, htext]
    | int n => cases h
    | decimal d => cases h
  | ok d =>
    cases d with
    | finite s c e =>
      right
      refine ⟨s,c,e,?_,?_⟩
      · simp only [parseMoney, h, bind, Except.bind]
      · simp only [MoneyInput.value, h, Decimal.value]
    | infinity s =>
      left
      refine ⟨⟨"Infinity is not a valid money value",?_⟩,?_⟩
      · simp only [parseMoney, h, bind, Except.bind]
      · simp only [MoneyInput.value, h, Decimal.value]
    | nan =>
      left
      refine ⟨⟨"NaN is not a valid money value",?_⟩,?_⟩
      · simp only [parseMoney, h, bind, Except.bind]
      · simp only [MoneyInput.value, h, Decimal.value]

/-- The rounded coefficient has at most 28 digits exactly below the midpoint before `10^28`. -/
theorem Decimal.coefficient_lt_iff (s : Bool) (c : ℕ) (e : ℤ) :
    roundHalfEven (100*numerator c e) (denominator e) < coefficientLimit ↔
      100*|(signed s c : ℚ)*10^e| < 10^28-1/2 := by
  have hround := nearestEven_signed false c e
  have hpower : (0 : ℚ) < 10^e := zpow_pos (by norm_num) e
  have hmagnitude : |(signed s c : ℚ)*10^e| = c*10^e := by
    rw [abs_mul, cast_signed, abs_of_pos hpower]
    cases s <;> simp
  have hlimit : Even (coefficientLimit : ℤ) := by decide
  have hcast : (((coefficientLimit : ℕ) : ℤ) : ℚ) = 10^28 := by norm_num [coefficientLimit]
  have hiff := hround.lt_iff hlimit
  rw [hcast] at hiff
  rw [hmagnitude]
  simpa [signed] using hiff

/-- A returned amount is the input rounded to the nearest hundredth. -/
theorem normalizeMoney_nearest {v : MoneyInput} {d : Decimal} (h : normalizeMoney v = .ok d) :
    ∃ (x : ℚ) (q : ℤ), v.value = some x ∧ d.value = some ((q : ℚ)/100) ∧ NearestEven (100*x) q := by
  simp only [normalizeMoney, bind, Except.bind] at h
  rcases parseMoney_cases v with ⟨⟨message,hp⟩,-⟩ | ⟨s,c,e,hp,hvalue⟩
  · rw [hp] at h
    cases h
  · rw [hp] at h
    obtain ⟨-,rfl⟩ := Decimal.quantize_finite.mp h
    exact ⟨_,_,hvalue,Decimal.value_ofCents ..,Decimal.nearestEven_signed s c e⟩

/-- What a call of `normalize_money` is to end in: the declared error, or the multiple of
one hundredth nearest to the input. -/
def MoneyInput.Normalizes (v : MoneyInput) : Prop :=
  match normalizeMoney v with
  | .error e => ∃ message, e = .moneyValidationError message
  | .ok d => ∃ (x : ℚ) (q : ℤ), v.value = some x ∧ d.value = some ((q : ℚ)/100) ∧ NearestEven (100*x) q

/-- What holds of a returned amount. -/
structure CanonicalMoney (v : MoneyInput) (d : Decimal) : Prop where
  idempotent : normalizeMoney (.decimal d) = .ok d
  monotone : ∀ v' d' x x', v.value = some x → v'.value = some x' → normalizeMoney v' = .ok d' →
    x ≤ x' → ∃ y y', d.value = some y ∧ d'.value = some y' ∧ y ≤ y'
  stored : ∃ text, moneyToStorageString (.decimal d) = .ok text ∧ parseMoney (.str text) = .ok d

theorem canonicalMoney {v : MoneyInput} {d : Decimal} (h : normalizeMoney v = .ok d) :
    CanonicalMoney v d := by
  have hidempotent := normalizeMoney_normalized h
  refine ⟨hidempotent,?_,?_⟩
  · intro v' d' x x' hx hx' h' hle
    obtain ⟨y,q,hy,hd,hq⟩ := normalizeMoney_nearest h
    obtain ⟨y',q',hy',hd',hq'⟩ := normalizeMoney_nearest h'
    obtain rfl : y = x := Option.some.inj (hy.symm.trans hx)
    obtain rfl : y' = x' := Option.some.inj (hy'.symm.trans hx')
    have hround : q ≤ q' := hq.mono hq' (by linarith)
    refine ⟨_,_,hd,hd',?_⟩
    have hcast : (q : ℚ) ≤ q' := by exact_mod_cast hround
    linarith
  · obtain ⟨s,q,hq,rfl⟩ := normalizeMoney_eq_ok h
    refine ⟨_,by rw [moneyToStorageString, hidempotent]; rfl,?_⟩
    simp only [parseMoney, MoneyInput.toDecimal, Decimal.ofText_formatF hq, bind, Except.bind]
    rfl

/-- `normalize_money` ends as declared exactly on the inputs that are no number or round to
at most 28 digits; beyond them `quantize` raises `InvalidOperation`. -/
theorem normalizeMoney_total_iff (v : MoneyInput) :
    (v.Normalizes ∧ ∀ d, normalizeMoney v = .ok d → CanonicalMoney v d) ↔
      ∀ x, v.value = some x → 100*|x| < 10^28-1/2 := by
  constructor
  · rintro ⟨hends,-⟩ x hx
    rcases parseMoney_cases v with ⟨-,hnone⟩ | ⟨s,c,e,hp,hvalue⟩
    · rw [hnone] at hx
      cases hx
    · obtain rfl := Option.some.inj (hvalue.symm.trans hx)
      by_contra hlarge
      have hfails : normalizeMoney v = .error .invalidOperation := by
        simp only [normalizeMoney, hp, bind, Except.bind, Decimal.quantize,
          Decimal.coefficient_lt_iff s, hlarge, if_false]
      rw [MoneyInput.Normalizes, hfails] at hends
      obtain ⟨message,hmessage⟩ := hends
      cases hmessage
  · intro hsmall
    refine ⟨?_,fun d => canonicalMoney⟩
    rw [MoneyInput.Normalizes]
    rcases parseMoney_cases v with ⟨⟨message,hp⟩,-⟩ | ⟨s,c,e,hp,hvalue⟩
    · have hrefused : normalizeMoney v = .error (.moneyValidationError message) := by
        simp only [normalizeMoney, hp, bind, Except.bind]
      rw [hrefused]
      exact ⟨message,rfl⟩
    · have hreturns : normalizeMoney v = .ok (.ofCents s
          (roundHalfEven (100*Decimal.numerator c e) (Decimal.denominator e))) := by
        simp only [normalizeMoney, hp, bind, Except.bind]
        exact Decimal.quantize_finite.mpr ⟨(Decimal.coefficient_lt_iff s c e).mpr (hsmall _ hvalue),rfl⟩
      rw [hreturns]
      exact normalizeMoney_nearest hreturns

/-- A one with 26 zeros is refused with `InvalidOperation`, which is no `ValueError`. -/
theorem normalizeMoney_overflow : normalizeMoney (.int (10^26)) = .error .invalidOperation ∧
    ¬MoneyInput.Normalizes (.int (10^26)) := by
  have hfails : normalizeMoney (.int (10^26)) = .error .invalidOperation := by decide +kernel
  refine ⟨hfails,fun hends => ?_⟩
  rw [MoneyInput.Normalizes, hfails] at hends
  obtain ⟨message,hmessage⟩ := hends
  cases hmessage

end StreamingCompass
