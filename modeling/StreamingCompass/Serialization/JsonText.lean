import Mathlib.Data.Nat.Log
import StreamingCompass.Serialization.Detachment

/-! # Numbers between Python and jsonb

`repr` of a float, the exact decimal `jsonb` keeps for a number token, the token it prints
without exponent, and the number `json.loads` reads from that. A float of at least 10^16 is
printed as an integer; every other one comes back.
-/
namespace StreamingCompass.Serialization

/-- A number token: its digits, of which the last `fraction` follow the point, and its exponent. -/
structure JsonNumber where
  negative : Bool
  digits : ℕ
  fraction : ℕ
  exponent : Option ℤ
deriving DecidableEq, Repr

def width (n : ℕ) : ℕ := Nat.log 10 n+1

/-- Where the point stands in the digits. -/
def Decimal.point (x : Decimal) : ℤ := width x.digits+x.exponent

/-- `repr(x)`: positional for points from -3 to 16, with an exponent otherwise. -/
def Decimal.token (x : Decimal) : JsonNumber :=
  if -4 < x.point ∧ x.point ≤ 16 then
    if 0 ≤ x.exponent then ⟨x.negative,x.digits*10^(x.exponent.toNat+1),1,none⟩
    else ⟨x.negative,x.digits,(-x.exponent).toNat,none⟩
  else ⟨x.negative,x.digits,width x.digits-1,some (x.point-1)⟩

/-- A `numeric`: digits and scale. -/
structure JsonNumeric where
  negative : Bool
  digits : ℕ
  scale : ℕ
deriving DecidableEq, Repr

/-- The value of a token, with as many fraction digits as the token has after its exponent is
applied; there is no negative zero. -/
def JsonNumeric.ofToken (t : JsonNumber) : JsonNumeric :=
  let shift := t.exponent.getD 0-t.fraction
  let negative := t.negative && t.digits != 0
  if 0 ≤ shift then ⟨negative,t.digits*10^shift.toNat,0⟩ else ⟨negative,t.digits,(-shift).toNat⟩

/-- The token a `numeric` is printed as. -/
def JsonNumeric.token (n : JsonNumeric) : JsonNumber := ⟨n.negative,n.digits,n.scale,none⟩

/-- The zeros at the end of the digits, moved to the exponent. -/
def stripZeros : ℕ → ℕ → ℤ → ℕ × ℤ
  | 0, digits, exponent => (digits,exponent)
  | fuel+1, digits, exponent =>
    if digits % 10 = 0 then stripZeros fuel (digits/10) (exponent+1) else (digits,exponent)

theorem stripZeros_normal {fuel digits : ℕ} {exponent : ℤ} (hne : digits ≠ 0)
    (h : digits ≤ fuel) : (stripZeros fuel digits exponent).1 % 10 ≠ 0 := by
  induction fuel generalizing digits exponent with
  | zero => exact (hne (Nat.le_zero.mp h)).elim
  | succ fuel ih =>
    unfold stripZeros
    split
    · exact ih (by omega) (by omega)
    · assumption

/-- The float nearest to a decimal; the decimals that are read back are those of floats. -/
def Decimal.ofScaled (negative : Bool) (digits : ℕ) (exponent : ℤ) : Decimal :=
  if h : digits = 0 then ⟨negative,0,0,.inr ⟨rfl,rfl⟩⟩
  else
    let stripped := stripZeros digits digits exponent
    ⟨negative,stripped.1,stripped.2,.inl (stripZeros_normal h (le_refl _))⟩

/-- The number `json.loads` reads from a token: an `int` without fraction and exponent. -/
def JsonNumber.value (t : JsonNumber) : PyValue :=
  if t.fraction = 0 ∧ t.exponent = none then
    .int ⟨if t.negative then -(t.digits : ℤ) else t.digits,true⟩
  else .float (.finite (.ofScaled t.negative t.digits (t.exponent.getD 0-t.fraction))) true

def PyInt.token (n : PyInt) : JsonNumber := ⟨decide (n.value < 0),n.value.natAbs,0,none⟩

/-! ## What comes back -/

theorem stripZeros_scaled {fuel digits k : ℕ} {exponent : ℤ} (hn : digits % 10 ≠ 0)
    (h : k ≤ fuel) : stripZeros fuel (digits*10^k) exponent = (digits,exponent+k) := by
  induction k generalizing fuel exponent with
  | zero =>
    cases fuel with
    | zero => simp [stripZeros]
    | succ fuel => simp [stripZeros, hn]
  | succ k ih =>
    obtain ⟨fuel,rfl⟩ : ∃ f, fuel = f+1 := ⟨fuel-1,by omega⟩
    have hzero : digits*10^(k+1) % 10 = 0 := by
      rw [pow_succ, ← Nat.mul_assoc]
      exact Nat.mul_mod_left _ _
    have hdiv : digits*10^(k+1)/10 = digits*10^k := by
      rw [pow_succ, ← Nat.mul_assoc]
      exact Nat.mul_div_cancel _ (by decide)
    rw [stripZeros, if_pos hzero, hdiv, ih (by omega)]
    push_cast
    rw [show exponent+1+(k : ℤ) = exponent+((k : ℤ)+1) by ring]

/-- Zeros at the end do not change the float. -/
theorem Decimal.eq_ofScaled (x : Decimal) (k : ℕ) :
    (PyFloat.finite (.ofScaled (x.negative && x.digits*10^k != 0) (x.digits*10^k)
      (x.exponent-k))).eq (.finite x) = true := by
  rcases x.normal with hn | ⟨hd,he⟩
  · have hne : x.digits*10^k ≠ 0 := by
      have : x.digits ≠ 0 := by omega
      positivity
    have hk : k ≤ x.digits*10^k := by
      calc k ≤ 10^k := (Nat.lt_pow_self (by decide)).le
        _ ≤ x.digits*10^k := Nat.le_mul_of_pos_left _ (by omega)
    simp [PyFloat.eq, ofScaled, hne, stripZeros_scaled hn hk]
  · simp [PyFloat.eq, ofScaled, hd, he]

theorem width_mul (n k : ℕ) (hn : n ≠ 0) : width (n*10^k) = width n+k := by
  induction k with
  | zero => simp
  | succ k ih =>
    have hne : n*10^k ≠ 0 := by positivity
    have hlog := Nat.log_mul_base (b := 10) (by decide) hne
    rw [pow_succ, ← Nat.mul_assoc]
    simp only [width] at ih ⊢
    omega

/-- The float is an integer of at least 10^16. -/
def Decimal.Large (x : Decimal) : Prop := 0 ≤ x.exponent ∧ 10^16 ≤ x.digits*10^x.exponent.toNat

instance (x : Decimal) : Decidable x.Large := inferInstanceAs (Decidable (_ ∧ _))

theorem Decimal.large_iff (x : Decimal) : x.Large ↔ 0 ≤ x.exponent ∧ 16 < x.point := by
  refine and_congr_right (fun he => ?_)
  by_cases hd : x.digits = 0
  · have hexponent : x.exponent = 0 := by
      rcases x.normal with hn | ⟨-,he⟩
      · simp [hd] at hn
      · exact he
    simp [point, width, hd, hexponent]
  · have hne : x.digits*10^x.exponent.toNat ≠ 0 := by positivity
    have hwidth := width_mul x.digits x.exponent.toNat hd
    rw [← Nat.le_log_iff_pow_le (by decide) hne]
    simp only [width, point] at hwidth ⊢
    omega

def Decimal.reloaded (x : Decimal) : PyValue := (JsonNumeric.ofToken x.token).token.value

section OfToken
variable {negative : Bool} {digits fraction : ℕ} {exponent : Option ℤ}

theorem JsonNumeric.ofToken_nonneg (h : 0 ≤ exponent.getD 0-fraction) :
    ofToken ⟨negative,digits,fraction,exponent⟩ =
      ⟨negative && digits != 0,digits*10^(exponent.getD 0-fraction).toNat,0⟩ := by
  rw [ofToken, if_pos h]

theorem JsonNumeric.ofToken_neg (h : exponent.getD 0-fraction < 0) :
    ofToken ⟨negative,digits,fraction,exponent⟩ =
      ⟨negative && digits != 0,digits,(-(exponent.getD 0-fraction)).toNat⟩ := by
  rw [ofToken, if_neg (not_le.mpr h)]

end OfToken

/-- A large float comes back as an integer. -/
theorem Decimal.reloaded_large {x : Decimal} (h : x.Large) : ∃ n, x.reloaded = .int ⟨n,true⟩ := by
  obtain ⟨he,hp⟩ := x.large_iff.mp h
  have hw : 1 ≤ width x.digits := Nat.le_add_left 1 _
  have htoken : x.token = ⟨x.negative,x.digits,width x.digits-1,some (x.point-1)⟩ :=
    if_neg (by omega)
  have hshift : 0 ≤ x.point-1-((width x.digits-1 : ℕ) : ℤ) := by
    simp only [point]
    omega
  rw [reloaded, htoken, JsonNumeric.ofToken_nonneg (by exact hshift)]
  exact ⟨_,rfl⟩

/-- The `numeric` of any other float keeps a fraction digit. -/
theorem Decimal.numeric_small {x : Decimal} (h : ¬x.Large) :
    ∃ k scale : ℕ, scale ≠ 0 ∧ -(scale : ℤ) = x.exponent-k ∧
      JsonNumeric.ofToken x.token =
        ⟨x.negative && x.digits*10^k != 0,x.digits*10^k,scale⟩ := by
  rw [large_iff, not_and] at h
  have hw : 1 ≤ width x.digits := Nat.le_add_left 1 _
  by_cases hfixed : -4 < x.point ∧ x.point ≤ 16
  · by_cases he : 0 ≤ x.exponent
    · have htoken : x.token = ⟨x.negative,x.digits*10^(x.exponent.toNat+1),1,none⟩ := by
        rw [token, if_pos hfixed, if_pos he]
      refine ⟨x.exponent.toNat+1,1,one_ne_zero,by omega,?_⟩
      rw [htoken, JsonNumeric.ofToken_neg (by simp)]
      rfl
    · have htoken : x.token = ⟨x.negative,x.digits,(-x.exponent).toNat,none⟩ := by
        rw [token, if_pos hfixed, if_neg he]
      have hshift : (0 : ℤ)-((-x.exponent).toNat : ℕ) < 0 := by omega
      refine ⟨0,(-x.exponent).toNat,by omega,by omega,?_⟩
      rw [htoken, JsonNumeric.ofToken_neg (by exact hshift), pow_zero, Nat.mul_one]
      simp only [Option.getD_none, JsonNumeric.mk.injEq, true_and]
      omega
  · have htoken : x.token = ⟨x.negative,x.digits,width x.digits-1,some (x.point-1)⟩ :=
      if_neg hfixed
    have hshift : x.point-1-((width x.digits-1 : ℕ) : ℤ) < 0 := by
      simp only [point] at h hfixed ⊢
      omega
    refine ⟨0,(-(x.point-1-((width x.digits-1 : ℕ) : ℤ))).toNat,by omega,?_,?_⟩
    · simp only [point] at hshift ⊢
      omega
    · rw [htoken, JsonNumeric.ofToken_neg (by exact hshift), pow_zero, Nat.mul_one]
      rfl

theorem Decimal.reloaded_small {x : Decimal} (h : ¬x.Large) :
    ∃ y, x.reloaded = .float (.finite y) true ∧ (PyFloat.finite y).eq (.finite x) = true := by
  obtain ⟨k,scale,hscale,hexponent,hnumeric⟩ := numeric_small h
  refine ⟨_,?_,x.eq_ofScaled k⟩
  rw [reloaded, hnumeric, JsonNumeric.token, JsonNumber.value, if_neg (fun h => hscale h.1),
    ← hexponent]
  simp

theorem PyInt.reloaded (n : PyInt) :
    (JsonNumeric.ofToken n.token).token.value = .int ⟨n.value,true⟩ := by
  rw [token, JsonNumeric.ofToken_nonneg (by simp)]
  simp only [JsonNumeric.token, JsonNumber.value, Option.getD_none]
  by_cases hn : n.value < 0
  · simp [hn, abs_of_neg]
    omega
  · simp [hn]
    omega

end StreamingCompass.Serialization
