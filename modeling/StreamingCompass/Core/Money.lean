import StreamingCompass.Core.Printable
import StreamingCompass.Core.Python
import Mathlib.Data.Nat.Basic
import Mathlib.Tactic.IntervalCases
import Mathlib.Tactic.Ring

/-! # Money

`decimal.Decimal` with the operations the money helpers use, under the default
context (precision 28), and the helpers of `core/common/money.py`. A finite
decimal is its sign, coefficient and exponent, so `-0.00` and `0.00` differ as
objects and compare equal.
-/
namespace StreamingCompass

inductive Decimal where
  | finite (negative : Bool) (coefficient : ℕ) (exponent : ℤ)
  | infinity (negative : Bool)
  | nan
deriving DecidableEq, Repr

/-- The nearest natural to `n / d`, a tie going to the even one. -/
def roundHalfEven (n d : ℕ) : ℕ :=
  if 2*(n % d) < d then n/d
  else if d < 2*(n % d) then n/d+1
  else if n/d % 2 = 0 then n/d else n/d+1

namespace Decimal

/-- `0.00` -/
def zero : Decimal := .finite false 0 (-2)

/-- A magnitude is `numerator / denominator`. -/
def numerator (coefficient : ℕ) (exponent : ℤ) : ℕ := coefficient*10^exponent.toNat
def denominator (exponent : ℤ) : ℕ := 10^(-exponent).toNat

def signed (negative : Bool) (n : ℕ) : ℤ := if negative then -n else n

/-- `a == b`: numeric, and false as soon as one side is NaN. -/
def eq : Decimal → Decimal → Bool
  | .finite s c e, .finite s' c' e' =>
    signed s (numerator c e*denominator e') == signed s' (numerator c' e'*denominator e)
  | .infinity s, .infinity s' => s == s'
  | _, _ => false

/-- `a <= b`; comparing with NaN raises. -/
def le : Decimal → Decimal → Except PyException Bool
  | .finite s c e, .finite s' c' e' =>
    .ok (decide (signed s (numerator c e*denominator e') ≤ signed s' (numerator c' e'*denominator e)))
  | .infinity s, .infinity s' => .ok (s || !s')
  | .infinity s, .finite _ _ _ => .ok s
  | .finite _ _ _, .infinity s => .ok !s
  | _, _ => .error .invalidOperation

/-- Coefficients stay below it: 28 digits of precision. -/
def coefficientLimit : ℕ := 10^28

/-- `d.quantize(Decimal("0.01"), rounding=ROUND_HALF_EVEN)` -/
def quantize : Decimal → Except PyException Decimal
  | .finite s c e =>
    let q := roundHalfEven (100*numerator c e) (denominator e)
    if q < coefficientLimit then .ok (.finite s q (-2)) else .error .invalidOperation
  | .infinity _ => .error .invalidOperation
  | .nan => .ok .nan

/-- The digits around a decimal point at `point`, counted from the left. -/
def layout (digits : List Char) (point : ℤ) : List Char :=
  if point ≤ 0 then '0' :: '.' :: (List.replicate (-point).toNat '0' ++ digits)
  else if digits.length ≤ point then digits ++ List.replicate (point-digits.length).toNat '0'
  else digits.take point.toNat ++ '.' :: digits.drop point.toNat

def signText (negative : Bool) : List Char := if negative then ['-'] else []

/-- `format(d, "f")` -/
def formatF : Decimal → String
  | .finite s c e =>
    let digits := Nat.toDigits 10 (if 0 < e then numerator c e else c)
    String.ofList (signText s ++ layout digits (digits.length+min e 0))
  | .infinity s => String.ofList (signText s ++ "Infinity".toList)
  | .nan => "NaN"

/-- `str(d)` -/
def str : Decimal → String
  | .finite s c e =>
    let digits := Nat.toDigits 10 c
    let left : ℤ := e+digits.length
    let point : ℤ := if e ≤ 0 ∧ -6 < left then left else 1
    let exponent := if left = point then "" else
      "E" ++ (if 0 ≤ left-point then "+" else "-") ++ toString (left-point).natAbs
    String.ofList (signText s ++ layout digits point) ++ exponent
  | .infinity s => String.ofList (signText s ++ "Infinity".toList)
  | .nan => "NaN"

/-- The bounds within which the constructor can represent a number exactly. -/
def maxExponent : ℤ := 999999999999999999
def minExponent : ℤ := -1999999999999999997

def representable (coefficient : ℕ) (exponent : ℤ) : Bool :=
  decide (minExponent ≤ exponent) && decide (exponent ≤ maxExponent) &&
    (coefficient == 0 ||
      decide (exponent+((Nat.toDigits 10 coefficient).length : ℤ)-1 ≤ maxExponent))

/-- The code points of the digit zero of each script; the nine that follow are its digits. -/
def zeroDigits : List ℕ :=
  [0x30, 0x660, 0x6f0, 0x7c0, 0x966, 0x9e6, 0xa66, 0xae6, 0xb66, 0xbe6, 0xc66, 0xce6, 0xd66, 0xde6,
   0xe50, 0xed0, 0xf20, 0x1040, 0x1090, 0x17e0, 0x1810, 0x1946, 0x19d0, 0x1a80, 0x1a90, 0x1b50,
   0x1bb0, 0x1c40, 0x1c50, 0xa620, 0xa8d0, 0xa900, 0xa9d0, 0xa9f0, 0xaa50, 0xabf0, 0xff10, 0x104a0,
   0x10d30, 0x11066, 0x110f0, 0x11136, 0x111d0, 0x112f0, 0x11450, 0x114d0, 0x11650, 0x116c0,
   0x11730, 0x118e0, 0x11950, 0x11c50, 0x11d50, 0x11da0, 0x11f50, 0x16a60, 0x16ac0, 0x16b50,
   0x1d7ce, 0x1d7d8, 0x1d7e2, 0x1d7ec, 0x1d7f6, 0x1e140, 0x1e2f0, 0x1e4f0, 0x1e950, 0x1fbf0]

/-- The ASCII digit of a Unicode decimal digit; other characters stay. -/
def asciiDigit (c : Char) : Char :=
  match zeroDigits.find? (fun z => decide (z ≤ c.toNat) && decide (c.toNat < z+10)) with
  | some z => Nat.digitChar (c.toNat-z)
  | none => c

def scanSign : List Char → Bool × List Char
  | '-' :: cs => (true,cs)
  | '+' :: cs => (false,cs)
  | cs => (false,cs)

def scanExponent : List Char → Option ℤ
  | [] => some 0
  | c :: cs =>
    let (negative,digits) := scanSign cs
    if (c == 'e' || c == 'E') && !digits.isEmpty && digits.all Char.isDigit then
      some (signed negative (Nat.ofDigitChars 10 digits 0))
    else none

def scanFinite (negative : Bool) (cs : List Char) : Option Decimal :=
  let whole := cs.takeWhile Char.isDigit
  let (fraction,rest) := match cs.dropWhile Char.isDigit with
    | '.' :: r => (r.takeWhile Char.isDigit,r.dropWhile Char.isDigit)
    | r => ([],r)
  if whole.isEmpty && fraction.isEmpty then none
  else (scanExponent rest).bind (fun e =>
    let coefficient := Nat.ofDigitChars 10 (whole ++ fraction) 0
    let exponent := e-fraction.length
    if representable coefficient exponent then some (.finite negative coefficient exponent)
    else none)

/-- `Decimal(text)` for stripped text; `none` is `InvalidOperation`. -/
def ofText (text : List Char) : Option Decimal :=
  let cs := (text.filter (fun c => c != '_')).map asciiDigit
  let (negative,body) := scanSign cs
  let lower := body.map Char.toLower
  if lower = "inf".toList ∨ lower = "infinity".toList then some (.infinity negative)
  else
    let payload := if "snan".toList.isPrefixOf lower then lower.drop 4
      else if "nan".toList.isPrefixOf lower then lower.drop 3 else ['-']
    if payload.all Char.isDigit then some .nan else scanFinite negative body

end Decimal

/-- `MoneyInput` without the floats, which no caller of the modelled code passes. -/
inductive MoneyInput where
  | str (value : String)
  | int (value : ℤ)
  | decimal (value : Decimal)
deriving DecidableEq, Repr

/-- The last `width` hexadecimal digits of a number. -/
def hexDigits (width n : ℕ) : List Char :=
  (List.range width).map (fun i => Nat.digitChar (n/16^(width-1-i) % 16))

/-- `repr` of a string. -/
def pyRepr (s : String) : String :=
  let quote := if '\'' ∈ s.toList ∧ '"' ∉ s.toList then '"' else '\''
  let escape := fun c : Char =>
    if c = quote ∨ c = '\\' then ['\\',c]
    else if c = '\n' then ['\\','n'] else if c = '\r' then ['\\','r']
    else if c = '\t' then ['\\','t']
    else if isPrintable c then [c]
    else if c.toNat < 0x100 then '\\' :: 'x' :: hexDigits 2 c.toNat
    else if c.toNat < 0x10000 then '\\' :: 'u' :: hexDigits 4 c.toNat
    else '\\' :: 'U' :: hexDigits 8 c.toNat
  String.ofList (quote :: (s.toList.flatMap escape ++ [quote]))

/-- `Decimal(value)` -/
def MoneyInput.toDecimal : MoneyInput → Except PyException Decimal
  | .decimal d => .ok d
  | .int n => .ok (.finite (decide (n < 0)) n.natAbs 0)
  | .str s => match Decimal.ofText (strip s) with
    | some d => .ok d
    | none => .error (.moneyValidationError ("invalid money input: " ++ pyRepr s))

def parseMoney (value : MoneyInput) : Except PyException Decimal := do
  match ← value.toDecimal with
  | .nan => .error (.moneyValidationError "NaN is not a valid money value")
  | .infinity _ => .error (.moneyValidationError "Infinity is not a valid money value")
  | .finite s c e => .ok (.finite s c e)

def normalizeMoney (value : MoneyInput) : Except PyException Decimal := do
  let amount ← parseMoney value
  amount.quantize

def ensurePositiveMoney (value : MoneyInput) : Except PyException Decimal := do
  let amount ← normalizeMoney value
  if ← amount.le .zero then .error (.moneyValidationError "money amount must be positive")
  else .ok amount

def moneyToStorageString (value : MoneyInput) : Except PyException String := do
  let amount ← normalizeMoney value
  .ok amount.formatF

theorem roundHalfEven_scale (n d : ℕ) {k : ℕ} (hk : 0 < k) :
    roundHalfEven (n*k) (d*k) = roundHalfEven n d := by
  have hq : n*k/(d*k) = n/d := Nat.mul_div_mul_right n d hk
  have hr : 2*(n*k % (d*k)) = 2*(n % d)*k := by rw [Nat.mul_mod_mul_right]; ring
  simp only [roundHalfEven, hq, hr, Nat.mul_lt_mul_right hk]

theorem roundHalfEven_congr {n d n' d' : ℕ} (hd : 0 < d) (hd' : 0 < d') (h : n*d' = n'*d) :
    roundHalfEven n d = roundHalfEven n' d' :=
  calc roundHalfEven n d = roundHalfEven (n*d') (d*d') := (roundHalfEven_scale n d hd').symm
    _ = roundHalfEven (n'*d) (d'*d) := by rw [h, Nat.mul_comm d d']
    _ = roundHalfEven n' d' := roundHalfEven_scale n' d' hd

theorem roundHalfEven_mul_self (q : ℕ) {d : ℕ} (hd : 0 < d) : roundHalfEven (d*q) d = q := by
  simp [roundHalfEven, hd]

namespace Decimal

/-- The canonical decimal with two places of a number of cents. -/
def ofCents (negative : Bool) (q : ℕ) : Decimal := .finite negative q (-2)

theorem denominator_pos (e : ℤ) : 0 < denominator e := Nat.pow_pos (by decide)

theorem quantize_finite {s : Bool} {c : ℕ} {e : ℤ} {d : Decimal} :
    (finite s c e).quantize = .ok d ↔
      roundHalfEven (100*numerator c e) (denominator e) < coefficientLimit ∧
        d = ofCents s (roundHalfEven (100*numerator c e) (denominator e)) := by
  simp only [quantize, ofCents]
  split
  · rename_i h
    simp only [Except.ok.injEq, h, true_and]
    exact eq_comm
  · rename_i h
    simp only [h, false_and, reduceCtorEq]

theorem roundHalfEven_cents (q : ℕ) : roundHalfEven (100*numerator q (-2)) (denominator (-2)) = q := by
  have hscale : 100*numerator q (-2) = denominator (-2)*q := by simp [numerator, denominator]
  rw [hscale, roundHalfEven_mul_self q (denominator_pos _)]

@[simp] theorem quantize_ofCents {s : Bool} {q : ℕ} (h : q < coefficientLimit) :
    (ofCents s q).quantize = .ok (ofCents s q) :=
  quantize_finite.mpr (by rw [roundHalfEven_cents]; exact ⟨h,rfl⟩)

/-- Numerically equal decimals quantize to the same positive amount. -/
theorem quantize_of_eq {d d' : Decimal} {q : ℕ} (he : d.eq d' = true)
    (hq : d.quantize = .ok (ofCents false q)) (hpos : 0 < q) :
    d'.quantize = .ok (ofCents false q) := by
  rcases d with ⟨s,c,e⟩ | s | _
  · rcases d' with ⟨s',c',e'⟩ | s' | _
    · simp only [eq, beq_iff_eq] at he
      rw [quantize_finite] at hq ⊢
      obtain ⟨hlt,hq⟩ := hq
      simp only [ofCents, finite.injEq, and_true] at hq
      obtain ⟨rfl,rfl⟩ := hq
      have hc : 0 < numerator c e := by
        rcases Nat.eq_zero_or_pos (numerator c e) with h0 | h0
        · simp [h0, roundHalfEven] at hpos
        · exact h0
      have hprod : 0 < numerator c e*denominator e' := Nat.mul_pos hc (denominator_pos e')
      cases s' with
      | true =>
        simp only [signed] at he
        simp only [Bool.false_eq_true, if_false, if_true] at he
        omega
      | false =>
        simp only [signed, Bool.false_eq_true, if_false] at he
        have hn : 100*numerator c e*denominator e' = 100*numerator c' e'*denominator e := by
          rw [Nat.mul_assoc, Nat.mul_assoc]
          congr 1
          exact_mod_cast he
        have := roundHalfEven_congr (denominator_pos e) (denominator_pos e') hn
        rw [← this]
        exact ⟨hlt,rfl⟩
    · simp [eq] at he
    · simp [eq] at he
  · simp [quantize] at hq
  · simp [quantize, ofCents] at hq

theorem mem_layout {digits : List Char} {point : ℤ} {c : Char} (h : c ∈ layout digits point) :
    c ∈ digits ∨ c = '0' ∨ c = '.' := by
  unfold layout at h
  split at h
  · simp only [List.mem_cons, List.mem_append, List.mem_replicate] at h
    tauto
  · split at h
    · simp only [List.mem_append, List.mem_replicate] at h
      tauto
    · simp only [List.mem_append, List.mem_cons] at h
      rcases h with h | h | h
      · exact .inl (List.mem_of_mem_take h)
      · exact .inr (.inr h)
      · exact .inl (List.mem_of_mem_drop h)

theorem ofDigitChars_layout {digits : List Char} {point : ℤ}
    (hd : ∀ c ∈ digits, c.isDigit = true) (hp : point ≤ digits.length) :
    Nat.ofDigitChars 10 ((layout digits point).filter Char.isDigit) 0 =
      Nat.ofDigitChars 10 digits 0 := by
  have hf : digits.filter Char.isDigit = digits := List.filter_eq_self.mpr hd
  have hz (n : ℕ) : (List.replicate n '0').filter Char.isDigit = List.replicate n '0' :=
    List.filter_eq_self.mpr (by simp)
  have h0 : Char.isDigit '0' = true := by decide
  have hdot : Char.isDigit '.' = false := by decide
  unfold layout
  split
  · simp [h0, hdot, hf, hz, Nat.ofDigitChars_cons, Nat.ofDigitChars_append]
  · split
    · have : point = digits.length := by omega
      simp [this, hf]
    · rw [List.filter_append, List.filter_cons_of_neg (by simp [hdot]), ← List.filter_append,
        List.take_append_drop, hf]

theorem toList_formatF_ofCents (s : Bool) (q : ℕ) :
    (ofCents s q).formatF.toList = signText s ++
      layout (Nat.toDigits 10 q) ((Nat.toDigits 10 q).length-2) := by
  simp only [ofCents, formatF, String.toList_ofList]
  rfl

theorem mem_signText {s : Bool} {c : Char} (h : c ∈ signText s) : c = '-' := by
  cases s <;> simp_all [signText]

/-- The text of a canonical amount determines the amount. -/
theorem formatF_ofCents_injective {s s' : Bool} {q q' : ℕ}
    (h : (ofCents s q).formatF = (ofCents s' q').formatF) : s = s' ∧ q = q' := by
  have hval (s : Bool) (q : ℕ) :
      Nat.ofDigitChars 10 ((ofCents s q).formatF.toList.filter Char.isDigit) 0 = q := by
    have hs : (signText s).filter Char.isDigit = [] := by cases s <;> decide
    rw [toList_formatF_ofCents, List.filter_append, hs, List.nil_append,
      ofDigitChars_layout (fun c hc => Nat.isDigit_of_mem_toDigits (by decide) (by decide) hc)
        (by omega), Nat.ofDigitChars_ten_toDigits]
  have hq : q = q' := by rw [← hval s q, h, hval]
  subst hq
  have hl := congrArg String.toList h
  rw [toList_formatF_ofCents, toList_formatF_ofCents] at hl
  have hs := List.append_cancel_right hl
  refine ⟨?_,rfl⟩
  cases s <;> cases s' <;> first | rfl | cases hs

theorem isDigit_cases {c : Char} (h : c.isDigit = true) : ∃ d < 10, c = Nat.digitChar d := by
  have hb : 48 ≤ c.toNat ∧ c.toNat ≤ 57 := by
    simpa [Char.isDigit, Char.le_def, UInt32.le_iff_toNat_le] using h
  have hc : c = Char.ofNat c.toNat := (Char.ofNat_toNat c).symm
  refine ⟨c.toNat-48,by omega,?_⟩
  obtain ⟨h1,h2⟩ := hb
  interval_cases hn : c.toNat <;> exact hc

theorem asciiDigit_of_isDigit {c : Char} (h : c.isDigit = true) : asciiDigit c = c := by
  obtain ⟨d,hd,rfl⟩ := isDigit_cases h
  interval_cases d <;> decide

/-- The text of a canonical amount: digits, a point and two digits. -/
theorem layout_split (q : ℕ) : ∃ whole fraction : List Char,
    layout (Nat.toDigits 10 q) ((Nat.toDigits 10 q).length-2) = whole ++ '.' :: fraction ∧
      whole ≠ [] ∧ fraction.length = 2 ∧ (∀ c ∈ whole ++ fraction, c.isDigit = true) ∧
      Nat.ofDigitChars 10 (whole ++ fraction) 0 = q := by
  have hdig : ∀ c ∈ Nat.toDigits 10 q, c.isDigit = true := fun c hc =>
    Nat.isDigit_of_mem_toDigits (by decide) (by decide) hc
  have hval := Nat.ofDigitChars_ten_toDigits (n := q)
  generalize Nat.toDigits 10 q = digits at hdig hval ⊢
  by_cases hp : (digits.length : ℤ)-2 ≤ 0
  · refine ⟨['0'],List.replicate (-((digits.length : ℤ)-2)).toNat '0' ++ digits,?_,by simp,?_,?_,?_⟩
    · simp [layout, hp]
    · simp only [List.length_append, List.length_replicate]
      omega
    · intro c hc
      simp only [List.mem_append, List.mem_singleton, List.mem_replicate] at hc
      rcases hc with rfl | ⟨-,rfl⟩ | hc
      · decide
      · decide
      · exact hdig c hc
    · simp [Nat.ofDigitChars_cons, Nat.ofDigitChars_append, hval]
  · have hlt : ¬(digits.length : ℤ) ≤ (digits.length : ℤ)-2 := by omega
    refine ⟨digits.take ((digits.length : ℤ)-2).toNat,digits.drop ((digits.length : ℤ)-2).toNat,
      ?_,?_,?_,?_,?_⟩
    · simp only [layout, if_neg hp, if_neg hlt]
    · rw [ne_eq, List.take_eq_nil_iff]
      rintro (h | h)
      · omega
      · simp [h] at hp
    · simp only [List.length_drop]
      omega
    · rw [List.take_append_drop]
      exact hdig
    · rw [List.take_append_drop]
      exact hval

theorem scanFinite_of_split {whole fraction : List Char} (s : Bool) (hne : whole ≠ [])
    (hd : ∀ c ∈ whole ++ fraction, c.isDigit = true) :
    scanFinite s (whole ++ '.' :: fraction) =
      if representable (Nat.ofDigitChars 10 (whole ++ fraction) 0) (-fraction.length) then
        some (.finite s (Nat.ofDigitChars 10 (whole ++ fraction) 0) (-fraction.length)) else none := by
  have hdot : Char.isDigit '.' = false := by decide
  have hw : ∀ c ∈ whole, c.isDigit = true := fun c hc => hd c (by simp [hc])
  have hf : ∀ c ∈ fraction, c.isDigit = true := fun c hc => hd c (by simp [hc])
  have htw : (whole ++ '.' :: fraction).takeWhile Char.isDigit = whole := by
    rw [List.takeWhile_append_of_pos hw]
    simp [hdot]
  have hdw : (whole ++ '.' :: fraction).dropWhile Char.isDigit = '.' :: fraction := by
    rw [List.dropWhile_append_of_pos hw]
    simp [hdot]
  have htf : fraction.takeWhile Char.isDigit = fraction := List.takeWhile_eq_self_iff.mpr hf
  have hdf : fraction.dropWhile Char.isDigit = [] := List.dropWhile_eq_nil_iff.mpr hf
  have hemp : whole.isEmpty = false := by simpa using hne
  simp [scanFinite, htw, hdw, htf, hdf, hemp, scanExponent]

/-- The text of a canonical amount reads back as the amount. -/
theorem ofText_formatF {s : Bool} {q : ℕ} (h : q < coefficientLimit) :
    ofText (strip (ofCents s q).formatF) = some (ofCents s q) := by
  obtain ⟨whole,fraction,hl,hne,hlen,hd,hval⟩ := layout_split q
  have ht : (ofCents s q).formatF.toList = signText s ++ (whole ++ '.' :: fraction) := by
    rw [toList_formatF_ofCents, hl]
  have hchar : ∀ c ∈ whole ++ '.' :: fraction, c.isDigit = true ∨ c = '.' := by
    intro c hc
    simp only [List.mem_append, List.mem_cons] at hc
    rcases hc with hc | hc | hc
    · exact .inl (hd c (by simp [hc]))
    · exact .inr hc
    · exact .inl (hd c (by simp [hc]))
  have hplain (c : Char) (hc : c ∈ signText s ++ (whole ++ '.' :: fraction)) :
      isPySpace c = false ∧ (c != '_') = true ∧ asciiDigit c = c := by
    rcases List.mem_append.mp hc with hc | hc
    · rw [mem_signText hc]
      decide
    · rcases hchar c hc with hc | rfl
      · have ha := asciiDigit_of_isDigit hc
        obtain ⟨d,hd10,rfl⟩ := isDigit_cases hc
        refine ⟨?_,?_,ha⟩ <;> interval_cases d <;> decide
      · decide
  rw [strip_eq_self (fun c hc => (hplain c (ht ▸ hc)).1), ht]
  have hfilter : (signText s ++ (whole ++ '.' :: fraction)).filter (fun c => c != '_') =
      signText s ++ (whole ++ '.' :: fraction) :=
    List.filter_eq_self.mpr (fun c hc => (hplain c hc).2.1)
  have hmap : (signText s ++ (whole ++ '.' :: fraction)).map asciiDigit =
      signText s ++ (whole ++ '.' :: fraction) := by
    conv_rhs => rw [← List.map_id (signText s ++ (whole ++ '.' :: fraction))]
    exact List.map_congr_left (fun c hc => (hplain c hc).2.2)
  obtain ⟨d,rest,hw⟩ := List.exists_cons_of_ne_nil hne
  obtain ⟨n,hn,rfl⟩ := isDigit_cases (hd d (by simp [hw]))
  -- the first character is a digit, so none of the special spellings applies
  have hsign : scanSign (signText s ++ (whole ++ '.' :: fraction)) = (s,whole ++ '.' :: fraction) := by
    cases s with
    | true => rfl
    | false =>
      rw [hw]
      interval_cases n <;> rfl
  have hspecial : ((whole ++ '.' :: fraction).map Char.toLower) = Nat.digitChar n ::
      ((rest ++ '.' :: fraction).map Char.toLower) := by
    rw [hw]
    interval_cases n <;> rfl
  have hrep : representable q (-2) = true := by
    have hdigits : (Nat.toDigits 10 q).length ≤ 28 :=
      (Nat.length_toDigits_le_iff (by decide) (by decide)).mpr h
    have hmax : (-2 : ℤ)+(Nat.toDigits 10 q).length-1 ≤ maxExponent := by
      unfold maxExponent
      omega
    have hlow : decide (minExponent ≤ -2) = true := by decide
    have hhigh : decide ((-2 : ℤ) ≤ maxExponent) = true := by decide
    rw [representable, hlow, hhigh, decide_eq_true hmax, Bool.or_true]
    rfl
  have hfin : scanFinite s (whole ++ '.' :: fraction) = some (ofCents s q) := by
    rw [scanFinite_of_split s hne hd, hval, hlen]
    exact if_pos hrep
  simp only [ofText, hfilter, hmap, hsign, hspecial, hfin]
  interval_cases n <;> rfl

theorem mem_formatF_ofCents {s : Bool} {q : ℕ} {c : Char} (h : c ∈ (ofCents s q).formatF.toList) :
    c = '-' ∨ c = '.' ∨ c.isDigit = true := by
  rw [toList_formatF_ofCents, List.mem_append] at h
  rcases h with h | h
  · exact .inl (mem_signText h)
  · rcases mem_layout h with h | rfl | rfl
    · exact .inr (.inr (Nat.isDigit_of_mem_toDigits (b := 10) (by decide) (by decide) h))
    · exact .inr (.inr (by decide))
    · exact .inr (.inl rfl)

theorem separator_not_mem_formatF (s : Bool) (q : ℕ) : '|' ∉ (ofCents s q).formatF.toList := by
  intro h
  rcases mem_formatF_ofCents h with h | h | h
  · exact absurd h (by decide)
  · exact absurd h (by decide)
  · exact absurd h (by decide)

end Decimal

/-- What `normalize_money` returns: a canonical amount within the precision. -/
theorem normalizeMoney_eq_ok {v : MoneyInput} {d : Decimal} (h : normalizeMoney v = .ok d) :
    ∃ s q, q < Decimal.coefficientLimit ∧ d = .ofCents s q := by
  simp only [normalizeMoney, bind, Except.bind] at h
  cases hp : parseMoney v with
  | error e => simp [hp] at h
  | ok a =>
    rw [hp] at h
    rcases a with ⟨s,c,e⟩ | s | _
    · obtain ⟨hq,rfl⟩ := Decimal.quantize_finite.mp h
      exact ⟨s,_,hq,rfl⟩
    · simp [Decimal.quantize] at h
    · simp only [parseMoney, bind, Except.bind] at hp
      cases ht : v.toDecimal with
      | error e => simp [ht] at hp
      | ok a => cases a <;> simp [ht] at hp

@[simp] theorem normalizeMoney_decimal (s : Bool) (c : ℕ) (e : ℤ) :
    normalizeMoney (.decimal (.finite s c e)) = (Decimal.finite s c e).quantize := rfl

theorem normalizeMoney_normalized {v : MoneyInput} {d : Decimal} (h : normalizeMoney v = .ok d) :
    normalizeMoney (.decimal d) = .ok d := by
  obtain ⟨s,q,hq,rfl⟩ := normalizeMoney_eq_ok h
  exact Decimal.quantize_ofCents hq

theorem Decimal.ofCents_le_zero (s : Bool) (q : ℕ) :
    (Decimal.ofCents s q).le .zero = .ok (s || q == 0) := by
  have hz : numerator 0 (-2) = 0 := by simp [numerator]
  have hd : denominator (-2) = 100 := by decide
  have hn : numerator q (-2) = q := by simp [numerator]
  simp only [ofCents, zero, le, hz, hd, hn]
  cases s with
  | false =>
    simp only [signed, Bool.false_eq_true, if_false, Bool.false_or, Bool.beq_eq_decide_eq]
    congr 2
    simp
    omega
  | true => simp [signed]

/-- The accepted amounts are the positive canonical ones. -/
theorem ensurePositiveMoney_eq_ok {v : MoneyInput} {d : Decimal} :
    ensurePositiveMoney v = .ok d ↔
      normalizeMoney v = .ok d ∧ ∃ q, 0 < q ∧ q < Decimal.coefficientLimit ∧ d = .ofCents false q := by
  simp only [ensurePositiveMoney, bind, Except.bind]
  cases hn : normalizeMoney v with
  | error e => simp
  | ok a =>
    obtain ⟨s,q,hq,rfl⟩ := normalizeMoney_eq_ok hn
    simp only [Decimal.ofCents_le_zero, Except.ok.injEq]
    constructor
    · intro h
      cases s with
      | true => simp at h
      | false =>
        rcases Nat.eq_zero_or_pos q with h0 | h0
        · simp [h0] at h
        · have hne : (q == 0) = false := by simpa using Nat.pos_iff_ne_zero.mp h0
          simp only [hne, Bool.or_false, Bool.false_eq_true, if_false, Except.ok.injEq] at h
          exact ⟨h,q,h0,hq,h.symm⟩
    · rintro ⟨rfl,q',h0,-,he⟩
      simp only [Decimal.ofCents, Decimal.finite.injEq, and_true] at he
      obtain ⟨rfl,rfl⟩ := he
      have hne : (q == 0) = false := by simpa using Nat.pos_iff_ne_zero.mp h0
      simp [hne]

end StreamingCompass
