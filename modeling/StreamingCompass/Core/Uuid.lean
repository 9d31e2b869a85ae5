import StreamingCompass.Core.Order

/-! # Parsing UUIDs

`uuid.UUID(text)` and the `int(text, 16)` it rests on; the canonical text of a UUID parses
to it.
-/
namespace StreamingCompass

/-- `text.replace(pattern, '')`; `skip` characters of a match are still to be passed. -/
def removeAll (pattern : List Char) : ℕ → List Char → List Char
  | _, [] => []
  | skip+1, _ :: cs => removeAll pattern skip cs
  | 0, c :: cs =>
    if pattern.isPrefixOf (c :: cs) then removeAll pattern (pattern.length-1) cs
    else c :: removeAll pattern 0 cs

/-- `text.strip(chars)` -/
def stripChars (p : Char → Bool) (cs : List Char) : List Char :=
  ((cs.dropWhile p).reverse.dropWhile p).reverse

def hexDigit (c : Char) : Option ℕ :=
  if '0' ≤ c ∧ c ≤ '9' then some (c.toNat-48)
  else if 'a' ≤ c ∧ c ≤ 'f' then some (c.toNat-87)
  else if 'A' ≤ c ∧ c ≤ 'F' then some (c.toNat-55)
  else none

/-- The digits after a first one; a single underscore may separate two digits. -/
def hexValue (acc : ℕ) : List Char → Option ℕ
  | [] => some acc
  | '_' :: c :: cs => (hexDigit c).bind (fun d => hexValue (16*acc+d) cs)
  | c :: cs => (hexDigit c).bind (fun d => hexValue (16*acc+d) cs)

def hexNumber : List Char → Option ℕ
  | [] => none
  | c :: cs => (hexDigit c).bind (fun d => hexValue d cs)

/-- What `int` reads a character as: beyond ASCII, white space as a blank and a decimal digit
as itself. -/
def decimalOrSpace (c : Char) : Char :=
  if c.toNat < 0x80 then c else if isPySpace c then ' ' else Decimal.asciiDigit c

/-- White space of C, which `int` strips. -/
def isCSpace (c : Char) : Bool := (9 ≤ c.toNat && c.toNat ≤ 13) || c == ' '

/-- `int(text, 16)` of a text without a minus sign. -/
def parseInt16 (cs : List Char) : Option ℕ :=
  let unsigned := match stripChars isCSpace (cs.map decimalOrSpace) with
    | '+' :: rest => rest
    | rest => rest
  match unsigned with
  | '0' :: 'x' :: '_' :: rest | '0' :: 'X' :: '_' :: rest => hexNumber rest
  | '0' :: 'x' :: rest | '0' :: 'X' :: rest => hexNumber rest
  | rest => hexNumber rest

/-- `UUID(text)`; `none` is a `ValueError`. -/
def Uuid.parse (text : String) : Option Uuid :=
  let prefixed := removeAll "uuid:".toList 0 (removeAll "urn:".toList 0 text.toList)
  let hex := removeAll ['-'] 0 (stripChars (fun c => c == '{' || c == '}') prefixed)
  if hex.length ≠ 32 then none
  else (parseInt16 hex).bind (fun n => if h : n < 2^128 then some ⟨n,h⟩ else none)

/-! ## The canonical text -/

theorem removeAll_of_head {p : Char} {ps cs : List Char} (h : p ∉ cs) :
    removeAll (p :: ps) 0 cs = cs := by
  induction cs with
  | nil => rfl
  | cons c cs ih =>
    have hne : (p == c) = false := by
      simpa using fun heq : p = c => h (heq ▸ List.mem_cons_self ..)
    simp only [removeAll, List.isPrefixOf, hne, Bool.false_and, Bool.false_eq_true, if_false,
      ih (fun hm => h (List.mem_cons_of_mem _ hm))]

theorem removeAll_singleton (p : Char) (cs : List Char) :
    removeAll [p] 0 cs = cs.filter (fun c => c != p) := by
  induction cs with
  | nil => rfl
  | cons c cs ih =>
    by_cases hc : p = c
    · subst hc
      simp [removeAll, List.isPrefixOf, ih]
    · simp [removeAll, List.isPrefixOf, ih, hc, Ne.symm hc]

theorem stripChars_of_none {p : Char → Bool} {cs : List Char} (h : ∀ c ∈ cs, p c = false) :
    stripChars p cs = cs := by
  have hdrop (l : List Char) (hl : ∀ c ∈ l, p c = false) : l.dropWhile p = l := by
    cases l with
    | nil => rfl
    | cons c cs => simp [hl c (by simp)]
  rw [stripChars, hdrop _ h, hdrop _ (fun c hc => h c (List.mem_reverse.mp hc)), List.reverse_reverse]

/-- The digits of canonical texts. -/
def isHexDigit (c : Char) : Bool := "0123456789abcdef".toList.contains c

theorem isHexDigit_digitChar {n : ℕ} (h : n < 16) : isHexDigit (Nat.digitChar n) = true := by
  interval_cases n <;> rfl

theorem hexDigit_digitChar {n : ℕ} (h : n < 16) : hexDigit (Nat.digitChar n) = some n := by
  interval_cases n <;> rfl

theorem isHexDigit_cases {c : Char} (h : isHexDigit c = true) :
    c ≠ '+' ∧ c ≠ 'x' ∧ c ≠ 'X' ∧ c ≠ '_' ∧ isCSpace c = false ∧ decimalOrSpace c = c := by
  have hall : "0123456789abcdef".toList.all (fun c => decide (c ≠ '+' ∧ c ≠ 'x' ∧ c ≠ 'X' ∧ c ≠ '_' ∧
      isCSpace c = false ∧ decimalOrSpace c = c)) = true := by decide +kernel
  simp only [isHexDigit, List.contains_iff_mem] at h
  exact of_decide_eq_true (List.all_eq_true.mp hall c h)

/-- Plain digits are read from the left. -/
theorem parseInt16_digits {cs : List Char} (h : ∀ c ∈ cs, isHexDigit c = true) (hne : cs ≠ []) :
    parseInt16 cs = hexValue 0 cs := by
  have hsame : cs.map decimalOrSpace = cs :=
    (List.map_congr_left (fun c hc => (isHexDigit_cases (h c hc)).2.2.2.2.2)).trans (List.map_id cs)
  rw [parseInt16, hsame, stripChars_of_none (fun c hc => (isHexDigit_cases (h c hc)).2.2.2.2.1)]
  cases cs with
  | nil => exact absurd rfl hne
  | cons c rest =>
    obtain ⟨hplus,-,-,hunderscore,-,-⟩ := isHexDigit_cases (h c (List.mem_cons_self ..))
    have hnumber : hexNumber (c :: rest) = hexValue 0 (c :: rest) := by
      rw [hexNumber, hexValue.eq_3 _ _ _ (by simp [hunderscore])]
      simp
    have hunsigned : (match c :: rest with | '+' :: rest => rest | rest => rest) = c :: rest := by
      split
      · rename_i heq
        exact absurd (List.cons.inj heq).1 hplus
      · rfl
    rw [hunsigned]
    split
    · rename_i heq
      have hx := h 'x' (by simp [heq])
      cases hx
    · rename_i heq
      have hx := h 'X' (by simp [heq])
      cases hx
    · rename_i heq
      have hx := h 'x' (by simp [heq])
      cases hx
    · rename_i heq
      have hx := h 'X' (by simp [heq])
      cases hx
    · exact hnumber

theorem add_place (n k : ℕ) : 16*(n/16^(k+1)) + n/16^k % 16 = n/16^k := by
  rw [pow_succ, ← Nat.div_div_eq_div_mul]
  exact Nat.div_add_mod _ _

namespace Uuid

/-- The digits of `str(uuid)` from one place to another. -/
def digits (u : Uuid) (first count : ℕ) : List Char :=
  (List.range' first count).map (fun i => Nat.digitChar (u.val/16^(31-i) % 16))

theorem isHexDigit_of_mem {u : Uuid} {first count : ℕ} {c : Char} (h : c ∈ u.digits first count) :
    isHexDigit c = true := by
  obtain ⟨i,-,rfl⟩ := List.mem_map.mp h
  exact isHexDigit_digitChar (Nat.mod_lt _ (by decide))

theorem toList_str (u : Uuid) : u.str.toList = u.digits 0 8 ++ '-' :: (u.digits 8 4 ++ '-' ::
    (u.digits 12 4 ++ '-' :: (u.digits 16 4 ++ '-' :: u.digits 20 12))) := by
  simp [str, digits]

theorem hexValue_digits (u : Uuid) {first count : ℕ} (h : first+count ≤ 32) (rest : List Char) :
    hexValue (u.val/16^(32-first)) (u.digits first count ++ rest) =
      hexValue (u.val/16^(32-(first+count))) rest := by
  induction count generalizing first with
  | zero => rfl
  | succ count ih =>
    have hplace : 32-first = (31-first)+1 := by omega
    have hvalue : 16*(u.val/16^(32-first)) + u.val/16^(31-first) % 16 = u.val/16^(32-(first+1)) := by
      rw [hplace, show 32-(first+1) = 31-first by omega]
      exact add_place _ _
    have hdigit := hexDigit_digitChar (Nat.mod_lt (u.val/16^(31-first)) (by decide : 16 > 0))
    have hne : Nat.digitChar (u.val/16^(31-first) % 16) ≠ '_' := by
      intro heq
      rw [heq] at hdigit
      cases hdigit
    rw [digits, List.range'_succ, List.map_cons, List.cons_append, hexValue.eq_3 _ _ _ (by simp [hne]), hdigit,
      Option.bind_some, hvalue, ← digits, ih (by omega), show first+1+count = first+(count+1) by omega]

theorem parse_str (u : Uuid) : parse u.str = some u := by
  have hnot {p : Char} (hp : isHexDigit p = false) (hh : p ≠ '-') : p ∉ u.str.toList := by
    intro hm
    have hdigit : ∀ first count, p ∉ u.digits first count := fun first count hmem => by
      simp [isHexDigit_of_mem hmem] at hp
    simp [toList_str, hdigit, hh] at hm
  have hurn : removeAll "urn:".toList 0 u.str.toList = u.str.toList :=
    removeAll_of_head (hnot (by decide) (by decide))
  have huuid : removeAll "uuid:".toList 0 u.str.toList = u.str.toList :=
    removeAll_of_head (hnot (by decide) (by decide))
  have hbraces : stripChars (fun c => c == '{' || c == '}') u.str.toList = u.str.toList := by
    refine stripChars_of_none (fun c hc => ?_)
    have hopen : c ≠ '{' := fun heq => hnot (by decide) (by decide) (heq ▸ hc)
    have hclose : c ≠ '}' := fun heq => hnot (by decide) (by decide) (heq ▸ hc)
    simp [hopen, hclose]
  have hhyphens (first count : ℕ) :
      (u.digits first count).filter (fun c => c != '-') = u.digits first count := by
    refine List.filter_eq_self.mpr (fun c hc => ?_)
    have hdigit := isHexDigit_of_mem hc
    simp only [bne_iff_ne, ne_eq]
    rintro rfl
    cases hdigit
  have hhex : removeAll ['-'] 0 u.str.toList = u.digits 0 32 := by
    rw [removeAll_singleton, toList_str]
    simp only [List.filter_append, List.filter_cons, hhyphens]
    simp only [bne_self_eq_false, Bool.false_eq_true, if_false, digits, ← List.map_append]
    rfl
  have hlength : (u.digits 0 32).length = 32 := by simp [digits]
  have hint : parseInt16 (u.digits 0 32) = some u.val := by
    rw [parseInt16_digits (fun c hc => isHexDigit_of_mem hc) (List.ne_nil_of_length_pos (by omega))]
    have hread := @hexValue_digits u 0 32 (le_refl _) []
    rwa [List.append_nil, Nat.div_eq_of_lt (by exact u.isLt), Nat.zero_add, Nat.sub_self, pow_zero,
      Nat.div_one, hexValue] at hread
  simp only [parse, hurn, huuid, hbraces, hhex, hlength, hint]
  simp

theorem str_injective : Function.Injective str := fun u v h =>
  Option.some.inj (by rw [← parse_str u, h, parse_str])

end Uuid
end StreamingCompass
