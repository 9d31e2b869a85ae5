import Mathlib.Data.Int.Notation
import Mathlib.Data.List.TakeWhile

/-! # Strings and exceptions as the Python sources use them

Strings are sequences of Unicode scalar values. `PyException` keeps, of each
exception class, what the modelled handlers and messages read.
-/
namespace StreamingCompass

/-- `str.isspace` of one character. -/
def isPySpace (c : Char) : Bool :=
  let n := c.toNat
  (9 ≤ n && n ≤ 13) || (28 ≤ n && n ≤ 32) || n == 0x85 || n == 0xA0 || n == 0x1680 ||
    (0x2000 ≤ n && n ≤ 0x200A) || n == 0x2028 || n == 0x2029 || n == 0x202F || n == 0x205F ||
    n == 0x3000

/-- `str.strip()` as a list of characters. -/
def strip (s : String) : List Char :=
  ((s.toList.dropWhile isPySpace).reverse.dropWhile isPySpace).reverse

/-- `not s or not s.strip()`. -/
def isBlank (s : String) : Bool := s.toList.isEmpty || (strip s).isEmpty

theorem strip_eq_nil_iff (s : String) : strip s = [] ↔ ∀ c ∈ s.toList, isPySpace c = true := by
  rw [strip, List.reverse_eq_nil_iff, List.dropWhile_eq_nil_iff]
  constructor
  · intro h
    cases hd : s.toList.dropWhile isPySpace with
    | nil => exact List.dropWhile_eq_nil_iff.mp hd
    | cons c cs =>
      have hc := List.head_dropWhile_not isPySpace (l := s.toList) (by simp [hd])
      have hm := h c (by simp [hd])
      simp [hd,hm] at hc
  · intro h c hc
    exact h c ((List.dropWhile_sublist _).subset (List.mem_reverse.mp hc))

theorem strip_eq_self {s : String} (h : ∀ c ∈ s.toList, isPySpace c = false) :
    strip s = s.toList := by
  have hdrop (l : List Char) (hl : ∀ c ∈ l, isPySpace c = false) : l.dropWhile isPySpace = l := by
    cases l with
    | nil => rfl
    | cons c cs => simp [hl c (by simp)]
  rw [strip, hdrop _ h, hdrop _ (fun c hc => h c (List.mem_reverse.mp hc)), List.reverse_reverse]

/-- A string with one character that is not white space is not blank. -/
theorem isBlank_eq_false {s : String} {c : Char} (hc : c ∈ s.toList) (hs : isPySpace c = false) :
    isBlank s = false := by
  have hne : strip s ≠ [] := by
    intro h
    have := (strip_eq_nil_iff s).mp h c hc
    simp [hs] at this
  have hl : s.toList ≠ [] := List.ne_nil_of_mem hc
  simp [isBlank,hne,hl]

theorem strip_not_empty {s : String} (h : isBlank s = false) : (strip s).isEmpty = false := by
  cases hs : (strip s).isEmpty with
  | false => rfl
  | true => simp [isBlank, hs] at h

/-- The exceptions of the modelled code: Python's own, the storage errors and what the
database driver raises. -/
inductive PyException where
  | valueError (message : String)
  | moneyValidationError (message : String)
  /-- `decimal.InvalidOperation`, which is no `ValueError` -/
  | invalidOperation
  | runtimeError (message : String)
  | typeError (message : String)
  | appendVersionMismatchError (expected observed : ℤ)
  | staleWriteError (message : String)
  | appendConflictError (message : String)
  | storageInfrastructureError (message : String)
  | projectionProgressConflictError (message : String)
  | uniqueViolation (constraint : Option String) (message : String)
  | lockNotAvailable (message : String)
  /-- any other exception of the driver, by SQLSTATE -/
  | databaseError (sqlstate message : String)
  /-- any other exception of a collaborator -/
  | other (name message : String)
deriving DecidableEq, Repr

/-- What `raise` can raise: `except Exception` lets the process-control classes through. -/
inductive BaseException where
  | exception (e : PyException)
  | processControl (name : String)
deriving DecidableEq, Repr

/-- `isinstance(exc, Exception)` -/
def BaseException.isException : BaseException → Bool
  | .exception _ => true
  | .processControl _ => false

/-- `str(exc)`. -/
def PyException.str : PyException → String
  | .valueError m | .moneyValidationError m | .runtimeError m | .typeError m => m
  | .invalidOperation => "[<class 'decimal.InvalidOperation'>]"
  | .appendVersionMismatchError expected observed =>
    "Version conflict: store_version=" ++ toString observed ++
      ", expected_version=" ++ toString expected
  | .staleWriteError m | .appendConflictError m | .storageInfrastructureError m => m
  | .projectionProgressConflictError m | .uniqueViolation _ m | .lockNotAvailable m => m
  | .databaseError _ m | .other _ m => m

/-- `isinstance(exc, ValueError)` -/
def PyException.isValueError : PyException → Bool
  | .valueError _ | .moneyValidationError _ | .appendVersionMismatchError _ _ => true
  | _ => false

@[simp] theorem ok_bind {ε α β : Type} (a : α) (f : α → Except ε β) :
    ((.ok a : Except ε α) >>= f) = f a := rfl
@[simp] theorem error_bind {ε α β : Type} (e : ε) (f : α → Except ε β) :
    ((.error e : Except ε α) >>= f) = .error e := rfl

theorem bind_eq_ok {ε α β : Type} {r : Except ε α} {f : α → Except ε β} {b : β} :
    (r >>= f) = .ok b ↔ ∃ a, r = .ok a ∧ f a = .ok b := by
  cases r with
  | ok a => simp
  | error e => simp

end StreamingCompass
