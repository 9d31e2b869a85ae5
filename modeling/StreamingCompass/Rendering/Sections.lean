import Mathlib.Data.List.Basic

/-! # Texts that determine their parts

A text of lines gives back the lines, provided no line holds the separator. A prefix code is
read back symbol by symbol, and a section written in one ends where no code begins.
-/
namespace StreamingCompass.Rendering

variable {α β : Type}

/-! ## Separators -/

/-- No code begins here. -/
def Stops (code : α → List β) (rest : List β) : Prop := ∀ a r, rest ≠ code a ++ r

theorem Stops.nil {code : α → List β} (hne : ∀ a, code a ≠ []) : Stops code [] := by
  intro a r h
  exact hne a (List.append_eq_nil_iff.mp h.symm).1

/-- A section under a heading, which says so when the section is empty. -/
def headed (heading empty : β) (code : α → List β) : List α → List β
  | [] => [empty]
  | x :: xs => heading :: (x :: xs).flatMap code

/-- A section does not begin under another's heading. -/
theorem Stops.headed {γ : Type} {heading empty : β} {code : α → List β} {other : γ → List β}
    (hheading : ∀ rest, Stops other (heading :: rest)) (hempty : ∀ rest, Stops other (empty :: rest))
    (xs : List α) (rest : List β) : Stops other (headed heading empty code xs ++ rest) := by
  cases xs with
  | nil => exact hempty _
  | cons x xs => exact hheading _

end StreamingCompass.Rendering
