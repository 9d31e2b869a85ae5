import Mathlib.Data.List.Basic

/-! # Histories grounded in observations

A history grows call by call, and authorities observe bases for facts along the way. When
every call appends only facts that an observed basis supports, so does every run; when each
supported fact can be promoted, every list of supported facts is reached.
-/
namespace StreamingCompass.Authority

/-- States that calls change, the facts recorded in them and the bases observed so far. -/
structure History (σ κ φ β : Type) where
  step : σ → κ → σ
  facts : σ → List φ
  bases : σ → List β

variable {σ κ φ β : Type}

namespace History
variable (H : History σ κ φ β)

def run (s : σ) (calls : List κ) : σ := calls.foldl H.step s

@[simp] theorem run_nil (s : σ) : H.run s [] = s := rfl
@[simp] theorem run_cons (s : σ) (c : κ) (calls : List κ) :
    H.run s (c :: calls) = H.run (H.step s c) calls := rfl

theorem run_append (s : σ) (calls more : List κ) :
    H.run s (calls ++ more) = H.run (H.run s calls) more := List.foldl_append

def Supported (supports : β → φ → Prop) (s : σ) (f : φ) : Prop := ∃ b ∈ H.bases s, supports b f

/-- What one call of a kind may do: append facts with a basis, and lose no basis. -/
structure Gated (supports : β → φ → Prop) (invariant : σ → Prop) (may : κ → Prop) : Prop where
  keeps : ∀ s c, invariant s → may c → invariant (H.step s c)
  appends : ∀ s c, invariant s → may c → ∃ added,
    H.facts (H.step s c) = H.facts s ++ added ∧ ∀ f ∈ added, H.Supported supports s f
  grows : ∀ s c, invariant s → may c → H.bases s ⊆ H.bases (H.step s c)

/-- Every supported fact can be promoted by calls of a kind that observe nothing new. -/
def Promotes (supports : β → φ → Prop) (may : κ → Prop) : Prop :=
  ∀ s f, H.Supported supports s f → ∃ calls, (∀ c ∈ calls, may c) ∧
    H.facts (H.run s calls) = H.facts s ++ [f] ∧ H.bases (H.run s calls) = H.bases s

variable {H} {supports : β → φ → Prop} {invariant : σ → Prop} {may : κ → Prop}

/-- The run rule: what gated calls have appended is supported by what was observed. -/
theorem Gated.run (h : H.Gated supports invariant may) {calls : List κ} {s : σ}
    (hs : invariant s) (hmay : ∀ c ∈ calls, may c) :
    invariant (H.run s calls) ∧ H.bases s ⊆ H.bases (H.run s calls) ∧ ∃ added,
      H.facts (H.run s calls) = H.facts s ++ added ∧
        ∀ f ∈ added, H.Supported supports (H.run s calls) f := by
  induction calls generalizing s with
  | nil => exact ⟨hs,List.Subset.refl _,[],by simp,by simp⟩
  | cons c calls ih =>
    obtain ⟨hc,hrest⟩ := List.forall_mem_cons.mp hmay
    obtain ⟨added,hfacts,hadded⟩ := h.appends s c hs hc
    have hgrows := h.grows s c hs hc
    obtain ⟨hinv,hbases,more,hmore,hsupported⟩ := ih (h.keeps s c hs hc) hrest
    refine ⟨hinv,List.Subset.trans hgrows hbases,added ++ more,?_,fun f hf => ?_⟩
    · rw [run_cons, hmore, hfacts, List.append_assoc]
    · rcases List.mem_append.mp hf with hf | hf
      · obtain ⟨b,hb,hsupports⟩ := hadded f hf
        exact ⟨b,hbases (hgrows hb),hsupports⟩
      · exact hsupported f hf

/-- The reach rule: supported facts are promoted one after the other. -/
theorem Promotes.run (h : H.Promotes supports may) {facts : List φ} {s : σ}
    (hs : ∀ f ∈ facts, H.Supported supports s f) : ∃ calls, (∀ c ∈ calls, may c) ∧
      H.facts (H.run s calls) = H.facts s ++ facts ∧ H.bases (H.run s calls) = H.bases s := by
  induction facts generalizing s with
  | nil => exact ⟨[],by simp,by simp,rfl⟩
  | cons f facts ih =>
    obtain ⟨hf,hrest⟩ := List.forall_mem_cons.mp hs
    obtain ⟨first,hmay,hfacts,hbases⟩ := h s f hf
    have hkept (g : φ) (hg : g ∈ facts) : H.Supported supports (H.run s first) g := by
      unfold Supported
      rw [hbases]
      exact hrest g hg
    obtain ⟨calls,hcalls,hreached,hobserved⟩ := ih hkept
    refine ⟨first ++ calls,?_,?_,?_⟩
    · intro c hc
      rcases List.mem_append.mp hc with hc | hc
      · exact hmay c hc
      · exact hcalls c hc
    · rw [run_append, hreached, hfacts, List.append_assoc, List.singleton_append]
    · rw [run_append, hobserved, hbases]

end History
end StreamingCompass.Authority
