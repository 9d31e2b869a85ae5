import Mathlib.Data.List.Nodup
import Mathlib.Logic.Function.Basic

/-! # Unique keys over in-flight rows

Rows are committed or pending in the transaction of one owner. A unique key is held by
at most one row of all of them, which is what waiting on the holder of a key and
failing on a committed key amount to.
-/
namespace StreamingCompass.Interleaving

variable {ι Row Key : Type} {key : Row → Key} {committed : List Row} {pending : ι → List Row}

theorem find?_key [DecidableEq Key] {rows : List Row} (h : (rows.map key).Nodup) {r : Row}
    (hr : r ∈ rows) : rows.find? (fun s => key s = key r) = some r := by
  cases hf : rows.find? (fun s => key s = key r) with
  | none =>
    rw [List.find?_eq_none] at hf
    simpa using hf r hr
  | some s =>
    have hkey : key s = key r := by simpa using List.find?_some hf
    rw [List.inj_on_of_nodup_map h (List.mem_of_find?_eq_some hf) hr hkey]

theorem find?_key_none [DecidableEq Key] {rows : List Row} {k : Key} (h : k ∉ rows.map key) :
    rows.find? (fun s => key s = k) = none := by
  rw [List.find?_eq_none]
  intro s hs hk
  exact h (List.mem_map.mpr ⟨s,hs,by simpa using hk⟩)

/-- No two rows, committed or pending, share a key. -/
structure Exclusive (key : Row → Key) (committed : List Row) (pending : ι → List Row) : Prop where
  settled : (committed.map key).Nodup
  own : ∀ i, ((pending i).map key).Nodup
  apart : ∀ i, ∀ r ∈ pending i, ∀ c ∈ committed, key r ≠ key c
  disjoint : ∀ i j, i ≠ j → ∀ r ∈ pending i, ∀ s ∈ pending j, key r ≠ key s

namespace Exclusive

theorem nil : Exclusive key [] (fun _ : ι => []) :=
  ⟨by simp,by simp,by simp,by simp⟩

variable [DecidableEq ι]

/-- A row whose key nobody holds may become pending. -/
theorem insert (h : Exclusive key committed pending) {i : ι} {r : Row}
    (hc : ∀ c ∈ committed, key c ≠ key r) (ho : ∀ s ∈ pending i, key s ≠ key r)
    (hd : ∀ j, j ≠ i → ∀ s ∈ pending j, key s ≠ key r) :
    Exclusive key committed (Function.update pending i (pending i ++ [r])) := by
  have hmem (j : ι) (s : Row) (hs : s ∈ Function.update pending i (pending i ++ [r]) j) :
      s ∈ pending j ∨ j = i ∧ s = r := by
    by_cases hj : j = i
    · subst hj
      rw [Function.update_self, List.mem_append, List.mem_singleton] at hs
      exact hs.imp id (fun hs => ⟨rfl,hs⟩)
    · rw [Function.update_of_ne hj] at hs
      exact .inl hs
  refine ⟨h.settled,fun j => ?_,fun j s hs c hcm => ?_,fun j k hjk s hs t ht => ?_⟩
  · by_cases hj : j = i
    · subst hj
      rw [Function.update_self, List.map_append, List.nodup_append]
      refine ⟨h.own j,by simp,?_⟩
      intro a ha b hb
      obtain ⟨s,hs,rfl⟩ := List.mem_map.mp ha
      obtain rfl : b = key r := by simpa using hb
      exact ho s hs
    · rw [Function.update_of_ne hj]
      exact h.own j
  · rcases hmem j s hs with hs | ⟨-,rfl⟩
    · exact h.apart j s hs c hcm
    · exact (hc c hcm).symm
  · rcases hmem j s hs with hold | ⟨rfl,rfl⟩
    · rcases hmem k t ht with hold' | ⟨rfl,rfl⟩
      · exact h.disjoint j k hjk s hold t hold'
      · exact hd j hjk s hold
    · rcases hmem k t ht with hold' | ⟨rfl,rfl⟩
      · exact (hd k hjk.symm t hold').symm
      · exact absurd rfl hjk

theorem commit (h : Exclusive key committed pending) (i : ι) :
    Exclusive key (committed ++ pending i) (Function.update pending i []) := by
  have hmem (j : ι) (s : Row) (hs : s ∈ Function.update pending i [] j) : j ≠ i ∧ s ∈ pending j := by
    by_cases hj : j = i
    · subst hj
      simp at hs
    · rw [Function.update_of_ne hj] at hs
      exact ⟨hj,hs⟩
  refine ⟨?_,fun j => ?_,fun j s hs c hc => ?_,fun j k hjk s hs t ht => ?_⟩
  · rw [List.map_append, List.nodup_append]
    refine ⟨h.settled,h.own i,?_⟩
    intro a ha b hb
    obtain ⟨c,hc,rfl⟩ := List.mem_map.mp ha
    obtain ⟨r,hr,rfl⟩ := List.mem_map.mp hb
    exact (h.apart i r hr c hc).symm
  · by_cases hj : j = i
    · subst hj
      simp
    · rw [Function.update_of_ne hj]
      exact h.own j
  · obtain ⟨hj,hs⟩ := hmem j s hs
    rcases List.mem_append.mp hc with hc | hc
    · exact h.apart j s hs c hc
    · exact h.disjoint j i hj s hs c hc
  · exact h.disjoint j k hjk s (hmem j s hs).2 t (hmem k t ht).2

theorem rollback (h : Exclusive key committed pending) (i : ι) :
    Exclusive key committed (Function.update pending i []) := by
  have hmem (j : ι) (s : Row) (hs : s ∈ Function.update pending i [] j) : s ∈ pending j := by
    by_cases hj : j = i
    · subst hj
      simp at hs
    · rwa [Function.update_of_ne hj] at hs
  refine ⟨h.settled,fun j => ?_,fun j s hs => h.apart j s (hmem j s hs),
    fun j k hjk s hs t ht => h.disjoint j k hjk s (hmem j s hs) t (hmem k t ht)⟩
  by_cases hj : j = i
  · subst hj
    simp
  · rw [Function.update_of_ne hj]
    exact h.own j

end Exclusive
end StreamingCompass.Interleaving
