import Mathlib.Data.List.Pairwise

/-! # Rows of open transactions

The rows of a table in order of insertion, each committed or open in the transaction of one
owner. An owner sees the committed rows and its own.
-/
namespace StreamingCompass.Interleaving

structure OwnedRow (ι Row : Type) where
  owner : Option ι
  row : Row

abbrev OwnedRows (ι Row : Type) : Type := List (OwnedRow ι Row)

namespace OwnedRows
variable {ι Row : Type} {t : OwnedRows ι Row} {i j : ι} {r s : Row} {owner : Option ι}

def rows (t : OwnedRows ι Row) : List Row := t.map (fun x => x.row)

def committed (t : OwnedRows ι Row) : List Row :=
  (t.filter (fun x => x.owner.isNone)).map (fun x => x.row)

def add (t : OwnedRows ι Row) (i : ι) (r : Row) : OwnedRows ι Row := t ++ [⟨some i,r⟩]

theorem mem_add : ⟨owner,r⟩ ∈ t.add i s ↔ ⟨owner,r⟩ ∈ t ∨ owner = some i ∧ r = s := by
  simp only [add, List.mem_append, List.mem_singleton, OwnedRow.mk.injEq]

@[simp] theorem rows_add : (t.add i r).rows = t.rows ++ [r] := by simp [rows, add]

@[simp] theorem committed_add : (t.add i r).committed = t.committed := by simp [committed, add]

variable [DecidableEq ι]

def visible (t : OwnedRows ι Row) (i : ι) : List Row :=
  (t.filter (fun x => x.owner = none ∨ x.owner = some i)).map (fun x => x.row)

def settle (i : ι) (x : OwnedRow ι Row) : OwnedRow ι Row :=
  if x.owner = some i then ⟨none,x.row⟩ else x

def commit (t : OwnedRows ι Row) (i : ι) : OwnedRows ι Row := t.map (settle i)

def rollback (t : OwnedRows ι Row) (i : ι) : OwnedRows ι Row := t.filter (fun x => x.owner ≠ some i)

theorem mem_visible : r ∈ t.visible i ↔ ⟨none,r⟩ ∈ t ∨ ⟨some i,r⟩ ∈ t := by
  simp only [visible, List.mem_map, List.mem_filter, decide_eq_true_eq]
  constructor
  · rintro ⟨⟨owner,r⟩,⟨h,rfl | rfl⟩,rfl⟩
    · exact .inl h
    · exact .inr h
  · rintro (h | h)
    · exact ⟨_,⟨h,.inl rfl⟩,rfl⟩
    · exact ⟨_,⟨h,.inr rfl⟩,rfl⟩

theorem visible_add : (t.add i r).visible i = t.visible i ++ [r] := by simp [visible, add]

theorem visible_eq_rows (h : ∀ x ∈ t, x.owner = none ∨ x.owner = some i) : t.visible i = t.rows := by
  have hall : t.filter (fun x => x.owner = none ∨ x.owner = some i) = t := by
    rw [List.filter_eq_self]
    simpa using h
  rw [visible, hall, rows]

theorem mem_rollback : ⟨owner,r⟩ ∈ t.rollback i ↔ ⟨owner,r⟩ ∈ t ∧ owner ≠ some i := by
  simp only [rollback, List.mem_filter, decide_eq_true_eq]

theorem mem_commit : ⟨owner,r⟩ ∈ t.commit i ↔
    owner ≠ some i ∧ (⟨owner,r⟩ ∈ t ∨ owner = none ∧ ⟨some i,r⟩ ∈ t) := by
  simp only [commit, List.mem_map, settle]
  constructor
  · rintro ⟨⟨owner',r'⟩,h,heq⟩
    split at heq
    · next hi =>
      obtain ⟨rfl,rfl⟩ := OwnedRow.mk.inj heq
      exact ⟨nofun,.inr ⟨rfl,hi ▸ h⟩⟩
    · next hi =>
      obtain ⟨rfl,rfl⟩ := OwnedRow.mk.inj heq
      exact ⟨hi,.inl h⟩
  · rintro ⟨hi,h | ⟨rfl,h⟩⟩
    · exact ⟨_,h,if_neg hi⟩
    · exact ⟨_,h,if_pos rfl⟩

theorem visible_sublist : (t.visible i).Sublist t.rows := List.filter_sublist.map _

@[simp] theorem rows_commit : (t.commit i).rows = t.rows := by
  simp only [rows, commit, List.map_map]
  congr 1
  funext x
  simp only [Function.comp, settle]
  split <;> rfl

theorem rows_rollback : (t.rollback i).rows.Sublist t.rows := List.filter_sublist.map _

theorem committed_commit : t.committed.Sublist (t.commit i).committed := by
  induction t with
  | nil => exact .slnil
  | cons x t ih =>
    unfold committed commit settle at ih ⊢
    obtain ⟨owner,r⟩ := x
    cases owner with
    | none => simpa using ih
    | some j =>
      rw [List.map_cons, List.filter_cons_of_neg (by simp)]
      split
      · rw [List.filter_cons_of_pos rfl, List.map_cons]
        exact ih.cons _
      · rw [List.filter_cons_of_neg (by simp)]
        exact ih

@[simp] theorem committed_rollback : (t.rollback i).committed = t.committed := by
  simp only [committed, rollback, List.filter_filter]
  congr 2
  funext x
  cases x.owner with
  | none => simp
  | some j => simp

/-- What another owner commits or gives up hides no row. -/
theorem visible_subset_commit (h : j ≠ i) : t.visible i ⊆ (t.commit j).visible i := by
  intro r hr
  rw [mem_visible] at hr ⊢
  rcases hr with hr | hr
  · exact .inl (mem_commit.mpr ⟨nofun,.inl hr⟩)
  · exact .inr (mem_commit.mpr ⟨fun heq => h (Option.some.inj heq).symm,.inl hr⟩)

theorem visible_subset_rollback (h : j ≠ i) : t.visible i ⊆ (t.rollback j).visible i := by
  intro r hr
  rw [mem_visible] at hr ⊢
  rcases hr with hr | hr
  · exact .inl (mem_rollback.mpr ⟨hr,nofun⟩)
  · exact .inr (mem_rollback.mpr ⟨hr,fun heq => h (Option.some.inj heq).symm⟩)

theorem visible_subset_add : t.visible i ⊆ (t.add j r).visible i := by
  intro s hs
  rw [mem_visible] at hs ⊢
  exact hs.imp (fun h => mem_add.mpr (.inl h)) (fun h => mem_add.mpr (.inl h))

end OwnedRows
end StreamingCompass.Interleaving
