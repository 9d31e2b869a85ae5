import Mathlib.Data.List.Pairwise
import StreamingCompass.Compass.DecisionReceipt
import StreamingCompass.Storage.Tables

/-! # The table of decision receipts

Rows that are committed and rows of open receipt transactions. An insert conflicts with
either kind under the primary key or the partial unique index, and then inserts nothing; an
open transaction is settled at any later time.
-/
namespace StreamingCompass

/-- The key of `uq_decision_receipts_admitted_write_side_event`; other rows have none. -/
def DecisionReceipt.admittedEventId (r : DecisionReceipt) : Option Uuid :=
  if r.evidenceSource = .writeSideAdmission ∧
    r.admissionEvidence = some .admittedToAcceptedHistory then r.correlation.acceptedEventId
  else none

/-- Two rows both keys let stand. -/
structure DecisionReceipt.Distinct (r s : DecisionReceipt) : Prop where
  receiptId : r.receiptId ≠ s.receiptId
  admittedEventId : ∀ u, r.admittedEventId = some u → s.admittedEventId ≠ some u

theorem DecisionReceipt.Distinct.symm {r s : DecisionReceipt} (h : r.Distinct s) : s.Distinct r :=
  ⟨h.receiptId.symm,fun u hs hr => h.admittedEventId u hr hs⟩

instance : Std.Symm DecisionReceipt.Distinct := ⟨fun _ _ h => h.symm⟩

structure ReceiptTable where
  committed : List DecisionReceipt
  pending : List DecisionReceipt

namespace ReceiptTable

def empty : ReceiptTable := ⟨[],[]⟩

def rows (T : ReceiptTable) : List DecisionReceipt := T.committed ++ T.pending

/-- What the table demands of a new row: both keys, and `fk_decision_receipts_accepted_event`. -/
structure Insertable (T : ReceiptTable) (t : Tables) (r : DecisionReceipt) : Prop where
  distinct : ∀ s ∈ T.rows, r.Distinct s
  references : ∀ u, r.correlation.acceptedEventId = some u →
    ∃ row ∈ t.orderEvents, row.acceptedEventId = u.str

def insert (T : ReceiptTable) (r : DecisionReceipt) : ReceiptTable := ⟨T.committed,r :: T.pending⟩

/-- How an open transaction ends, with or without an acknowledgement. -/
inductive Settles : ReceiptTable → ReceiptTable → Prop where
  | commit {committed before after : List DecisionReceipt} {r : DecisionReceipt} :
    Settles ⟨committed,before ++ r :: after⟩ ⟨committed ++ [r],before ++ after⟩
  | rollback {committed before after : List DecisionReceipt} {r : DecisionReceipt} :
    Settles ⟨committed,before ++ r :: after⟩ ⟨committed,before ++ after⟩

/-- Both keys hold over all rows, committed and open. -/
def Unique (T : ReceiptTable) : Prop := T.rows.Pairwise DecisionReceipt.Distinct

variable {T T' : ReceiptTable} {t : Tables} {r : DecisionReceipt}

theorem Unique.insert (h : T.Unique) (hr : T.Insertable t r) : (T.insert r).Unique := by
  have hperm : (T.insert r).rows.Perm (r :: T.rows) := List.perm_middle
  refine (hperm.pairwise_iff (fun h => h.symm)).mpr ?_
  exact List.pairwise_cons.mpr ⟨hr.distinct,h⟩

theorem Settles.rows_perm (h : Settles T T') : ∃ r, T.rows.Perm (r :: T'.rows) ∨ T.rows.Perm T'.rows := by
  cases h with
  | @commit committed before after r =>
    refine ⟨r,.inr ?_⟩
    simp only [rows, List.append_assoc, List.singleton_append]
    exact List.perm_middle.append_left committed
  | @rollback committed before after r =>
    refine ⟨r,.inl ?_⟩
    simp only [rows, ← List.append_assoc]
    exact List.perm_middle

theorem Settles.rows_subset (h : Settles T T') : T'.rows ⊆ T.rows := by
  obtain ⟨r,hp | hp⟩ := h.rows_perm
  · exact fun s hs => hp.mem_iff.mpr (List.mem_cons_of_mem _ hs)
  · exact fun s hs => hp.mem_iff.mpr hs

theorem Unique.settle (h : T.Unique) (hs : Settles T T') : T'.Unique := by
  obtain ⟨r,hp | hp⟩ := hs.rows_perm
  · exact (List.pairwise_cons.mp ((hp.pairwise_iff (fun h => h.symm)).mp h)).2
  · exact (hp.pairwise_iff (fun h => h.symm)).mp h

theorem Unique.admitted (h : T.Unique) (hr : r ∈ T.committed) {u : Uuid}
    (hu : r.admittedEventId = some u) :
    T.committed.filter (fun s => s.admittedEventId = some u) = [r] := by
  have hpairwise := ((List.pairwise_append.mp h).1).filter (fun s => s.admittedEventId = some u)
  have hmem : r ∈ T.committed.filter (fun s => s.admittedEventId = some u) := by simp [hr, hu]
  have hkeys : ∀ s ∈ T.committed.filter (fun s => s.admittedEventId = some u),
      s.admittedEventId = some u := fun s hs => of_decide_eq_true (List.mem_filter.mp hs).2
  revert hpairwise hmem hkeys
  cases T.committed.filter (fun s => s.admittedEventId = some u) with
  | nil => exact fun _ hmem => (List.not_mem_nil hmem).elim
  | cons a rest =>
    intro hpairwise hmem hkeys
    obtain ⟨hhead,-⟩ := List.pairwise_cons.mp hpairwise
    cases rest with
    | nil => rw [List.mem_singleton.mp hmem]
    | cons b rest =>
      exact absurd (hkeys b (by simp)) ((hhead b (by simp)).admittedEventId u (hkeys a (by simp)))

end ReceiptTable
end StreamingCompass
