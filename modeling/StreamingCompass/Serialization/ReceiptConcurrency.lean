import StreamingCompass.Interleaving.Interference
import StreamingCompass.Interleaving.OwnedRows
import StreamingCompass.Serialization.StoreRoundTrip

/-! # Concurrent receipt inserts

`PostgresDecisionReceiptStore.insert` statement by statement at READ COMMITTED. An INSERT that
meets the key of an open row waits for its transaction; every SELECT sees the rows committed by
then and those of its own transaction.
-/
namespace StreamingCompass.Serialization
open Interleaving

/-! ## The database -/

structure ReceiptDatabase (ι : Type) where
  receipts : OwnedRows ι DecisionReceiptRow
  acceptedEvents : List Uuid

inductive ReceiptStatement where
  | insert (receipt : DecisionReceipt) (evidenceSummary metadata : PyItems)
    (provenance : DecisionReceiptMaterializationProvenance) (now : ℤ)
  | selectByReceiptId (receiptId : Uuid)
  | selectAdmitted (acceptedEventId : Uuid)

/-- `fetchone()` -/
abbrev ReceiptStatement.Answer : ReceiptStatement → Type := fun _ => Option DecisionReceiptRow

namespace ReceiptDatabase
variable {ι : Type} [DecidableEq ι]

def seen (db : ReceiptDatabase ι) (i : ι) : ReceiptRows := ⟨db.receipts.visible i,db.acceptedEvents⟩

/-- What the unique indexes hold, open rows included. -/
def indexed (db : ReceiptDatabase ι) : ReceiptRows := ⟨db.receipts.rows,db.acceptedEvents⟩

/-- An INSERT goes by the indexes; it returns no row once a row in its way is visible, and waits
for a row that is not. -/
def insertReceipt (i : ι) (receipt : DecisionReceipt) (evidenceSummary metadata : PyItems)
    (provenance : DecisionReceiptMaterializationProvenance) (now : ℤ) (db : ReceiptDatabase ι) :
    Option (Except ReceiptStoreError (Option DecisionReceiptRow) × ReceiptDatabase ι) :=
  match executeInsert receipt evidenceSummary metadata provenance now db.indexed with
  | .error e => some (.error (.python e),db)
  | .ok (some row,_) => some (.ok (some row),{ db with receipts := db.receipts.add i row })
  | .ok (none,_) =>
    match executeInsert receipt evidenceSummary metadata provenance now (db.seen i) with
    | .ok (none,_) => some (.ok none,db)
    | _ => none

def execute (i : ι) :
    Semantics (ReceiptDatabase ι) ReceiptStatement ReceiptStatement.Answer ReceiptStoreError
  | .insert receipt evidenceSummary metadata provenance now, db =>
    insertReceipt i receipt evidenceSummary metadata provenance now db
  | .selectByReceiptId receiptId, db =>
    some (.ok ((db.seen i).rows.find? (fun row => row.receiptId = receiptId)),db)
  | .selectAdmitted acceptedEventId, db =>
    some (.ok ((db.seen i).rows.find? (fun row => row.admittedEventId = some acceptedEventId)),db)

end ReceiptDatabase

/-! ## The store -/

abbrev ReceiptRoutine (α : Type) : Type :=
  Routine ReceiptStatement ReceiptStatement.Answer ReceiptStoreError Unit α

namespace PostgresDecisionReceiptStore

/-- The record of a fetched row, if there is one. -/
def fetched : Option DecisionReceiptRow →
    Except PyException (Option (PersistedDecisionReceipt DecisionReceipt))
  | none => .ok none
  | some row => do .ok (some (← persistedDecisionReceiptFromRow row))

def loadByReceiptId (receiptId : Uuid) :
    ReceiptRoutine (Option (PersistedDecisionReceipt DecisionReceipt)) := do
  let row ← (Routine.perform (.selectByReceiptId receiptId) : ReceiptRoutine _)
  Routine.ofExcept (raising (fetched row))

def loadAdmittedWriteSideMaterializationByAcceptedEventId (acceptedEventId : Uuid) :
    ReceiptRoutine (Option (PersistedDecisionReceipt DecisionReceipt)) := do
  let row ← (Routine.perform (.selectAdmitted acceptedEventId) : ReceiptRoutine _)
  Routine.ofExcept (raising (fetched row))

/-- A row has the receipt's id: its payload decides. -/
def classifyById (receipt : DecisionReceipt) (payload : PyItems)
    (existing : PersistedDecisionReceipt DecisionReceipt) :
    ReceiptRoutine (DecisionReceiptInsertResult DecisionReceipt) := do
  if ← Routine.ofExcept (raising (sameVersionedPayload existing payload)) then
    pure ⟨.alreadyPresent,existing⟩
  else Routine.raise (.conflict
    ⟨.receiptIdContentConflict,receipt.receiptId,receipt.correlation.acceptedEventId⟩)

/-- No row has the receipt's id. -/
def classifyByProducer (receipt : DecisionReceipt) :
    ReceiptRoutine (DecisionReceiptInsertResult DecisionReceipt) :=
  let unclassified : PyException := .runtimeError
    ("DecisionReceipt insert returned no row and no existing receipt identity could be " ++
      "classified")
  match admittedWriteSideAcceptedEventId receipt with
  | none => Routine.raise (.python unclassified)
  | some acceptedEventId => do
    match ← loadAdmittedWriteSideMaterializationByAcceptedEventId acceptedEventId with
    | some _ => Routine.raise (.conflict
        ⟨.acceptedProducerIdentityConflict,receipt.receiptId,some acceptedEventId⟩)
    | none => Routine.raise (.python unclassified)

/-- What follows an INSERT that returned no row. -/
def classifyExisting (receipt : DecisionReceipt) (payload : PyItems) :
    ReceiptRoutine (DecisionReceiptInsertResult DecisionReceipt) := do
  match ← loadByReceiptId receipt.receiptId with
  | some existing => classifyById receipt payload existing
  | none => classifyByProducer receipt

def insert (receipt : DecisionReceipt) (provenance : DecisionReceiptMaterializationProvenance)
    (now : ℤ) : ReceiptRoutine (DecisionReceiptInsertResult DecisionReceipt) := do
  let payload ← Routine.ofExcept (raising (serializeDecisionReceipt receipt))
  let body ← Routine.ofExcept (raising (serializedReceiptBody payload))
  let evidenceSummary ← Routine.ofExcept (raising (getItem body "evidence_summary" >>=
    (serializedJsonObject · "evidence_summary")))
  let metadata ← Routine.ofExcept (raising (getItem body "metadata" >>=
    (serializedJsonObject · "metadata")))
  match ← (Routine.perform (.insert receipt evidenceSummary metadata provenance now) :
    ReceiptRoutine _) with
  | some row => do
    let record ← Routine.ofExcept (raising (persistedDecisionReceiptFromRow row))
    pure ⟨.inserted,record⟩
  | none => classifyExisting receipt payload

end PostgresDecisionReceiptStore

/-- The INSERT of a receipt whose payload was accepted. -/
def insertStatement (r : DecisionReceipt) (provenance : DecisionReceiptMaterializationProvenance)
    (now : ℤ) : ReceiptStatement :=
  .insert r (fieldsWithSequences .list r.evidenceSummary.items)
    (fieldsWithSequences .list r.metadata.items) provenance now

theorem insert_eq_statement {r : DecisionReceipt} (h : PortableReceipt r)
    (provenance : DecisionReceiptMaterializationProvenance) (now : ℤ) :
    PostgresDecisionReceiptStore.insert r provenance now =
      (Routine.perform (insertStatement r provenance now) : ReceiptRoutine _) >>= fun inserted =>
        match inserted with
        | some row => do
          let record ← Routine.ofExcept (raising (persistedDecisionReceiptFromRow row))
          pure ⟨.inserted,record⟩
        | none => PostgresDecisionReceiptStore.classifyExisting r r.payload := by
  have hserialize : serializeDecisionReceipt r = .ok r.payload :=
    serializeDecisionReceipt_eq_ok.mpr ⟨h,rfl⟩
  have hbody : serializedReceiptBody r.payload = .ok r.body := rfl
  have hevidence : getItem r.body "evidence_summary" =
      .ok (.mapping (fieldsWithSequences .list r.evidenceSummary.items)) := rfl
  have hmetadata : getItem r.body "metadata" =
      .ok (.mapping (fieldsWithSequences .list r.metadata.items)) := rfl
  rw [PostgresDecisionReceiptStore.insert, hserialize]
  simp only [raising, Routine.ofExcept_ok_bind, hbody, hevidence, hmetadata, ok_bind,
    serializedJsonObject]
  congr 1
  funext inserted
  cases inserted with
  | none => rfl
  | some row => rfl

/-! ## Stored receipts -/

def Stores (r : DecisionReceipt) (row : DecisionReceiptRow) : Prop :=
  ∃ provenance e m now, row = insertedRow r provenance e m now ∧
    e.loads = .mapping r.evidenceSummary.reloaded ∧ m.loads = .mapping r.metadata.reloaded

/-- Nested mappings have distinct keys, as every mapping of Python has. -/
structure DistinctNestedKeys (r : DecisionReceipt) : Prop where
  evidenceSummary : (PyValue.mapping r.evidenceSummary.items).All PyValue.DistinctKeys
  metadata : (PyValue.mapping r.metadata.items).All PyValue.DistinctKeys

theorem Stores.receiptId {r : DecisionReceipt} {row : DecisionReceiptRow} (h : Stores r row) :
    row.receiptId = r.receiptId := by
  obtain ⟨_,_,_,_,rfl,-⟩ := h
  rfl

theorem Stores.admittedEventId {r : DecisionReceipt} {row : DecisionReceiptRow} (h : Stores r row) :
    row.admittedEventId = admittedWriteSideAcceptedEventId r := by
  obtain ⟨_,_,_,_,rfl,-⟩ := h
  have hsource : r.evidenceSource.value = "WRITE_SIDE_ADMISSION" ↔
      r.evidenceSource = .writeSideAdmission :=
    ⟨fun h => PyEnum.value_injective h,fun h => h ▸ rfl⟩
  have hdisposition : r.admissionEvidence.map EventAdmissionDisposition.value =
      some "ADMITTED_TO_ACCEPTED_HISTORY" ↔ r.admissionEvidence = some .admittedToAcceptedHistory := by
    rw [Option.map_eq_some_iff]
    constructor
    · rintro ⟨d,hd,h⟩
      rw [hd, show d = .admittedToAcceptedHistory from PyEnum.value_injective h]
    · intro h
      exact ⟨_,h,rfl⟩
  simp only [DecisionReceiptRow.admittedEventId, insertedRow, admittedWriteSideAcceptedEventId,
    hsource, hdisposition]

theorem conflicts_iff {row other : DecisionReceiptRow} :
    row.conflicts other = true ↔ row.receiptId = other.receiptId ∨
      ∃ u, row.admittedEventId = some u ∧ other.admittedEventId = some u := by
  rw [DecisionReceiptRow.conflicts, Bool.or_eq_true, Bool.and_eq_true, beq_iff_eq, beq_iff_eq,
    Option.isSome_iff_exists]
  refine or_congr_right ⟨?_,?_⟩
  · rintro ⟨⟨u,hu⟩,heq⟩
    exact ⟨u,hu,heq ▸ hu⟩
  · rintro ⟨u,hu,hother⟩
    exact ⟨⟨u,hu⟩,hu.trans hother.symm⟩

theorem conflicts_comm {row other : DecisionReceiptRow} :
    row.conflicts other = other.conflicts row := by
  rw [Bool.eq_iff_iff, conflicts_iff, conflicts_iff]
  exact or_congr eq_comm (exists_congr fun _ => and_comm)

instance : Std.Symm (fun row other : DecisionReceiptRow => row.conflicts other = false) :=
  ⟨fun _ _ h => conflicts_comm.trans h⟩

theorem eq_of_admitted {rows : List DecisionReceiptRow}
    (h : rows.Pairwise (fun row other => row.conflicts other = false)) {row other : DecisionReceiptRow}
    {u : Uuid} (hrow : row ∈ rows) (hother : other ∈ rows) (hu : row.admittedEventId = some u)
    (hu' : other.admittedEventId = some u) : row = other := by
  by_contra hne
  have hapart := h.forall hrow hother hne
  rw [conflicts_iff.mpr (.inr ⟨u,hu,hu'⟩)] at hapart
  cases hapart

/-- Of rows that do not conflict one at most is admitted for an accepted event. -/
theorem admitted_le_one {rows : List DecisionReceiptRow}
    (h : rows.Pairwise (fun row other => row.conflicts other = false)) (u : Uuid) :
    (rows.filter (fun row => row.admittedEventId = some u)).length ≤ 1 := by
  have hpairwise := h.filter (fun row => row.admittedEventId = some u)
  have hkeys : ∀ row ∈ rows.filter (fun row => row.admittedEventId = some u),
      row.admittedEventId = some u := fun row hrow => of_decide_eq_true (List.mem_filter.mp hrow).2
  revert hpairwise hkeys
  cases rows.filter (fun row => row.admittedEventId = some u) with
  | nil => exact fun _ _ => Nat.zero_le 1
  | cons a rest =>
    intro hpairwise hkeys
    cases rest with
    | nil => exact le_rfl
    | cons b rest =>
      have hclash := (List.pairwise_cons.mp hpairwise).1 b (by simp)
      rw [conflicts_iff.mpr (.inr ⟨u,hkeys a (by simp),hkeys b (by simp)⟩)] at hclash
      cases hclash

theorem insertRow_table {t t' : ReceiptRows} {row : DecisionReceiptRow}
    {inserted : Option DecisionReceiptRow} (h : t.insertRow row = .ok (inserted,t')) :
    t' = { t with rows := t.rows ++ inserted.toList } := by
  unfold ReceiptRows.insertRow at h
  split at h
  · cases h
  · split at h
    · cases h
      simp
    · split at h
      · cases h
        rfl
      · cases h

theorem executeInsert_table {r : DecisionReceipt} {evidenceSummary metadata : PyItems}
    {provenance : DecisionReceiptMaterializationProvenance} {now : ℤ} {t t' : ReceiptRows}
    {inserted : Option DecisionReceiptRow}
    (h : executeInsert r evidenceSummary metadata provenance now t = .ok (inserted,t')) :
    t' = { t with rows := t.rows ++ inserted.toList } := by
  obtain ⟨e,-,h⟩ := bind_eq_ok.mp h
  obtain ⟨m,-,h⟩ := bind_eq_ok.mp h
  dsimp only at h
  split at h
  · cases h
  · split at h
    · exact insertRow_table h
    · cases h

/-- An INSERT that returns a row wrote it, and no row of the table was in its way. -/
theorem executeInsert_inserted {r : DecisionReceipt} (h : PortableReceipt r)
    {provenance : DecisionReceiptMaterializationProvenance} {now : ℤ} {t t' : ReceiptRows}
    {row : DecisionReceiptRow}
    (hrun : executeInsert r (fieldsWithSequences .list r.evidenceSummary.items)
      (fieldsWithSequences .list r.metadata.items) provenance now t = .ok (some row,t')) :
    Stores r row ∧ ∀ other ∈ t.rows, row.conflicts other = false := by
  obtain ⟨e,he,hloade⟩ :=
    dumps_loads ((all_jsonNode_withSequences .list _).mpr h.evidenceSummary.safe.nodes)
  obtain ⟨m,hm,hloadm⟩ :=
    dumps_loads ((all_jsonNode_withSequences .list _).mpr h.metadata.safe.nodes)
  rw [PyValue.withSequences] at he hm hloade hloadm
  rw [PyValue.reloaded_mapping] at hloade hloadm
  simp only [executeInsert, he, hm, ok_bind] at hrun
  split at hrun
  · cases hrun
  · split at hrun
    · unfold ReceiptRows.insertRow at hrun
      split at hrun
      · cases hrun
      · split at hrun
        · cases hrun
        · next hfree =>
          split at hrun
          · obtain ⟨hrow,-⟩ := Prod.mk.inj (Except.ok.inj hrun)
            obtain rfl := Option.some.inj hrow
            rw [Bool.not_eq_true, List.any_eq_false] at hfree
            exact ⟨⟨_,_,_,_,rfl,hloade,hloadm⟩,fun other hother =>
              Bool.eq_false_iff.mpr (hfree other hother)⟩
          · cases hrun
    · cases hrun

/-- The INSERT of a storable receipt whose event is accepted goes by the keys alone. -/
theorem executeInsert_storable {r : DecisionReceipt} (h : PortableReceipt r) (hs : Storable r)
    (provenance : DecisionReceiptMaterializationProvenance) (now : ℤ) :
    ∃ row, Stores r row ∧ ∀ t : ReceiptRows,
      (∀ u, r.correlation.acceptedEventId = some u → u ∈ t.acceptedEvents) →
      executeInsert r (fieldsWithSequences .list r.evidenceSummary.items)
          (fieldsWithSequences .list r.metadata.items) provenance now t =
        if t.rows.any row.conflicts then .ok (none,t)
        else .ok (some row,{ t with rows := t.rows ++ [row] }) := by
  obtain ⟨e,m,he,hm,hexecute⟩ := executeInsert_eq h hs
  refine ⟨insertedRow r provenance e m now,⟨_,_,_,_,rfl,he,hm⟩,fun t haccepted => ?_⟩
  have hall : r.correlation.acceptedEventId.all (fun u => t.acceptedEvents.contains u) = true := by
    cases hu : r.correlation.acceptedEventId with
    | none => rfl
    | some u => exact List.contains_iff_mem.mpr (haccepted u hu)
  rw [hexecute, hall, if_pos rfl]

theorem Stores.read {r : DecisionReceipt} {row : DecisionReceiptRow} (h : Stores r row)
    (hp : PortableReceipt r) {record : PersistedDecisionReceipt DecisionReceipt}
    (hread : persistedDecisionReceiptFromRow row = .ok record) :
    record.receipt = r.reread ∧ PortableReceipt r.reread := by
  obtain ⟨provenance,e,m,now,rfl,he,hm⟩ := h
  rw [persistedDecisionReceiptFromRow_insertedRow hp provenance now he hm] at hread
  obtain ⟨payload,hpayload,hrecord⟩ := bind_eq_ok.mp hread
  obtain rfl := Except.ok.inj hrecord
  exact ⟨rfl,(serializeDecisionReceipt_eq_ok.mp hpayload).1⟩

theorem Stores.read_eq {r : DecisionReceipt} {row : DecisionReceiptRow} (h : Stores r row)
    (hp : PortableReceipt r) (hreread : PortableReceipt r.reread) :
    ∃ record, persistedDecisionReceiptFromRow row = .ok record := by
  obtain ⟨provenance,e,m,now,rfl,he,hm⟩ := h
  rw [persistedDecisionReceiptFromRow_insertedRow hp provenance now he hm,
    serializeDecisionReceipt_eq_ok.mpr ⟨hreread,rfl⟩]
  exact ⟨_,rfl⟩

/-! ## Runs of the database -/

namespace ReceiptDatabase
variable {ι : Type} [DecidableEq ι] {i j : ι} {db db' : ReceiptDatabase ι} {r : DecisionReceipt}
  {provenance : DecisionReceiptMaterializationProvenance} {now : ℤ}

/-- The insert that wrote the row returned normally. -/
def Returned (row : DecisionReceiptRow) : Prop :=
  ∃ record, persistedDecisionReceiptFromRow row = .ok record

/-- What a connection may do: INSERT a receipt, commit inserts that returned, or roll back; and
the write side accepts events. -/
inductive Step (i : ι) : ReceiptDatabase ι → ReceiptDatabase ι → Prop where
  | insert {db db' : ReceiptDatabase ι} {r : DecisionReceipt}
    {provenance : DecisionReceiptMaterializationProvenance} {now : ℤ}
    {reply : Except ReceiptStoreError (Option DecisionReceiptRow)} (portable : PortableReceipt r)
    (keys : DistinctNestedKeys r)
    (executes : execute i (insertStatement r provenance now) db = some (reply,db')) : Step i db db'
  | commit {db : ReceiptDatabase ι} (returned : ∀ row, ⟨some i,row⟩ ∈ db.receipts → Returned row) :
    Step i db { db with receipts := db.receipts.commit i }
  | rollback {db : ReceiptDatabase ι} : Step i db { db with receipts := db.receipts.rollback i }
  | accept {db : ReceiptDatabase ι} (u : Uuid) :
    Step i db { db with acceptedEvents := u :: db.acceptedEvents }

def Others (i : ι) : ReceiptDatabase ι → ReceiptDatabase ι → Prop :=
  Relation.ReflTransGen (fun db db' => ∃ j, j ≠ i ∧ Step j db db')

def Evolves : ReceiptDatabase ι → ReceiptDatabase ι → Prop :=
  Relation.ReflTransGen (fun db db' => ∃ j, Step j db db')

def Reachable (db : ReceiptDatabase ι) : Prop := ∃ events, Evolves ⟨[],events⟩ db

theorem Others.evolves (h : Others i db db') : Evolves db db' := by
  induction h with
  | refl => exact .refl
  | tail _ hstep ih =>
    obtain ⟨j,-,hstep⟩ := hstep
    exact ih.tail ⟨j,hstep⟩

/-- An INSERT leaves the table alone or adds its row, which no row was in the way of. -/
theorem execute_insert {reply : Except ReceiptStoreError (Option DecisionReceiptRow)}
    (h : PortableReceipt r) (hrun : execute i (insertStatement r provenance now) db = some (reply,db')) :
    db' = db ∧ (∀ row, reply ≠ .ok (some row)) ∨ ∃ row, reply = .ok (some row) ∧ Stores r row ∧
      db' = { db with receipts := db.receipts.add i row } ∧
      ∀ other ∈ db.receipts.rows, row.conflicts other = false := by
  change insertReceipt i r _ _ provenance now db = some (reply,db') at hrun
  unfold insertReceipt at hrun
  split at hrun
  · cases hrun
    exact .inl ⟨rfl,by simp⟩
  · next row _ hinsert =>
    cases hrun
    obtain ⟨hstores,hfree⟩ := executeInsert_inserted h hinsert
    exact .inr ⟨row,rfl,hstores,rfl,hfree⟩
  · split at hrun
    · cases hrun
      exact .inl ⟨rfl,by simp⟩
    · cases hrun

/-- The unique indexes hold, every row is a receipt's, and the committed ones were returned. -/
structure Consistent (db : ReceiptDatabase ι) : Prop where
  apart : db.receipts.rows.Pairwise (fun row other => row.conflicts other = false)
  stored : ∀ row ∈ db.receipts.rows, ∃ r, PortableReceipt r ∧ DistinctNestedKeys r ∧ Stores r row
  returned : ∀ row, ⟨none,row⟩ ∈ db.receipts → Returned row

theorem Step.consistent (hs : Step i db db') (h : db.Consistent) : db'.Consistent := by
  cases hs with
  | @insert _ r _ _ _ hportable hkeys hexecutes =>
    obtain ⟨rfl,-⟩ | ⟨row,-,hstores,rfl,hfree⟩ := execute_insert hportable hexecutes
    · exact h
    · refine ⟨?_,?_,?_⟩
      · rw [OwnedRows.rows_add, List.pairwise_append]
        refine ⟨h.apart,List.pairwise_singleton ..,fun other hother new hnew => ?_⟩
        rw [List.mem_singleton.mp hnew, conflicts_comm]
        exact hfree other hother
      · intro new hnew
        rw [OwnedRows.rows_add, List.mem_append, List.mem_singleton] at hnew
        rcases hnew with hnew | rfl
        · exact h.stored new hnew
        · exact ⟨r,hportable,hkeys,hstores⟩
      · intro old hold
        rcases OwnedRows.mem_add.mp hold with hold | ⟨hnone,-⟩
        · exact h.returned old hold
        · cases hnone
  | commit hreturned =>
    refine ⟨?_,?_,fun row hrow => ?_⟩
    · rw [OwnedRows.rows_commit]
      exact h.apart
    · rw [OwnedRows.rows_commit]
      exact h.stored
    · rcases (OwnedRows.mem_commit.mp hrow).2 with hrow | ⟨-,hrow⟩
      · exact h.returned row hrow
      · exact hreturned row hrow
  | rollback =>
    refine ⟨h.apart.sublist OwnedRows.rows_rollback,fun row hrow => ?_,fun row hrow => ?_⟩
    · exact h.stored row (OwnedRows.rows_rollback.subset hrow)
    · exact h.returned row (OwnedRows.mem_rollback.mp hrow).1
  | accept u => exact ⟨h.apart,h.stored,h.returned⟩

theorem Evolves.consistent (hrun : Evolves db db') (h : db.Consistent) : db'.Consistent := by
  induction hrun with
  | refl => exact h
  | tail _ hstep ih =>
    obtain ⟨j,hstep⟩ := hstep
    exact hstep.consistent ih

theorem Reachable.consistent (h : db.Reachable) : db.Consistent := by
  obtain ⟨events,hrun⟩ := h
  apply hrun.consistent
  exact ⟨.nil,fun row hrow => absurd hrow List.not_mem_nil,fun row hrow => absurd hrow List.not_mem_nil⟩

theorem Step.committed (hs : Step i db db') :
    db.receipts.committed.Sublist db'.receipts.committed := by
  cases hs with
  | insert hportable _ hexecutes =>
    obtain ⟨rfl,-⟩ | ⟨row,-,-,rfl,-⟩ := execute_insert hportable hexecutes
    · exact .refl _
    · rw [OwnedRows.committed_add]
  | commit _ => exact OwnedRows.committed_commit
  | rollback => rw [OwnedRows.committed_rollback]
  | accept u => exact .refl _

theorem Evolves.committed (hrun : Evolves db db') :
    db.receipts.committed.Sublist db'.receipts.committed := by
  induction hrun with
  | refl => exact .refl _
  | tail _ hstep ih =>
    obtain ⟨j,hstep⟩ := hstep
    exact ih.trans hstep.committed

/-- What a transaction goes by is not taken from it by others. -/
structure Keeps (i : ι) (db db' : ReceiptDatabase ι) : Prop where
  visible : db.receipts.visible i ⊆ db'.receipts.visible i
  own : ∀ row, ⟨some i,row⟩ ∈ db'.receipts ↔ ⟨some i,row⟩ ∈ db.receipts
  accepted : db.acceptedEvents ⊆ db'.acceptedEvents

theorem Step.keeps (hs : Step j db db') (hj : j ≠ i) : Keeps i db db' := by
  have hne : (some i : Option ι) ≠ some j := fun heq => hj (Option.some.inj heq).symm
  cases hs with
  | insert hportable _ hexecutes =>
    obtain ⟨rfl,-⟩ | ⟨row,-,-,rfl,-⟩ := execute_insert hportable hexecutes
    · exact ⟨fun _ h => h,fun _ => Iff.rfl,fun _ h => h⟩
    · refine ⟨OwnedRows.visible_subset_add,fun other => ?_,fun _ h => h⟩
      rw [OwnedRows.mem_add]
      exact or_iff_left (fun h => hne h.1)
  | commit _ =>
    refine ⟨OwnedRows.visible_subset_commit hj,fun row => ?_,fun _ h => h⟩
    rw [OwnedRows.mem_commit]
    exact ⟨fun h => h.2.resolve_right nofun,fun h => ⟨hne,.inl h⟩⟩
  | rollback =>
    refine ⟨OwnedRows.visible_subset_rollback hj,fun row => ?_,fun _ h => h⟩
    rw [OwnedRows.mem_rollback]
    exact and_iff_left hne
  | accept u => exact ⟨fun _ h => h,fun _ => Iff.rfl,List.subset_cons_self _ _⟩

theorem Others.keeps (h : Others i db db') : Keeps i db db' := by
  induction h with
  | refl => exact ⟨fun _ h => h,fun _ => Iff.rfl,fun _ h => h⟩
  | tail _ hstep ih =>
    obtain ⟨j,hj,hstep⟩ := hstep
    have hkeeps := hstep.keeps hj
    exact ⟨fun _ h => hkeeps.visible (ih.visible h),fun row => (hkeeps.own row).trans (ih.own row),
      fun _ h => hkeeps.accepted (ih.accepted h)⟩

/-! ## The class of an insert -/

variable {others : ReceiptDatabase ι → ReceiptDatabase ι → Prop}

theorem amid_fetch {statement : ReceiptStatement} {answer : ReceiptDatabase ι → Option DecisionReceiptRow}
    (hserved : ∀ db, execute i statement db = some (.ok (answer db),db))
    {x : StoreResult (Option (PersistedDecisionReceipt DecisionReceipt))} :
    ((Routine.perform statement : ReceiptRoutine _) >>= fun row =>
        Routine.ofExcept (raising (PostgresDecisionReceiptStore.fetched row))).Amid (execute i) others ()
          db x () db' ↔
      others db db' ∧ x = raising (PostgresDecisionReceiptStore.fetched (answer db')) := by
  rw [Routine.amid_bind]
  constructor
  · rintro (⟨row,_,db₁,hrow,hdone⟩ | ⟨e,herror,-⟩)
    · obtain ⟨-,met,hmoved,hexecutes⟩ := Routine.amid_perform.mp hrow
      obtain ⟨rfl,-,rfl⟩ := Routine.amid_ofExcept.mp hdone
      rw [hserved] at hexecutes
      cases hexecutes
      exact ⟨hmoved,rfl⟩
    · obtain ⟨-,met,hmoved,hexecutes⟩ := Routine.amid_perform.mp herror
      rw [hserved] at hexecutes
      cases hexecutes
  · rintro ⟨hmoved,rfl⟩
    exact .inl ⟨_,(),db',Routine.amid_perform.mpr ⟨rfl,db',hmoved,hserved db'⟩,
      Routine.amid_ofExcept.mpr ⟨rfl,rfl,rfl⟩⟩

def findById (db : ReceiptDatabase ι) (i : ι) (receiptId : Uuid) : Option DecisionReceiptRow :=
  (db.seen i).rows.find? (fun row => row.receiptId = receiptId)

def findAdmitted (db : ReceiptDatabase ι) (i : ι) (u : Uuid) : Option DecisionReceiptRow :=
  (db.seen i).rows.find? (fun row => row.admittedEventId = some u)

theorem findById_eq_some {receiptId : Uuid} {row : DecisionReceiptRow}
    (h : db.findById i receiptId = some row) :
    row ∈ db.receipts.visible i ∧ row.receiptId = receiptId :=
  ⟨List.mem_of_find?_eq_some h,by simpa using List.find?_some h⟩

theorem findById_eq_none {receiptId : Uuid} (h : db.findById i receiptId = none) :
    ∀ row ∈ db.receipts.visible i, row.receiptId ≠ receiptId := by
  intro row hrow
  simpa using List.find?_eq_none.mp h row hrow

theorem findAdmitted_eq_some {u : Uuid} {row : DecisionReceiptRow}
    (h : db.findAdmitted i u = some row) :
    row ∈ db.receipts.visible i ∧ row.admittedEventId = some u :=
  ⟨List.mem_of_find?_eq_some h,by simpa using List.find?_some h⟩

theorem findAdmitted_eq_none {u : Uuid} (h : db.findAdmitted i u = none) :
    ∀ row ∈ db.receipts.visible i, row.admittedEventId ≠ some u := by
  intro row hrow
  simpa using List.find?_eq_none.mp h row hrow

theorem amid_loadByReceiptId {receiptId : Uuid}
    {x : StoreResult (Option (PersistedDecisionReceipt DecisionReceipt))} :
    (PostgresDecisionReceiptStore.loadByReceiptId receiptId).Amid (execute i) others () db x () db' ↔
      others db db' ∧ x = raising (PostgresDecisionReceiptStore.fetched (db'.findById i receiptId)) := by
  have hserved : ∀ db : ReceiptDatabase ι, execute i (.selectByReceiptId receiptId) db =
      some (.ok (db.findById i receiptId),db) := fun _ => rfl
  exact amid_fetch hserved

theorem amid_loadAdmitted {u : Uuid}
    {x : StoreResult (Option (PersistedDecisionReceipt DecisionReceipt))} :
    (PostgresDecisionReceiptStore.loadAdmittedWriteSideMaterializationByAcceptedEventId u).Amid
        (execute i) others () db x () db' ↔
      others db db' ∧ x = raising (PostgresDecisionReceiptStore.fetched (db'.findAdmitted i u)) := by
  have hserved : ∀ db : ReceiptDatabase ι, execute i (.selectAdmitted u) db =
      some (.ok (db.findAdmitted i u),db) := fun _ => rfl
  exact amid_fetch hserved

/-! ## A transaction alone

Without other connections the store is the one over a single table. -/

theorem loadByReceiptId_eq (receiptId : Uuid) (t : ReceiptRows) :
    loadByReceiptId receiptId t =
      PostgresDecisionReceiptStore.fetched (t.rows.find? (fun row => row.receiptId = receiptId)) := by
  unfold loadByReceiptId
  cases t.rows.find? (fun row => row.receiptId = receiptId) with
  | none => rfl
  | some row => rfl

theorem loadAdmitted_eq (u : Uuid) (t : ReceiptRows) :
    loadAdmittedWriteSideMaterializationByAcceptedEventId u t =
      PostgresDecisionReceiptStore.fetched (t.rows.find? (fun row => row.admittedEventId = some u)) := by
  unfold loadAdmittedWriteSideMaterializationByAcceptedEventId
  cases t.rows.find? (fun row => row.admittedEventId = some u) with
  | none => rfl
  | some row => rfl

theorem run_loadByReceiptId (receiptId : Uuid) :
    (PostgresDecisionReceiptStore.loadByReceiptId receiptId).run (execute i) () db =
      some ((raising (loadByReceiptId receiptId (db.seen i)),()),db) := by
  rw [loadByReceiptId_eq]
  rfl

theorem run_loadAdmitted (u : Uuid) :
    (PostgresDecisionReceiptStore.loadAdmittedWriteSideMaterializationByAcceptedEventId u).run (execute i)
      () db = some ((raising (loadAdmittedWriteSideMaterializationByAcceptedEventId u (db.seen i)),()),
        db) := by
  rw [loadAdmitted_eq]
  rfl

theorem run_classifyExisting (r : DecisionReceipt) (payload : PyItems) :
    (PostgresDecisionReceiptStore.classifyExisting r payload).run (execute i) () db =
      some ((classifyExisting r payload (db.seen i),()),db) := by
  rw [PostgresDecisionReceiptStore.classifyExisting, Routine.run_bind, run_loadByReceiptId,
    classifyExisting]
  cases loadByReceiptId r.receiptId (db.seen i) with
  | error e => rfl
  | ok existing =>
    simp only [raising, Option.bind_some, ok_bind]
    cases existing with
    | some existing =>
      simp only [PostgresDecisionReceiptStore.classifyById, Routine.run_bind, Routine.run_ofExcept,
        Option.bind_some]
      cases sameVersionedPayload existing payload with
      | error e => rfl
      | ok same => cases same <;> rfl
    | none =>
      simp only [PostgresDecisionReceiptStore.classifyByProducer]
      cases admittedWriteSideAcceptedEventId r with
      | none => rfl
      | some u =>
        simp only [Routine.run_bind, run_loadAdmitted, Option.bind_some]
        cases loadAdmittedWriteSideMaterializationByAcceptedEventId u (db.seen i) with
        | error e => rfl
        | ok found => cases found <;> rfl

theorem seen_eq_indexed (hsettled : ∀ x ∈ db.receipts, x.owner = none ∨ x.owner = some i) :
    db.seen i = db.indexed := by
  rw [seen, indexed, OwnedRows.visible_eq_rows hsettled]

/-- With no other transaction open an insert is the insert into the table its transaction sees. -/
theorem run_insert (hp : PortableReceipt r)
    (hsettled : ∀ x ∈ db.receipts, x.owner = none ∨ x.owner = some i) :
    ∃ db', (PostgresDecisionReceiptStore.insert r provenance now).run (execute i) () db =
        some (((insert r provenance now (db.seen i)).map Prod.fst,()),db') ∧
      ∀ result t, insert r provenance now (db.seen i) = .ok (result,t) → db'.seen i = t := by
  have hstatement : execute i (insertStatement r provenance now) db =
      insertReceipt i r (fieldsWithSequences .list r.evidenceSummary.items)
        (fieldsWithSequences .list r.metadata.items) provenance now db := rfl
  rw [insert_eq_statement hp, insert_eq hp, Routine.run_bind, Routine.run_perform, hstatement,
    insertReceipt, seen_eq_indexed hsettled]
  cases hinsert : executeInsert r (fieldsWithSequences .list r.evidenceSummary.items)
      (fieldsWithSequences .list r.metadata.items) provenance now db.indexed with
  | error e =>
    refine ⟨db,rfl,fun result t h => ?_⟩
    simp only [raising, error_bind, reduceCtorEq] at h
  | ok answer =>
    obtain ⟨inserted,t⟩ := answer
    obtain rfl := executeInsert_table hinsert
    cases inserted with
    | some row =>
      refine ⟨{ db with receipts := db.receipts.add i row },?_,fun result t h => ?_⟩
      · simp only [raising, ok_bind, Option.map_some, Option.bind_some, Routine.run_bind,
          Routine.run_ofExcept]
        cases persistedDecisionReceiptFromRow row with
        | error e => rfl
        | ok record => rfl
      · simp only [raising, ok_bind] at h
        obtain ⟨record,-,h⟩ := bind_eq_ok.mp h
        obtain rfl := (Prod.mk.inj (Except.ok.inj h)).2
        rw [seen, OwnedRows.visible_add, OwnedRows.visible_eq_rows hsettled]
        rfl
    | none =>
      rw [Option.toList_none, List.append_nil] at hinsert ⊢
      refine ⟨db,?_,fun result t h => ?_⟩
      · simp only [raising, ok_bind, Option.map_some, Option.bind_some, run_classifyExisting,
          seen_eq_indexed hsettled]
        cases classifyExisting r r.payload db.indexed with
        | error e => rfl
        | ok result => rfl
      · simp only [raising, ok_bind] at h
        obtain ⟨record,-,h⟩ := bind_eq_ok.mp h
        obtain rfl := (Prod.mk.inj (Except.ok.inj h)).2
        exact seen_eq_indexed hsettled

/-- The class of an insert by the tables at the INSERT, at the first lookup and at its end. -/
inductive Classified (i : ι) (r : DecisionReceipt) (met looked last : ReceiptDatabase ι) :
    StoreResult (DecisionReceiptInsertResult DecisionReceipt) → Prop where
  | inserted {row : DecisionReceiptRow} {record : PersistedDecisionReceipt DecisionReceipt}
    (unknown : ∀ other ∈ met.receipts.visible i, other.receiptId ≠ r.receiptId)
    (unadmitted : ∀ u, admittedWriteSideAcceptedEventId r = some u →
      ∀ other ∈ met.receipts.visible i, other.admittedEventId ≠ some u)
    (added : last = { met with receipts := met.receipts.add i row }) (stores : Stores r row)
    (read : persistedDecisionReceiptFromRow row = .ok record) :
    Classified i r met looked last (.ok ⟨.inserted,record⟩)
  | alreadyPresent {row : DecisionReceiptRow} {existing : PersistedDecisionReceipt DecisionReceipt}
    {content : PyItems} (found : row ∈ looked.receipts.visible i) (id : row.receiptId = r.receiptId)
    (read : persistedDecisionReceiptFromRow row = .ok existing)
    (serialized : serializeDecisionReceipt existing.receipt = .ok content)
    (same : (PyValue.mapping content).same (.mapping r.payload) = true) :
    Classified i r met looked last (.ok ⟨.alreadyPresent,existing⟩)
  | contentConflict {row : DecisionReceiptRow} {existing : PersistedDecisionReceipt DecisionReceipt}
    {content : PyItems} (found : row ∈ looked.receipts.visible i) (id : row.receiptId = r.receiptId)
    (read : persistedDecisionReceiptFromRow row = .ok existing)
    (serialized : serializeDecisionReceipt existing.receipt = .ok content)
    (different : (PyValue.mapping content).same (.mapping r.payload) = false) :
    Classified i r met looked last (.error (.conflict
      ⟨.receiptIdContentConflict,r.receiptId,r.correlation.acceptedEventId⟩))
  | producerConflict {row : DecisionReceiptRow} {u : Uuid}
    (unknown : ∀ other ∈ looked.receipts.visible i, other.receiptId ≠ r.receiptId)
    (admitted : admittedWriteSideAcceptedEventId r = some u) (found : row ∈ last.receipts.visible i)
    (other : row.receiptId ≠ r.receiptId) (event : row.admittedEventId = some u) :
    Classified i r met looked last (.error (.conflict
      ⟨.acceptedProducerIdentityConflict,r.receiptId,some u⟩))

/-- The inserts of an open transaction so far returned. -/
def OwnReturned (i : ι) (db : ReceiptDatabase ι) : Prop :=
  ∀ row, ⟨some i,row⟩ ∈ db.receipts → Returned row

theorem OwnReturned.keeps (h : OwnReturned i db) (hk : Keeps i db db') : OwnReturned i db' :=
  fun row hrow => h row ((hk.own row).mp hrow)

theorem Consistent.returned_visible (h : db.Consistent) (hown : OwnReturned i db)
    {row : DecisionReceiptRow} (hrow : row ∈ db.receipts.visible i) : Returned row := by
  rcases OwnedRows.mem_visible.mp hrow with hcommitted | hopen
  · exact h.returned row hcommitted
  · exact hown row hopen

/-- A lookup raises nothing. -/
theorem Consistent.fetched (h : db.Consistent) (hown : OwnReturned i db)
    {found : Option DecisionReceiptRow} (hfound : ∀ row, found = some row → row ∈ db.receipts.visible i) :
    ∃ record, PostgresDecisionReceiptStore.fetched found = .ok record := by
  cases found with
  | none => exact ⟨none,rfl⟩
  | some row =>
    obtain ⟨record,hread⟩ := h.returned_visible hown (hfound row rfl)
    rw [PostgresDecisionReceiptStore.fetched, hread]
    exact ⟨some record,rfl⟩

/-- The payload of a visible row compares as it should. -/
theorem Consistent.compared (h : db.Consistent) (hp : PortableReceipt r) (hkeys : DistinctNestedKeys r)
    {row : DecisionReceiptRow} (hrow : row ∈ db.receipts.visible i)
    {existing : PersistedDecisionReceipt DecisionReceipt}
    (hread : persistedDecisionReceiptFromRow row = .ok existing) :
    ∃ content, serializeDecisionReceipt existing.receipt = .ok content ∧
      sameVersionedPayload existing r.payload =
        .ok ((PyValue.mapping content).same (.mapping r.payload)) := by
  obtain ⟨s,hs,hskeys,hstores⟩ := h.stored row (OwnedRows.visible_sublist.subset hrow)
  obtain ⟨hreceipt,hreread⟩ := hstores.read hs hread
  have hcontent : serializeDecisionReceipt existing.receipt = .ok s.reread.payload := by
    rw [hreceipt]
    exact serializeDecisionReceipt_eq_ok.mpr ⟨hreread,rfl⟩
  refine ⟨_,hcontent,?_⟩
  rw [sameVersionedPayload, hcontent, ok_bind]
  exact sameSerialized_eq_same (readNode_payload hreread hskeys.evidenceSummary hskeys.metadata)
    (distinctKeys_payload hp hkeys.evidenceSummary hkeys.metadata)

/-- Some row a transaction sees keeps a receipt out. -/
def InTheWay (i : ι) (r : DecisionReceipt) (db : ReceiptDatabase ι) : Prop :=
  ∃ row ∈ db.receipts.visible i, row.receiptId = r.receiptId ∨
    ∃ u, admittedWriteSideAcceptedEventId r = some u ∧ row.admittedEventId = some u

section Lookups
variable {met : ReceiptDatabase ι} {x : StoreResult (DecisionReceiptInsertResult DecisionReceipt)}

theorem classifyById_classified (h : db.Consistent) (hp : PortableReceipt r)
    (hkeys : DistinctNestedKeys r) {row : DecisionReceiptRow} (hrow : row ∈ db.receipts.visible i)
    (hid : row.receiptId = r.receiptId) {existing : PersistedDecisionReceipt DecisionReceipt}
    (hread : persistedDecisionReceiptFromRow row = .ok existing)
    (hrun : (PostgresDecisionReceiptStore.classifyById r r.payload existing).Amid (execute i) others ()
      db x () db') : db' = db ∧ Classified i r met db db x := by
  obtain ⟨content,hcontent,hsame⟩ := h.compared hp hkeys hrow hread
  simp only [PostgresDecisionReceiptStore.classifyById, hsame, raising,
    Routine.ofExcept_ok_bind] at hrun
  split at hrun
  · next htrue =>
    obtain ⟨rfl,-,rfl⟩ := Routine.amid_pure.mp hrun
    exact ⟨rfl,.alreadyPresent hrow hid hread hcontent htrue⟩
  · next hfalse =>
    obtain ⟨rfl,-,rfl⟩ := Routine.amid_raise.mp hrun
    exact ⟨rfl,.contentConflict hrow hid hread hcontent (Bool.eq_false_iff.mpr hfalse)⟩

/-- The row in the way is the producer's, and the lookup finds it. -/
theorem classifyByProducer_classified (h : db.Consistent) (hown : OwnReturned i db)
    (hunknown : ∀ row ∈ db.receipts.visible i, row.receiptId ≠ r.receiptId) (hway : InTheWay i r db)
    (hrun : (PostgresDecisionReceiptStore.classifyByProducer r).Amid (execute i) (Others i) () db x ()
      db') : Others i db db' ∧ Classified i r met db db' x := by
  obtain ⟨row,hrow,hid | ⟨u,hu,hevent⟩⟩ := hway
  · exact absurd hid (hunknown row hrow)
  · simp only [PostgresDecisionReceiptStore.classifyByProducer, hu] at hrun
    rcases (Routine.amid_bind _ _).mp hrun with ⟨found,⟨⟩,last,hload,hrest⟩ | ⟨e,hload,-⟩
    · obtain ⟨hmoved,hfound⟩ := amid_loadAdmitted.mp hload
      have hlast := hmoved.evolves.consistent h
      have hvisible := hmoved.keeps.visible hrow
      cases hfind : last.findAdmitted i u with
      | none => exact absurd hevent (findAdmitted_eq_none hfind row hvisible)
      | some producer =>
        obtain ⟨hproducer,hkey⟩ := findAdmitted_eq_some hfind
        obtain rfl : producer = row := eq_of_admitted hlast.apart
          (OwnedRows.visible_sublist.subset hproducer) (OwnedRows.visible_sublist.subset hvisible)
          hkey hevent
        obtain ⟨record,hread⟩ := hlast.returned_visible (hown.keeps hmoved.keeps) hproducer
        rw [hfind, PostgresDecisionReceiptStore.fetched, hread] at hfound
        obtain rfl := Except.ok.inj hfound
        obtain ⟨rfl,-,rfl⟩ := Routine.amid_raise.mp hrest
        exact ⟨hmoved,.producerConflict hunknown hu hproducer (hunknown _ hrow) hkey⟩
    · obtain ⟨hmoved,herror⟩ := amid_loadAdmitted.mp hload
      obtain ⟨record,hrecord⟩ := (hmoved.evolves.consistent h).fetched (hown.keeps hmoved.keeps)
        (fun _ hfind => (findAdmitted_eq_some hfind).1)
      rw [hrecord] at herror
      cases herror

/-- The lookups find a class once some row is in the way. -/
theorem classifyExisting_classified (h : db.Consistent) (hown : OwnReturned i db)
    (hp : PortableReceipt r) (hkeys : DistinctNestedKeys r) (hway : InTheWay i r db)
    (hrun : (PostgresDecisionReceiptStore.classifyExisting r r.payload).Amid (execute i) (Others i) ()
      db x () db') :
    ∃ looked, Others i db looked ∧ Others i looked db' ∧ Classified i r db looked db' x := by
  rcases (Routine.amid_bind _ _).mp hrun with ⟨existing,⟨⟩,looked,hload,hrest⟩ | ⟨e,hload,-⟩
  · obtain ⟨hmoved,hexisting⟩ := amid_loadByReceiptId.mp hload
    have hlooked := hmoved.evolves.consistent h
    have hownLooked := hown.keeps hmoved.keeps
    refine ⟨looked,hmoved,?_⟩
    cases hfind : looked.findById i r.receiptId with
    | some row =>
      obtain ⟨hrow,hid⟩ := findById_eq_some hfind
      obtain ⟨record,hread⟩ := hlooked.returned_visible hownLooked hrow
      rw [hfind, PostgresDecisionReceiptStore.fetched, hread] at hexisting
      obtain rfl := Except.ok.inj hexisting
      obtain ⟨rfl,hclassified⟩ := classifyById_classified hlooked hp hkeys hrow hid hread hrest
      exact ⟨.refl,hclassified⟩
    | none =>
      rw [hfind] at hexisting
      obtain rfl := Except.ok.inj hexisting
      obtain ⟨row,hrow,hwhy⟩ := hway
      exact classifyByProducer_classified hlooked hownLooked (findById_eq_none hfind)
        ⟨row,hmoved.keeps.visible hrow,hwhy⟩ hrest
  · obtain ⟨hmoved,herror⟩ := amid_loadByReceiptId.mp hload
    obtain ⟨record,hrecord⟩ := (hmoved.evolves.consistent h).fetched (hown.keeps hmoved.keeps)
      (fun _ hfind => (findById_eq_some hfind).1)
    rw [hrecord] at herror
    cases herror

end Lookups

/-! ## Every insert -/

/-- An INSERT that returns no row has a visible row in its way. -/
theorem inTheWay_of_execute (h : PortableReceipt r) (hs : Storable r)
    (haccepted : ∀ u, r.correlation.acceptedEventId = some u → u ∈ db.acceptedEvents)
    (hrun : execute i (insertStatement r provenance now) db = some (.ok none,db')) :
    db' = db ∧ InTheWay i r db := by
  obtain ⟨row,hstores,hexecute⟩ := executeInsert_storable h hs provenance now
  have hsame : db' = db := by
    obtain ⟨hsame,-⟩ | ⟨row,hreply,-⟩ := execute_insert h hrun
    · exact hsame
    · cases hreply
  refine ⟨hsame,?_⟩
  change insertReceipt i r _ _ provenance now db = some (.ok none,db') at hrun
  unfold insertReceipt at hrun
  rw [hexecute db.indexed haccepted, hexecute (db.seen i) haccepted] at hrun
  by_cases hany : (db.seen i).rows.any row.conflicts = true
  · obtain ⟨other,hother,hconflicts⟩ := List.any_eq_true.mp hany
    refine ⟨other,hother,?_⟩
    rcases conflicts_iff.mp hconflicts with hid | ⟨u,hu,hu'⟩
    · exact .inl (hid.symm.trans hstores.receiptId)
    · exact .inr ⟨u,hstores.admittedEventId.symm.trans hu,hu'⟩
  · rw [if_neg hany] at hrun
    split at hrun
    · cases hrun
    · cases hrun
    · cases hrun

/-- An INSERT whose event is accepted raises nothing. -/
theorem execute_ne_error (h : PortableReceipt r) (hs : Storable r)
    (haccepted : ∀ u, r.correlation.acceptedEventId = some u → u ∈ db.acceptedEvents)
    (e : ReceiptStoreError) : execute i (insertStatement r provenance now) db ≠ some (.error e,db') := by
  obtain ⟨row,-,hexecute⟩ := executeInsert_storable h hs provenance now
  intro hrun
  change insertReceipt i r _ _ provenance now db = some (.error e,db') at hrun
  unfold insertReceipt at hrun
  rw [hexecute db.indexed haccepted, hexecute (db.seen i) haccepted] at hrun
  split_ifs at hrun <;> cases hrun

theorem insert_classified (h : db.Consistent) (hown : OwnReturned i db) (hp : PortableReceipt r)
    (hs : Storable r) (hkeys : DistinctNestedKeys r) (hreread : PortableReceipt r.reread)
    (haccepted : ∀ u, r.correlation.acceptedEventId = some u → u ∈ db.acceptedEvents)
    {x : StoreResult (DecisionReceiptInsertResult DecisionReceipt)}
    (hrun : (PostgresDecisionReceiptStore.insert r provenance now).Amid (execute i) (Others i) () db x
      () db') :
    Evolves db db' ∧ ∃ met looked, Others i db met ∧ Others i met looked ∧
      Classified i r met looked db' x := by
  rw [insert_eq_statement hp] at hrun
  rcases (Routine.amid_bind _ _).mp hrun with ⟨inserted,⟨⟩,db₁,hstatement,hrest⟩ | ⟨e,hstatement,-⟩
  · obtain ⟨-,met,hmoved,hexecutes⟩ := Routine.amid_perform.mp hstatement
    have hmet := hmoved.evolves.consistent h
    have hownMet := hown.keeps hmoved.keeps
    have hevent : ∀ u, r.correlation.acceptedEventId = some u → u ∈ met.acceptedEvents :=
      fun u hu => hmoved.keeps.accepted (haccepted u hu)
    cases inserted with
    | some row =>
      obtain ⟨-,hnone⟩ | ⟨_,hreply,hstores,rfl,hfree⟩ := execute_insert hp hexecutes
      · exact absurd rfl (hnone row)
      · obtain rfl := Option.some.inj (Except.ok.inj hreply)
        obtain ⟨record,hread⟩ := hstores.read_eq hp hreread
        simp only [hread, raising, Routine.ofExcept_ok_bind] at hrest
        obtain ⟨rfl,-,rfl⟩ := Routine.amid_pure.mp hrest
        refine ⟨hmoved.evolves.tail ⟨i,.insert hp hkeys hexecutes⟩,met,met,hmoved,.refl,?_⟩
        refine .inserted (fun other hother hid => ?_) (fun u hu other hother hevent => ?_) rfl hstores
          hread
        · have hapart := hfree other (OwnedRows.visible_sublist.subset hother)
          rw [conflicts_iff.mpr (.inl (hstores.receiptId.trans hid.symm))] at hapart
          cases hapart
        · have hapart := hfree other (OwnedRows.visible_sublist.subset hother)
          rw [conflicts_iff.mpr (.inr ⟨u,hstores.admittedEventId.trans hu,hevent⟩)] at hapart
          cases hapart
    | none =>
      obtain ⟨rfl,hway⟩ := inTheWay_of_execute hp hs hevent hexecutes
      obtain ⟨looked,hlooked,hlast,hclassified⟩ :=
        classifyExisting_classified hmet hownMet hp hkeys hway hrest
      exact ⟨hmoved.evolves.trans (hlooked.evolves.trans hlast.evolves),db₁,looked,hmoved,hlooked,
        hclassified⟩
  · obtain ⟨-,met,hmoved,hexecutes⟩ := Routine.amid_perform.mp hstatement
    exact absurd hexecutes (execute_ne_error hp hs
      (fun u hu => hmoved.keeps.accepted (haccepted u hu)) e)

/-! ## Every insert ends -/

/-- The other open transactions can be settled. -/
theorem exists_settled (i : ι) (db : ReceiptDatabase ι) :
    ∃ db₁, Others i db db₁ ∧ ∀ x ∈ db₁.receipts, x.owner = none ∨ x.owner = some i := by
  induction hn : db.receipts.length using Nat.strong_induction_on generalizing db with
  | _ n ih =>
    by_cases hsettled : ∀ x ∈ db.receipts, x.owner = none ∨ x.owner = some i
    · exact ⟨db,.refl,hsettled⟩
    · push Not at hsettled
      obtain ⟨x,hx,hopen,hother⟩ := hsettled
      obtain ⟨j,hj⟩ := Option.ne_none_iff_exists'.mp hopen
      have hfewer : (db.receipts.rollback j).length < db.receipts.length :=
        List.length_filter_lt_length_iff_exists.mpr ⟨x,hx,by simpa using hj⟩
      obtain ⟨db₁,hrun,hdone⟩ := ih _ (hn ▸ hfewer) { db with receipts := db.receipts.rollback j } rfl
      have hji : j ≠ i := by
        rintro rfl
        exact hother hj
      exact ⟨db₁,.head ⟨j,hji,.rollback⟩ hrun,hdone⟩

/-- With no other transaction open the INSERT does not wait. -/
theorem execute_settled (h : PortableReceipt r) (hs : Storable r)
    (haccepted : ∀ u, r.correlation.acceptedEventId = some u → u ∈ db.acceptedEvents)
    (hsettled : ∀ x ∈ db.receipts, x.owner = none ∨ x.owner = some i) :
    ∃ inserted db', execute i (insertStatement r provenance now) db = some (.ok inserted,db') := by
  obtain ⟨row,-,hexecute⟩ := executeInsert_storable h hs provenance now
  have hseen : db.seen i = db.indexed := seen_eq_indexed hsettled
  change ∃ inserted db', insertReceipt i r _ _ provenance now db = some (.ok inserted,db')
  unfold insertReceipt
  rw [hseen, hexecute db.indexed haccepted]
  by_cases hany : db.indexed.rows.any row.conflicts = true
  · rw [if_pos hany]
    exact ⟨_,_,rfl⟩
  · rw [if_neg hany]
    exact ⟨_,_,rfl⟩

/-- The statements after the INSERT are lookups, which never wait. -/
def lookups (i : ι) : Contract ReceiptStatement ReceiptStatement.Answer ReceiptStoreError where
  allowed _ _ _ := True
  guard _ statement := ∀ db : ReceiptDatabase ι, ∃ reply db', execute i statement db = some (reply,db')

theorem classifyById_meets (r : DecisionReceipt) (payload : PyItems)
    (existing : PersistedDecisionReceipt DecisionReceipt)
    (log : Log ReceiptStatement ReceiptStatement.Answer ReceiptStoreError) :
    (PostgresDecisionReceiptStore.classifyById r payload existing).Meets (lookups i) () log
      (fun _ _ _ => True) := by
  unfold PostgresDecisionReceiptStore.classifyById
  rw [Routine.meets_bind, Routine.meets_ofExcept]
  cases raising (sameVersionedPayload existing payload) with
  | error e => trivial
  | ok same => cases same <;> trivial

theorem fetch_meets {α : Type} {statement : ReceiptStatement}
    {next : Option (PersistedDecisionReceipt DecisionReceipt) → ReceiptRoutine α}
    {log : Log ReceiptStatement ReceiptStatement.Answer ReceiptStoreError}
    (hserved : ∀ db, ∃ reply db', execute i statement db = some (reply,db'))
    (hnext : ∀ record log, (next record).Meets (lookups i) () log (fun _ _ _ => True)) :
    (((Routine.perform statement : ReceiptRoutine _) >>= fun row =>
        Routine.ofExcept (raising (PostgresDecisionReceiptStore.fetched row))) >>= next).Meets
      (lookups i) () log (fun _ _ _ => True) := by
  rw [Routine.meets_bind, Routine.meets_bind, Routine.meets_perform]
  refine ⟨hserved,fun reply _ => ?_⟩
  cases reply with
  | error e => trivial
  | ok row =>
    dsimp only
    rw [Routine.meets_ofExcept]
    cases raising (PostgresDecisionReceiptStore.fetched row) with
    | error e => trivial
    | ok record => exact hnext record _

theorem classifyByProducer_meets (r : DecisionReceipt)
    (log : Log ReceiptStatement ReceiptStatement.Answer ReceiptStoreError) :
    (PostgresDecisionReceiptStore.classifyByProducer r).Meets (lookups i) () log
      (fun _ _ _ => True) := by
  unfold PostgresDecisionReceiptStore.classifyByProducer
  cases admittedWriteSideAcceptedEventId r with
  | none => trivial
  | some u =>
    apply fetch_meets (fun _ => ⟨_,_,rfl⟩)
    intro record log
    cases record with
    | none => trivial
    | some record => trivial

theorem classifyExisting_meets (r : DecisionReceipt) (payload : PyItems)
    (log : Log ReceiptStatement ReceiptStatement.Answer ReceiptStoreError) :
    (PostgresDecisionReceiptStore.classifyExisting r payload).Meets (lookups i) () log
      (fun _ _ _ => True) := by
  apply fetch_meets (fun _ => ⟨_,_,rfl⟩)
  intro record log
  cases record with
  | none => exact classifyByProducer_meets r log
  | some record => exact classifyById_meets r payload record log

theorem exists_insert (hp : PortableReceipt r) (hs : Storable r) (hreread : PortableReceipt r.reread)
    (haccepted : ∀ u, r.correlation.acceptedEventId = some u → u ∈ db.acceptedEvents) :
    ∃ x db', (PostgresDecisionReceiptStore.insert r provenance now).Amid (execute i) (Others i) () db x
      () db' := by
  obtain ⟨db₁,hmoved,hsettled⟩ := exists_settled i db
  obtain ⟨inserted,db₂,hexecutes⟩ := @execute_settled _ _ i db₁ r provenance now hp hs
    (fun u hu => hmoved.keeps.accepted (haccepted u hu)) hsettled
  rw [insert_eq_statement hp]
  have hstatement : (Routine.perform (insertStatement r provenance now)).Amid (execute i) (Others i) ()
      db (.ok inserted) () db₂ := Routine.amid_perform.mpr ⟨rfl,db₁,hmoved,hexecutes⟩
  cases inserted with
  | some row =>
    obtain ⟨-,hnone⟩ | ⟨_,hreply,hstores,-⟩ := execute_insert hp hexecutes
    · exact absurd rfl (hnone row)
    · obtain rfl := Option.some.inj (Except.ok.inj hreply)
      obtain ⟨record,hread⟩ := hstores.read_eq hp hreread
      refine ⟨.ok ⟨.inserted,record⟩,db₂,(Routine.amid_bind _ _).mpr (.inl ⟨_,_,db₂,hstatement,?_⟩)⟩
      simp only [hread, raising, Routine.ofExcept_ok_bind]
      exact Routine.amid_pure.mpr ⟨rfl,rfl,rfl⟩
  | none =>
    obtain ⟨⟨x,⟨⟩⟩,db',hrest⟩ :=
      @Program.Meets.exists_amid _ _ _ _ _ (execute i) (Others i) db₂ _ _ _ _
        (classifyExisting_meets r r.payload []) (fun _ => .refl)
        (fun _ _ db hguard => by
          obtain ⟨reply,db',hreply⟩ := hguard db
          exact ⟨reply,db',hreply,trivial⟩)
    exact ⟨x,db',(Routine.amid_bind _ _).mpr (.inl ⟨_,_,db₂,hstatement,hrest⟩)⟩

/-- The row of a receipt, committed into an empty table. -/
theorem exists_reachable (i : ι) (provenance : DecisionReceiptMaterializationProvenance) (now : ℤ)
    (hp : PortableReceipt r) (hs : Storable r) (hkeys : DistinctNestedKeys r)
    (hreread : PortableReceipt r.reread) {events : List Uuid}
    (haccepted : ∀ u, r.correlation.acceptedEventId = some u → u ∈ events) :
    ∃ row, Reachable (⟨[⟨none,row⟩],events⟩ : ReceiptDatabase ι) := by
  obtain ⟨row,hstores,hinsert⟩ := executeInsert_storable hp hs provenance now
  have hexecute : execute i (insertStatement r provenance now) ⟨[],events⟩ =
      some (.ok (some row),⟨[⟨some i,row⟩],events⟩) := by
    change insertReceipt i r _ _ provenance now ⟨[],events⟩ = _
    unfold insertReceipt
    rw [hinsert _ haccepted]
    rfl
  have hreturned : ∀ row', ⟨some i,row'⟩ ∈ (⟨[⟨some i,row⟩],events⟩ : ReceiptDatabase ι).receipts →
      Returned row' := by
    intro row' hrow'
    obtain rfl := (OwnedRow.mk.inj (List.mem_singleton.mp hrow')).2
    exact hstores.read_eq hp hreread
  have hcommit : OwnedRows.commit [⟨some i,row⟩] i = [⟨none,row⟩] := by
    simp [OwnedRows.commit, OwnedRows.settle]
  refine ⟨row,events,.head ⟨i,.insert hp hkeys hexecute⟩ (.single ⟨i,?_⟩)⟩
  rw [← hcommit]
  exact .commit hreturned

/-- An insert can always end, and however it ends amid the other connections it has one of the
four classes; committed rows stay as they are, and no event is ever admitted twice. -/
theorem insert_classifies (i : ι) (provenance : DecisionReceiptMaterializationProvenance) (now : ℤ)
    (hdb : db.Reachable) (hown : OwnReturned i db) {payload : PyItems}
    (h : serializeDecisionReceipt r = .ok payload) (hs : Storable r) (hkeys : DistinctNestedKeys r)
    (hreread : PortableReceipt r.reread)
    (haccepted : ∀ u, r.correlation.acceptedEventId = some u → u ∈ db.acceptedEvents) :
    (∃ x db', (PostgresDecisionReceiptStore.insert r provenance now).Amid (execute i) (Others i) () db x
      () db') ∧
    (∀ x db', (PostgresDecisionReceiptStore.insert r provenance now).Amid (execute i) (Others i) () db x
      () db' → Evolves db db' ∧ ∃ met looked, Others i db met ∧ Others i met looked ∧
        Classified i r met looked db' x) ∧
    ∀ db', Evolves db db' → db.receipts.committed.Sublist db'.receipts.committed ∧
      ∀ u, (db'.receipts.rows.filter (fun row => row.admittedEventId = some u)).length ≤ 1 := by
  obtain ⟨hp,-⟩ := serializeDecisionReceipt_eq_ok.mp h
  have hconsistent := hdb.consistent
  refine ⟨exists_insert hp hs hreread haccepted,fun x db' hrun => ?_,fun db' hrun => ?_⟩
  · exact insert_classified hconsistent hown hp hs hkeys hreread haccepted hrun
  · exact ⟨hrun.committed,admitted_le_one (hrun.consistent hconsistent).apart⟩

end ReceiptDatabase

open ReceiptDatabase in
/-- The payment's receipt, after another connection has inserted and committed it. -/
theorem insert_classifies_payment :
    ∃ db : ReceiptDatabase Bool, db.Reachable ∧ db.receipts.committed.length = 1 ∧
      (∃ x db', (PostgresDecisionReceiptStore.insert payment .liveResult 0).Amid (execute false)
        (Others false) () db x () db') ∧
      ∀ x db', (PostgresDecisionReceiptStore.insert payment .liveResult 0).Amid (execute false)
        (Others false) () db x () db' → Evolves db db' ∧ ∃ met looked, Others false db met ∧
          Others false met looked ∧ Classified false payment met looked db' x := by
  have hserialize : serializeDecisionReceipt payment = .ok payment.payload := rfl
  have hstorable : Storable payment := ⟨by decide,by decide +kernel,by decide +kernel⟩
  have hkeys : DistinctNestedKeys payment := ⟨by decide +kernel,by decide +kernel⟩
  have hsmall : SmallFloats payment := ⟨by decide +kernel,by decide +kernel⟩
  have hp := (serializeDecisionReceipt_eq_ok.mp hserialize).1
  have hreread := portableReceipt_reread hp hsmall
  have haccepted : ∀ u, payment.correlation.acceptedEventId = some u → u ∈ [(⟨3,by decide⟩ : Uuid)] :=
    fun u hu => List.mem_singleton.mpr (Option.some.inj hu).symm
  obtain ⟨row,hreachable⟩ := exists_reachable true .liveResult 0 hp hstorable hkeys hreread haccepted
  obtain ⟨hends,hclassified,-⟩ := insert_classifies false .liveResult 0 hreachable
    (fun _ hrow => nomatch (OwnedRow.mk.inj (List.mem_singleton.mp hrow)).1) hserialize hstorable
    hkeys hreread haccepted
  exact ⟨_,hreachable,rfl,hends,hclassified⟩

/-- The payment with a cost beyond 64 bits among its evidence. -/
def hugeCost : DecisionReceipt :=
  { payment with
    evidenceSummary := .ofFrozen (dict [("cost",.int ⟨2^63,true⟩)]) "evidence_summary" rfl }

open ReceiptDatabase in
/-- A receipt that version 1 of the serialization refuses ends in none of the classes. -/
theorem huge_cost_refused :
    Reachable (⟨[],[⟨3,by decide⟩]⟩ : ReceiptDatabase Unit) ∧
      hugeCost.correlation.acceptedEventId = some ⟨3,by decide⟩ ∧
      ∃ e, (PostgresDecisionReceiptStore.insert hugeCost .liveResult 0).Amid (execute ())
          (Others ()) () (⟨[],[⟨3,by decide⟩]⟩ : ReceiptDatabase Unit) (.error (.python e)) ()
          ⟨[],[⟨3,by decide⟩]⟩ ∧
        ∀ met looked last, ¬ Classified () hugeCost met looked last (.error (.python e)) := by
  have hrefused : ∃ e, serializeDecisionReceipt hugeCost = .error e := ⟨_,rfl⟩
  obtain ⟨e,he⟩ := hrefused
  refine ⟨⟨_,.refl⟩,rfl,e,?_,fun met looked last h => nomatch h⟩
  refine (Routine.amid_bind _ _).mpr (.inr ⟨_,Routine.amid_ofExcept.mpr ⟨?_,rfl,rfl⟩,rfl⟩)
  rw [he]
  rfl

end StreamingCompass.Serialization
