import Mathlib.Data.List.Sort
import StreamingCompass.Interleaving.Interference
import StreamingCompass.Projection.Snapshot
import StreamingCompass.Storage.Database

/-! # Saving snapshots

`PostgresProjectionSnapshotStore.save_snapshot` over the table of migration 004. The INSERT
skips a row that collides under any of four unique keys, and the rows at the source boundary
then decide whether the save was already done. The free-form metadata and the creation time
are left out: nothing compares them.
-/
namespace StreamingCompass
open Interleaving

/-! ## The table -/

/-- Storing a parameter in an INTEGER or a BIGINT column. -/
def integerColumn (type : String) (bits : ℕ) (n : ℤ) : Except PyException ℤ :=
  if -2^(bits-1) ≤ n ∧ n < 2^(bits-1) then .ok n
  else .error (.databaseError "22003" (type ++ " out of range"))

/-- The whole record of `ProjectionSnapshot`. -/
structure ProjectionSnapshotRecord extends ProjectionSnapshot where
  payloadHash : String
  createdBy : String
deriving DecidableEq, Repr

structure ProjectionSnapshotRow where
  snapshotId : Uuid
  orderId : String
  sourceEventId : String
  sourceEventSequence : ℤ
  sourceGlobalPosition : ℤ
  stateStatus : String
  totalAmount : Numeric
  paidAmount : Numeric
  stateVersion : ℤ
  snapshotSchemaVersion : ℤ
  reducerVersion : String
  payloadHash : String
  createdBy : String
deriving DecidableEq

def ProjectionSnapshotRow.checks (row : ProjectionSnapshotRow) : List (String × Bool) :=
  [("ck_projection_snapshots_created_by_not_empty",trimNotEmpty row.createdBy),
    ("ck_projection_snapshots_order_id_not_empty",trimNotEmpty row.orderId),
    ("ck_projection_snapshots_paid_amount_non_negative",Numeric.zero.le row.paidAmount),
    ("ck_projection_snapshots_paid_amount_not_greater_than_total",row.paidAmount.le row.totalAmount),
    ("ck_projection_snapshots_payload_hash_not_empty",trimNotEmpty row.payloadHash),
    ("ck_projection_snapshots_reducer_version_not_empty",trimNotEmpty row.reducerVersion),
    ("ck_projection_snapshots_schema_version_positive",decide (0 < row.snapshotSchemaVersion)),
    ("ck_projection_snapshots_source_event_sequence_positive",decide (0 < row.sourceEventSequence)),
    ("ck_projection_snapshots_source_global_position_positive",decide (0 < row.sourceGlobalPosition)),
    ("ck_projection_snapshots_state_status_valid",decide (row.stateStatus ∈ ["CREATED","PAID"])),
    ("ck_projection_snapshots_state_version_non_negative",decide (0 ≤ row.stateVersion)),
    ("ck_projection_snapshots_state_version_not_ahead_of_source_seq",
      decide (row.stateVersion ≤ row.sourceEventSequence)),
    ("ck_projection_snapshots_total_amount_non_negative",Numeric.zero.le row.totalAmount)]

def proposedRow (s : ProjectionSnapshotRecord) : Except PyException ProjectionSnapshotRow := do
  if [s.orderId,s.stateStatus,s.reducerVersion,s.payloadHash,s.createdBy].any hasNul then
    .error nulInText
  else
    let sourceEventSequence ← integerColumn "integer" 32 s.sourceEventSequence
    let sourceGlobalPosition ← integerColumn "bigint" 64 s.sourceGlobalPosition
    let totalAmount ← Numeric.ofDecimal s.totalAmount
    let paidAmount ← Numeric.ofDecimal s.paidAmount
    let stateVersion ← integerColumn "integer" 32 s.stateVersion
    let snapshotSchemaVersion ← integerColumn "integer" 32 s.snapshotSchemaVersion
    let row : ProjectionSnapshotRow := ⟨s.snapshotId,s.orderId,s.sourceEventId,sourceEventSequence,
      sourceGlobalPosition,s.stateStatus,totalAmount,paidAmount,stateVersion,snapshotSchemaVersion,
      s.reducerVersion,s.payloadHash,s.createdBy⟩
    match failedCheck "projection_snapshots" row.checks with
    | some e => .error e
    | none => .ok row

/-- A row with the source event, the position or the place in the order of another. -/
def ProjectionSnapshotRow.atBoundary (row : ProjectionSnapshotRow) (sourceEventId : String)
    (sourceGlobalPosition : ℤ) (orderId : String) (sourceEventSequence : ℤ) : Bool :=
  decide (row.sourceEventId = sourceEventId ∨ row.sourceGlobalPosition = sourceGlobalPosition ∨
    row.orderId = orderId ∧ row.sourceEventSequence = sourceEventSequence)

/-- Two rows collide under the primary key or a unique constraint. -/
def ProjectionSnapshotRow.collides (row other : ProjectionSnapshotRow) : Bool :=
  decide (row.snapshotId = other.snapshotId) ||
    row.atBoundary other.sourceEventId other.sourceGlobalPosition other.orderId
      other.sourceEventSequence

abbrev SnapshotTable : Type := List ProjectionSnapshotRow

/-- `INSERT ... ON CONFLICT DO NOTHING`: whether a row was inserted, and the table after. -/
def SnapshotTable.insert (t : SnapshotTable) (s : ProjectionSnapshotRecord) :
    Except PyException (Bool × SnapshotTable) := do
  let row ← proposedRow s
  if t.any (fun other => other.collides row) then .ok (false,t) else .ok (true,t ++ [row])

/-- `ORDER BY source_global_position DESC` of the rows at a boundary. -/
def SnapshotTable.boundary (t : SnapshotTable) (s : ProjectionSnapshotRecord) : SnapshotTable :=
  (t.filter (fun row => row.atBoundary s.sourceEventId s.sourceGlobalPosition s.orderId
    s.sourceEventSequence)).mergeSort
      (fun a b => decide (b.sourceGlobalPosition ≤ a.sourceGlobalPosition))

/-! ## The store -/

inductive SnapshotOp where
  | insert (s : ProjectionSnapshotRecord)
  | boundary (s : ProjectionSnapshotRecord)

def SnapshotOp.Answer : SnapshotOp → Type
  | .insert _ => Bool
  | .boundary _ => List ProjectionSnapshotRow

/-- The table as the connection finds it at each statement. -/
def serveSnapshots : Semantics SnapshotTable SnapshotOp SnapshotOp.Answer PyException
  | .insert s, t => match t.insert s with
    | .ok (inserted,t') => some (.ok inserted,t')
    | .error e => some (.error e,t)
  | .boundary s, t => some (.ok (t.boundary s),t)

abbrev SnapshotRoutine (α : Type) : Type :=
  Routine SnapshotOp SnapshotOp.Answer PyException Unit α

/-- `_projection_snapshot_from_row` -/
def projectionSnapshotFromRow (row : ProjectionSnapshotRow) : ProjectionSnapshotRecord where
  snapshotId := row.snapshotId
  orderId := row.orderId
  sourceEventId := row.sourceEventId
  sourceEventSequence := row.sourceEventSequence
  sourceGlobalPosition := row.sourceGlobalPosition
  stateStatus := row.stateStatus
  totalAmount := row.totalAmount.toDecimal
  paidAmount := row.paidAmount.toDecimal
  stateVersion := row.stateVersion
  snapshotSchemaVersion := row.snapshotSchemaVersion
  reducerVersion := row.reducerVersion
  payloadHash := row.payloadHash
  createdBy := row.createdBy

/-- `_same_source_boundary` -/
def sameSourceBoundary (existing incoming : ProjectionSnapshotRecord) : Bool :=
  existing.orderId == incoming.orderId && existing.sourceEventId == incoming.sourceEventId &&
    existing.sourceEventSequence == incoming.sourceEventSequence &&
    existing.sourceGlobalPosition == incoming.sourceGlobalPosition

/-- `_same_snapshot_evidence` -/
def sameSnapshotEvidence (existing incoming : ProjectionSnapshotRecord) : Bool :=
  sameSourceBoundary existing incoming &&
    existing.snapshotSchemaVersion == incoming.snapshotSchemaVersion &&
    existing.reducerVersion == incoming.reducerVersion &&
    existing.payloadHash == incoming.payloadHash

namespace PostgresProjectionSnapshotStore

def snapshotWriteCollisionError (message : String) : PyException :=
  .other "SnapshotWriteCollisionError" message

/-- `_insert_snapshot` -/
def insertSnapshot (s : ProjectionSnapshotRecord) : SnapshotRoutine Bool :=
  Routine.perform (SnapshotOp.insert s)

/-- `_load_existing_source_boundary_snapshots` -/
def loadExistingSourceBoundarySnapshots (s : ProjectionSnapshotRecord) :
    SnapshotRoutine (List ProjectionSnapshotRecord) := do
  let rows ← (Routine.perform (SnapshotOp.boundary s) : SnapshotRoutine (List ProjectionSnapshotRow))
  pure (rows.map projectionSnapshotFromRow)

def saveSnapshot (s : ProjectionSnapshotRecord) : SnapshotRoutine Unit := do
  let inserted ← insertSnapshot s
  if inserted then pure ()
  else
    let existingSnapshots ← loadExistingSourceBoundarySnapshots s
    if existingSnapshots.isEmpty then
      Routine.raise (snapshotWriteCollisionError ("Projection snapshot insert conflicted, but no " ++
        "matching source-boundary snapshot could be found."))
    else if existingSnapshots.all (fun existing => sameSnapshotEvidence existing s) then pure ()
    else Routine.raise (snapshotWriteCollisionError ("Projection snapshot source boundary already " ++
      "exists with different lineage or payload evidence."))

end PostgresProjectionSnapshotStore

/-! ## Proposed rows -/

theorem integerColumn_eq_ok {type : String} {bits : ℕ} {n m : ℤ}
    (h : integerColumn type bits n = .ok m) : m = n := by
  unfold integerColumn at h
  split at h
  · exact (Except.ok.inj h).symm
  · cases h

namespace ProjectionSnapshotRow

/-- The order, source event, sequence and position of a snapshot. -/
def SameBoundary (row : ProjectionSnapshotRow) (s : ProjectionSnapshotRecord) : Prop :=
  row.orderId = s.orderId ∧ row.sourceEventId = s.sourceEventId ∧
    row.sourceEventSequence = s.sourceEventSequence ∧ row.sourceGlobalPosition = s.sourceGlobalPosition

/-- The boundary, both versions and the hash. -/
structure SameEvidence (row : ProjectionSnapshotRow) (s : ProjectionSnapshotRecord) : Prop where
  boundary : row.SameBoundary s
  schema : row.snapshotSchemaVersion = s.snapshotSchemaVersion
  reducer : row.reducerVersion = s.reducerVersion
  hash : row.payloadHash = s.payloadHash

/-- The state of a snapshot, its amounts as the columns store them. -/
structure SameState (row : ProjectionSnapshotRow) (s : ProjectionSnapshotRecord) : Prop where
  status : row.stateStatus = s.stateStatus
  total : Numeric.ofDecimal s.totalAmount = .ok row.totalAmount
  paid : Numeric.ofDecimal s.paidAmount = .ok row.paidAmount
  version : row.stateVersion = s.stateVersion

end ProjectionSnapshotRow

theorem proposedRow_eq_ok {s : ProjectionSnapshotRecord} {row : ProjectionSnapshotRow}
    (h : proposedRow s = .ok row) :
    row.snapshotId = s.snapshotId ∧ row.SameEvidence s ∧ row.SameState s := by
  unfold proposedRow at h
  split at h
  · cases h
  · obtain ⟨sequence,hsequence,h⟩ := bind_eq_ok.mp h
    obtain ⟨position,hposition,h⟩ := bind_eq_ok.mp h
    obtain ⟨total,htotal,h⟩ := bind_eq_ok.mp h
    obtain ⟨paid,hpaid,h⟩ := bind_eq_ok.mp h
    obtain ⟨version,hversion,h⟩ := bind_eq_ok.mp h
    obtain ⟨schema,hschema,h⟩ := bind_eq_ok.mp h
    obtain rfl := integerColumn_eq_ok hsequence
    obtain rfl := integerColumn_eq_ok hposition
    obtain rfl := integerColumn_eq_ok hversion
    obtain rfl := integerColumn_eq_ok hschema
    dsimp only at h
    split at h
    · cases h
    · obtain rfl := Except.ok.inj h
      exact ⟨rfl,⟨⟨rfl,rfl,rfl,rfl⟩,rfl,rfl,rfl⟩,⟨rfl,htotal,hpaid,rfl⟩⟩

namespace SnapshotTable

/-- The rows a save reads back after its INSERT was skipped. -/
theorem mem_boundary {t : SnapshotTable} {s : ProjectionSnapshotRecord} {row : ProjectionSnapshotRow} :
    row ∈ t.boundary s ↔ row ∈ t ∧ row.atBoundary s.sourceEventId s.sourceGlobalPosition s.orderId
      s.sourceEventSequence = true := by
  rw [boundary, List.mem_mergeSort, List.mem_filter]

/-- Some row keeps a proposed row out. -/
def Skips (t : SnapshotTable) (s : ProjectionSnapshotRecord) : Prop :=
  ∃ row, proposedRow s = .ok row ∧ ∃ other ∈ t, other.collides row = true

theorem insert_eq_ok {t t' : SnapshotTable} {s : ProjectionSnapshotRecord} {inserted : Bool} :
    t.insert s = .ok (inserted,t') ↔
      (inserted = true ∧ ∃ row, proposedRow s = .ok row ∧ t' = t ++ [row] ∧
          ∀ other ∈ t, other.collides row = false) ∨
        inserted = false ∧ t.Skips s ∧ t' = t := by
  constructor
  · intro h
    obtain ⟨row,hrow,h⟩ := bind_eq_ok.mp h
    split at h
    · next hcollides =>
      obtain ⟨rfl,rfl⟩ := Prod.mk.inj (Except.ok.inj h)
      exact .inr ⟨rfl,⟨row,hrow,List.any_eq_true.mp hcollides⟩,rfl⟩
    · next hfree =>
      obtain ⟨rfl,rfl⟩ := Prod.mk.inj (Except.ok.inj h)
      rw [Bool.not_eq_true, List.any_eq_false] at hfree
      exact .inl ⟨rfl,row,hrow,rfl,fun other hother => Bool.eq_false_iff.mpr (hfree other hother)⟩
  · rintro (⟨rfl,row,hrow,rfl,hfree⟩ | ⟨rfl,⟨row,hrow,hcollides⟩,rfl⟩)
    · apply bind_eq_ok.mpr ⟨row,hrow,_⟩
      rw [if_neg]
      simpa using hfree
    · apply bind_eq_ok.mpr ⟨row,hrow,_⟩
      rw [if_pos (List.any_eq_true.mpr hcollides)]

/-- A table that saves, deletions and rollbacks leave behind. -/
inductive Reachable (saved : ProjectionSnapshotRecord → Prop) : SnapshotTable → Prop where
  | empty : Reachable saved []
  | inserted {t t' : SnapshotTable} {s : ProjectionSnapshotRecord} (h : Reachable saved t)
    (hs : saved s) (insert : t.insert s = .ok (true,t')) : Reachable saved t'
  | removed {t t' : SnapshotTable} (h : Reachable saved t) (fewer : t'.Sublist t) : Reachable saved t'

/-- Every row is the one a saved snapshot proposed. -/
theorem Reachable.proposed {saved : ProjectionSnapshotRecord → Prop} {t : SnapshotTable}
    (h : Reachable saved t) : ∀ row ∈ t, ∃ s, saved s ∧ proposedRow s = .ok row := by
  induction h with
  | empty =>
    intro row hrow
    cases hrow
  | @inserted t t' s _ hs hinsert ih =>
    obtain ⟨-,new,hnew,rfl,-⟩ | ⟨⟨⟩,-⟩ := insert_eq_ok.mp hinsert
    intro row hrow
    rcases List.mem_append.mp hrow with hrow | hrow
    · exact ih row hrow
    · exact ⟨s,hs,List.mem_singleton.mp hrow ▸ hnew⟩
  | removed _ hfewer ih =>
    intro row hrow
    exact ih row (hfewer.subset hrow)

end SnapshotTable

/-! ## Runs amid other connections -/

section Runs
variable {saved : ProjectionSnapshotRecord → Prop} {others : SnapshotTable → SnapshotTable → Prop}
  {s : ProjectionSnapshotRecord} {t t' : SnapshotTable}

theorem sameSnapshotEvidence_iff {row : ProjectionSnapshotRow} :
    sameSnapshotEvidence (projectionSnapshotFromRow row) s = true ↔ row.SameEvidence s := by
  simp only [sameSnapshotEvidence, sameSourceBoundary, projectionSnapshotFromRow, Bool.and_eq_true,
    beq_iff_eq]
  constructor
  · rintro ⟨⟨⟨⟨⟨⟨horder,hevent⟩,hsequence⟩,hposition⟩,hschema⟩,hreducer⟩,hhash⟩
    exact ⟨⟨horder,hevent,hsequence,hposition⟩,hschema,hreducer,hhash⟩
  · rintro ⟨⟨horder,hevent,hsequence,hposition⟩,hschema,hreducer,hhash⟩
    exact ⟨⟨⟨⟨⟨⟨horder,hevent⟩,hsequence⟩,hposition⟩,hschema⟩,hreducer⟩,hhash⟩

namespace PostgresProjectionSnapshotStore

theorem amid_insertSnapshot {inserted : Bool} :
    (insertSnapshot s).Amid serveSnapshots others () t (.ok inserted) () t' ↔
      ∃ met, others t met ∧ met.insert s = .ok (inserted,t') := by
  refine Routine.amid_perform.trans ?_
  constructor
  · rintro ⟨-,met,hmet,hserved⟩
    refine ⟨met,hmet,?_⟩
    cases h : met.insert s with
    | error e =>
      simp only [serveSnapshots, h, Option.some.injEq] at hserved
      cases hserved
    | ok r =>
      simp only [serveSnapshots, h, Option.some.injEq] at hserved
      cases hserved
      rfl
  · rintro ⟨met,hmet,hinsert⟩
    refine ⟨rfl,met,hmet,?_⟩
    simp only [serveSnapshots, hinsert]
    rfl

theorem amid_loadExisting {existing : List ProjectionSnapshotRecord} :
    (loadExistingSourceBoundarySnapshots s).Amid serveSnapshots others () t (.ok existing) () t' ↔
      others t t' ∧ existing = (t'.boundary s).map projectionSnapshotFromRow := by
  unfold loadExistingSourceBoundarySnapshots
  rw [Routine.amid_bind]
  constructor
  · rintro (⟨rows,_,t₁,hrows,hdone⟩ | ⟨_,-,⟨⟩⟩)
    obtain ⟨hexisting,-,rfl⟩ := Routine.amid_pure.mp hdone
    obtain ⟨-,t₁,hmoved,hserved⟩ := Routine.amid_perform.mp hrows
    obtain ⟨hanswer,rfl⟩ := Prod.mk.inj (Option.some.inj hserved)
    obtain rfl := Except.ok.inj hanswer
    exact ⟨hmoved,Except.ok.inj hexisting⟩
  · rintro ⟨hmoved,rfl⟩
    exact .inl ⟨t'.boundary s,(),t',Routine.amid_perform.mpr ⟨rfl,t',hmoved,rfl⟩,
      Routine.amid_pure.mpr ⟨rfl,rfl,rfl⟩⟩

/-- The two ways a save returns: its row went in, or every row at its boundary agrees. -/
theorem amid_saveSnapshot :
    (saveSnapshot s).Amid serveSnapshots others () t (.ok ()) () t' ↔
      ∃ met, others t met ∧
        ((∃ row, proposedRow s = .ok row ∧ t' = met ++ [row] ∧
            ∀ other ∈ met, other.collides row = false) ∨
          met.Skips s ∧ others met t' ∧ t'.boundary s ≠ [] ∧
            ∀ row ∈ t'.boundary s, row.SameEvidence s) := by
  have hagree (rows : SnapshotTable) :
      (rows.map projectionSnapshotFromRow).all (fun existing => sameSnapshotEvidence existing s) = true ↔
        ∀ row ∈ rows, row.SameEvidence s := by
    simp only [List.all_map, List.all_eq_true, Function.comp, sameSnapshotEvidence_iff]
  unfold saveSnapshot
  rw [Routine.amid_bind]
  constructor
  · rintro (⟨inserted,⟨⟩,t₁,hinsert,hrest⟩ | ⟨_,-,⟨⟩⟩)
    obtain ⟨met,hmet,hinsert⟩ := amid_insertSnapshot.mp hinsert
    refine ⟨met,hmet,?_⟩
    obtain ⟨rfl,hrow⟩ | ⟨rfl,hskips,rfl⟩ := SnapshotTable.insert_eq_ok.mp hinsert
    · obtain ⟨-,-,rfl⟩ := Routine.amid_pure.mp hrest
      exact .inl hrow
    · refine .inr ⟨hskips,?_⟩
      rcases (Routine.amid_bind _ _).mp hrest with ⟨existing,⟨⟩,t₂,hload,hrest⟩ | ⟨_,-,⟨⟩⟩
      obtain ⟨hmoved,rfl⟩ := amid_loadExisting.mp hload
      split at hrest
      · obtain ⟨⟨⟩,-⟩ := Routine.amid_raise.mp hrest
      · next hfound =>
        split at hrest
        · next hsame =>
          obtain ⟨-,-,rfl⟩ := Routine.amid_pure.mp hrest
          exact ⟨hmoved,by simpa using hfound,(hagree _).mp hsame⟩
        · obtain ⟨⟨⟩,-⟩ := Routine.amid_raise.mp hrest
  · rintro ⟨met,hmet,hrow | ⟨hskips,hmoved,hfound,hsame⟩⟩
    · have hinsert := SnapshotTable.insert_eq_ok.mpr (.inl ⟨rfl,hrow⟩)
      exact .inl ⟨true,(),t',amid_insertSnapshot.mpr ⟨met,hmet,hinsert⟩,
        Routine.amid_pure.mpr ⟨rfl,rfl,rfl⟩⟩
    · have hinsert := SnapshotTable.insert_eq_ok.mpr (.inr ⟨rfl,hskips,rfl⟩)
      refine .inl ⟨false,(),met,amid_insertSnapshot.mpr ⟨met,hmet,hinsert⟩,?_⟩
      refine (Routine.amid_bind _ _).mpr (.inl ⟨_,(),t',amid_loadExisting.mpr ⟨hmoved,rfl⟩,?_⟩)
      rw [if_neg (by simpa using hfound), if_pos ((hagree _).mpr hsame)]
      exact Routine.amid_pure.mpr ⟨rfl,rfl,rfl⟩

end PostgresProjectionSnapshotStore

/-- The payload hash of a saved snapshot determines its state. -/
def PayloadHashed (saved : ProjectionSnapshotRecord → Prop) : Prop :=
  ∀ a b, saved a → saved b → a.payloadHash = b.payloadHash →
    a.stateStatus = b.stateStatus ∧
      Numeric.ofDecimal a.totalAmount = Numeric.ofDecimal b.totalAmount ∧
      Numeric.ofDecimal a.paidAmount = Numeric.ofDecimal b.paidAmount ∧
      a.stateVersion = b.stateVersion

theorem SnapshotTable.boundary_of_free {row : ProjectionSnapshotRow} (hrow : proposedRow s = .ok row)
    (hfree : ∀ other ∈ t, other.collides row = false) :
    ∀ other ∈ (t ++ [row]).boundary s, other = row := by
  obtain ⟨-,⟨⟨horder,hevent,hsequence,hposition⟩,-,-,-⟩,-⟩ := proposedRow_eq_ok hrow
  intro other hother
  obtain ⟨hother,hat⟩ := mem_boundary.mp hother
  rcases List.mem_append.mp hother with hother | hother
  · have hcollides := hfree other hother
    rw [← hevent, ← hposition, ← horder, ← hsequence] at hat
    rw [ProjectionSnapshotRow.collides, hat, Bool.or_true] at hcollides
    cases hcollides
  · exact List.mem_singleton.mp hother

/-- A save that returns leaves a row with the evidence of its snapshot, and no row at the
boundary with other evidence. The row has the state of the snapshot where the INSERT went in,
and where the hash determines the state. -/
theorem save_snapshot_keeps (ht : SnapshotTable.Reachable saved t)
    (hothers : ∀ t₁ t₂, SnapshotTable.Reachable saved t₁ → others t₁ t₂ → SnapshotTable.Reachable saved t₂)
    (hs : saved s)
    (h : (PostgresProjectionSnapshotStore.saveSnapshot s).Amid serveSnapshots others () t (.ok ()) () t') :
    ∃ met, others t met ∧ ∃ row ∈ t', row.SameEvidence s ∧
      (∀ other ∈ t', other.atBoundary s.sourceEventId s.sourceGlobalPosition s.orderId
        s.sourceEventSequence = true → other.SameEvidence s) ∧
      (¬ met.Skips s → row.SameState s) ∧ (PayloadHashed saved → row.SameState s) := by
  obtain ⟨met,hmet,⟨row,hrow,rfl,hfree⟩ | ⟨hskips,hmoved,hfound,hsame⟩⟩ :=
    PostgresProjectionSnapshotStore.amid_saveSnapshot.mp h
  · obtain ⟨-,hevidence,hstate⟩ := proposedRow_eq_ok hrow
    refine ⟨met,hmet,row,by simp,hevidence,fun other hother hat => ?_,fun _ => hstate,fun _ => hstate⟩
    obtain rfl := SnapshotTable.boundary_of_free hrow hfree other
      (SnapshotTable.mem_boundary.mpr ⟨hother,hat⟩)
    exact hevidence
  · obtain ⟨row,hboundary⟩ := List.exists_mem_of_ne_nil _ hfound
    have hevidence := hsame row hboundary
    have hkept := (SnapshotTable.mem_boundary.mp hboundary).1
    refine ⟨met,hmet,row,hkept,hevidence,fun other hother hat => ?_,fun hfree => absurd hskips hfree,
      fun hhashed => ?_⟩
    · exact hsame other (SnapshotTable.mem_boundary.mpr ⟨hother,hat⟩)
    · obtain ⟨kept,hsaved,hrow⟩ := (hothers _ _ (hothers _ _ ht hmet) hmoved).proposed row hkept
      obtain ⟨-,hown,hstate⟩ := proposedRow_eq_ok hrow
      obtain ⟨hstatus,htotal,hpaid,hversion⟩ := hhashed kept s hsaved hs (hown.hash.symm.trans hevidence.hash)
      exact ⟨hstate.status.trans hstatus,htotal.symm.trans hstate.total,
        hpaid.symm.trans hstate.paid,
        hstate.version.trans hversion⟩

end Runs

/-- A snapshot of a created order of so many cents. -/
def createdSnapshot (cents : ℕ) : ProjectionSnapshotRecord where
  snapshotId := 1
  orderId := "o-1"
  sourceEventId := "e-1"
  sourceEventSequence := 1
  sourceGlobalPosition := 1
  stateStatus := "CREATED"
  totalAmount := .ofCents false cents
  paidAmount := .zero
  stateVersion := 1
  snapshotSchemaVersion := 1
  reducerVersion := "projection-reducer-v1"
  payloadHash := "hash"
  createdBy := "worker"

def createdSnapshotRow : ProjectionSnapshotRow where
  snapshotId := 1
  orderId := "o-1"
  sourceEventId := "e-1"
  sourceEventSequence := 1
  sourceGlobalPosition := 1
  stateStatus := "CREATED"
  totalAmount := .cents 1000 Numeric.ten_inRange
  paidAmount := .zero
  stateVersion := 1
  snapshotSchemaVersion := 1
  reducerVersion := "projection-reducer-v1"
  payloadHash := "hash"
  createdBy := "worker"

theorem createdSnapshotRow_reachable {saved : ProjectionSnapshotRecord → Prop}
    (h : saved (createdSnapshot 1000)) : SnapshotTable.Reachable saved [createdSnapshotRow] :=
  .inserted .empty h (by decide +kernel)

theorem amid_createdSnapshot {cents : ℕ} {row : ProjectionSnapshotRow}
    (hrow : proposedRow (createdSnapshot cents) = .ok row)
    (hcollides : createdSnapshotRow.collides row = true) :
    (PostgresProjectionSnapshotStore.saveSnapshot (createdSnapshot cents)).Amid serveSnapshots Eq ()
      [createdSnapshotRow] (.ok ()) () [createdSnapshotRow] := by
  apply PostgresProjectionSnapshotStore.amid_saveSnapshot.mpr
  have hboundary : SnapshotTable.boundary [createdSnapshotRow] (createdSnapshot cents) =
      [createdSnapshotRow] := by
    simp [SnapshotTable.boundary, createdSnapshotRow, createdSnapshot, ProjectionSnapshotRow.atBoundary]
  refine ⟨_,rfl,.inr ⟨⟨row,hrow,_,List.mem_singleton_self _,hcollides⟩,rfl,?_,?_⟩⟩
  · rw [hboundary]
    exact List.cons_ne_nil _ _
  · intro other hother
    rw [hboundary, List.mem_singleton] at hother
    subst hother
    exact ⟨⟨rfl,rfl,rfl,rfl⟩,rfl,rfl,rfl⟩

theorem save_snapshot_keeps_twice : ∃ row ∈ [createdSnapshotRow], row.SameState (createdSnapshot 1000) := by
  obtain ⟨_,-,row,hrow,-,-,-,hstate⟩ := @save_snapshot_keeps (fun s => s = createdSnapshot 1000) Eq _ _ _
    (createdSnapshotRow_reachable rfl) (fun _ _ ht heq => heq ▸ ht) rfl
    (@amid_createdSnapshot 1000 createdSnapshotRow (by decide +kernel) (by decide +kernel))
  exact ⟨row,hrow,hstate fun a b ha hb _ => by subst ha hb; exact ⟨rfl,rfl,rfl,rfl⟩⟩

/-- The hash is compared and the amounts are not: a snapshot of other amounts is taken for the
one in place. -/
theorem save_snapshot_other_amounts :
    SnapshotTable.Reachable (fun _ => True) [createdSnapshotRow] ∧
      (PostgresProjectionSnapshotStore.saveSnapshot (createdSnapshot 2000)).Amid serveSnapshots Eq ()
        [createdSnapshotRow] (.ok ()) () [createdSnapshotRow] ∧
      ∀ row ∈ [createdSnapshotRow], ¬ row.SameState (createdSnapshot 2000) := by
  refine ⟨createdSnapshotRow_reachable trivial,?_,fun row hrow hstate => ?_⟩
  · exact @amid_createdSnapshot 2000 { createdSnapshotRow with totalAmount := .cents 2000 (by decide) }
      (by decide +kernel) (by decide +kernel)
  · obtain rfl := List.mem_singleton.mp hrow
    have htotal := hstate.total
    revert htotal
    decide +kernel

end StreamingCompass
