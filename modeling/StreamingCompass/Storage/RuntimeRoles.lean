import StreamingCompass.Projection.SnapshotStore
import StreamingCompass.Relational.Guard
import StreamingCompass.Serialization.ReceiptStore
import StreamingCompass.Storage.Integrity

/-! # Runtime roles

The durable tables as the database guards them: the CHECKs, keys, references and the
exact-next trigger of migrations 001 to 007, and the grants of migrations 005 to 007. What
is proved holds of any statements the runtime roles send, not only of this code's.
-/
namespace StreamingCompass
open Relational

inductive RuntimeRole where | appWriter | projectionWorker | snapshotWorker | readonly
deriving DecidableEq, Repr

inductive DurableTable where
  | orderEvents | idempotencyRecords | projectionStates | projectionCheckpoints
  | projectionSnapshots | projectionOrderProgress | decisionReceipts
deriving DecidableEq, Repr

def granted : RuntimeRole → DurableTable → List Privilege
  | .appWriter, .orderEvents => [.select,.insert]
  | .projectionWorker, .orderEvents => [.select]
  | .snapshotWorker, .orderEvents => [.select]
  | .readonly, .orderEvents => [.select]
  | .appWriter, .idempotencyRecords => [.select,.insert]
  | .readonly, .idempotencyRecords => [.select]
  | .projectionWorker, .projectionStates => [.select,.insert,.update,.delete]
  | .snapshotWorker, .projectionStates => [.select]
  | .readonly, .projectionStates => [.select]
  | .projectionWorker, .projectionCheckpoints => [.select,.insert,.update,.delete]
  | .snapshotWorker, .projectionCheckpoints => [.select]
  | .readonly, .projectionCheckpoints => [.select]
  | .projectionWorker, .projectionSnapshots => [.select]
  | .snapshotWorker, .projectionSnapshots => [.select,.insert]
  | .readonly, .projectionSnapshots => [.select]
  | .projectionWorker, .projectionOrderProgress => [.select,.insert,.update]
  | .snapshotWorker, .projectionOrderProgress => [.select]
  | .readonly, .projectionOrderProgress => [.select]
  | .appWriter, .decisionReceipts => [.select,.insert]
  | .readonly, .decisionReceipts => [.select]
  | _, _ => []

inductive SequencePrivilege where | usage | select
deriving DecidableEq, Repr

/-- The GRANTs on `order_events_global_position_seq`. -/
def sequenceGranted : RuntimeRole → List SequencePrivilege
  | .appWriter => [.usage,.select]
  | .readonly => [.select]
  | _ => []

/-- What some of the roles may do between them. -/
def may (roles : List RuntimeRole) : Grants DurableTable :=
  fun n p => ∃ role ∈ roles, p ∈ granted role n

instance (roles : List RuntimeRole) (n : DurableTable) (p : Privilege) : Decidable (may roles n p) :=
  inferInstanceAs (Decidable (∃ role ∈ roles, p ∈ granted role n))

/-! ## Rows -/

inductive CheckpointCursorKind where | unspecified | appendedAt | eventId | globalPosition
deriving DecidableEq, Repr

structure ProjectionCheckpointRow where
  workerName : String
  cursorKind : CheckpointCursorKind
  cursorValue : String
deriving DecidableEq

abbrev DurableRow : DurableTable → Type
  | .orderEvents => OrderEventRow
  | .idempotencyRecords => IdempotencyRow
  | .projectionStates => ProjectionStateRow
  | .projectionCheckpoints => ProjectionCheckpointRow
  | .projectionSnapshots => ProjectionSnapshotRow
  | .projectionOrderProgress => ProgressRow
  | .decisionReceipts => Serialization.DecisionReceiptRow

/-- `trim(text)` -/
def trimSpaces (s : String) : List Char := stripChars (· == ' ') s.toList

/-- `text ~ '^[0-9]+$'` -/
def isDigits (s : String) : Bool := !s.isEmpty && s.toList.all Char.isDigit

/-- `~* '^[0-9a-f]{8}-[0-9a-f]{4}-[0-9a-f]{4}-[0-9a-f]{4}-[0-9a-f]{12}$'` -/
def isUuidText (cs : List Char) : Bool :=
  (cs.splitOn '-').map List.length == [8,4,4,4,12] && cs.all (fun c => c == '-' || (hexDigit c).isSome)

/-- `ck_projection_checkpoints_value_alignment` -/
def ProjectionCheckpointRow.aligned (row : ProjectionCheckpointRow) : Bool :=
  match row.cursorKind with
  | .unspecified => row.cursorValue == ""
  | .globalPosition => isDigits row.cursorValue
  | .eventId => isUuidText (trimSpaces row.cursorValue)
  | .appendedAt => trimNotEmpty row.cursorValue

/-- The CHECKs of a table, by name; those that a column's type states are left out. -/
def durableChecks : (n : DurableTable) → DurableRow n → List (String × Bool)
  | .orderEvents, row =>
    [("ck_order_events_amount_non_negative",Numeric.zero.le row.amount),
      ("ck_order_events_sequence_positive",decide (0 < row.sequence))]
  | .idempotencyRecords, row =>
    [("ck_idempotency_amount_non_negative",Numeric.zero.le row.amount),
      ("ck_idempotency_fingerprint_version_positive",decide (0 < row.fingerprintVersion)),
      ("ck_idempotency_result_sequence_positive",decide (0 < row.resultSequence)),
      ("ck_idempotency_semantic_fingerprint_not_empty",trimNotEmpty row.semanticFingerprint)]
  | .projectionStates, row =>
    [("ck_projection_states_last_sequence_non_negative",decide (0 ≤ row.lastSequence)),
      ("ck_projection_states_order_id_not_empty",trimNotEmpty row.orderId),
      ("ck_projection_states_paid_amount_non_negative",Numeric.zero.le row.paidAmount),
      ("ck_projection_states_paid_amount_not_exceed_total_amount",row.paidAmount.le row.totalAmount),
      ("ck_projection_states_total_amount_non_negative",Numeric.zero.le row.totalAmount),
      ("ck_projection_states_version_non_negative",decide (0 ≤ row.version))]
  | .projectionCheckpoints, row =>
    [("ck_projection_checkpoints_value_alignment",row.aligned),
      ("ck_projection_checkpoints_worker_name_not_empty",trimNotEmpty row.workerName)]
  | .projectionSnapshots, row => row.checks
  | .projectionOrderProgress, row =>
    [("ck_projection_order_progress_epoch_positive",decide (0 < row.key.projectionEpoch)),
      ("ck_projection_order_progress_global_position_positive",decide (0 < row.lastGlobalPosition)),
      ("ck_projection_order_progress_name_not_empty",trimNotEmpty row.key.projectionName),
      ("ck_projection_order_progress_order_id_not_empty",trimNotEmpty row.key.orderId),
      ("ck_projection_order_progress_sequence_positive",decide (0 < row.lastSequence))]
  | .decisionReceipts, row => Serialization.receiptChecks row

/-- The event columns `fk_projection_order_progress_event_lineage` refers to. -/
def OrderEventRow.lineage (row : OrderEventRow) : String × String × ℤ × ℕ :=
  (row.acceptedEventId,row.orderId,row.sequence,row.globalPosition)

/-- A reference to `order_events`. -/
def eventReference (n : DurableTable) (Value : Type) (source : DurableRow n → Option Value)
    (found : OrderEventRow → Value) : Reference DurableRow n := ⟨.orderEvents,Value,source,found⟩

/-- The primary keys, unique constraints and unique indexes. -/
def durableKeys : (n : DurableTable) → List (UniqueKey (DurableRow n))
  | .orderEvents => [⟨String,fun row => some row.acceptedEventId⟩,
      ⟨String × ℤ,fun row => some row.place⟩,⟨ℕ,fun row => some row.globalPosition⟩,
      ⟨String × String × ℤ × ℕ,fun row => some row.lineage⟩]
  | .idempotencyRecords => [⟨String,fun row => some row.requestId⟩]
  | .projectionStates => [⟨String,fun row => some row.orderId⟩]
  | .projectionCheckpoints => [⟨String,fun row => some row.workerName⟩]
  | .projectionSnapshots => [⟨Uuid,fun row => some row.snapshotId⟩,⟨String,fun row => some row.sourceEventId⟩,
      ⟨String × ℤ,fun row => some (row.orderId,row.sourceEventSequence)⟩,
      ⟨ℤ,fun row => some row.sourceGlobalPosition⟩]
  | .projectionOrderProgress => [⟨ProgressKey,fun row => some row.key⟩]
  | .decisionReceipts => [⟨Uuid,fun row => some row.receiptId⟩,⟨Uuid,fun row => row.admittedEventId⟩]

def durableReferences : (n : DurableTable) → List (Reference DurableRow n)
  | .idempotencyRecords =>
    [eventReference .idempotencyRecords String (fun row => some row.acceptedEventId)
      (fun e => e.acceptedEventId)]
  | .projectionOrderProgress =>
    [eventReference .projectionOrderProgress (String × String × ℤ × ℕ)
      (fun row => some (row.lastEventId,row.key.orderId,row.lastSequence,row.lastGlobalPosition))
      OrderEventRow.lineage]
  | .decisionReceipts =>
    [eventReference .decisionReceipts String (fun row => row.acceptedEventId.map Uuid.str)
      (fun e => e.acceptedEventId)]
  | _ => []

/-- `enforce_projection_order_progress_exact_next` on INSERT. -/
def durableOnInsert : (n : DurableTable) → DurableRow n → Prop
  | .projectionOrderProgress, new => new.lastSequence = 1
  | _, _ => True

/-- `enforce_projection_order_progress_exact_next` on UPDATE. -/
def durableOnUpdate : (n : DurableTable) → DurableRow n → DurableRow n → Prop
  | .projectionOrderProgress, old, new => new.key = old.key ∧ new.lastSequence = old.lastSequence+1
  | _, _, _ => True

def durableSchema : Schema DurableRow where
  check n row := ∀ c ∈ durableChecks n row, c.2 = true
  unique := durableKeys
  references := durableReferences
  onInsert := durableOnInsert
  onUpdate := durableOnUpdate

abbrev DurableStore : Type := Store DurableRow

variable {roles : List RuntimeRole} {s s' : DurableStore}

/-! ## What holds whoever runs -/

/-- The grants let nobody change or remove accepted history and its evidence. -/
theorem append_only (roles : List RuntimeRole) {n : DurableTable}
    (hn : n ∈ [DurableTable.orderEvents,.idempotencyRecords,.projectionSnapshots,.decisionReceipts]) :
    ¬may roles n .update ∧ ¬may roles n .delete := by
  have hall (role : RuntimeRole) : Privilege.update ∉ granted role n ∧ Privilege.delete ∉ granted role n := by
    simp only [List.mem_cons, List.not_mem_nil, or_false] at hn
    rcases hn with rfl | rfl | rfl | rfl <;> cases role <;> decide
  exact ⟨fun ⟨role,_,h⟩ => (hall role).1 h,fun ⟨role,_,h⟩ => (hall role).2 h⟩

theorem progress_undeletable : ¬may roles .projectionOrderProgress .delete := by
  rintro ⟨role,-,h⟩
  revert h
  cases role <;> decide

/-- Progress counts the places of one order's history. -/
def progressCounter : Counter durableSchema .projectionOrderProgress .orderEvents ProgressKey String where
  ident row := row.key
  stream key := key.orderId
  count row := row.lastSequence
  place e := e.place
  first _ h := h
  next _ _ h := h
  counted s r h := by
    obtain ⟨e,he,hlineage⟩ := h _ (List.mem_singleton_self _) _ rfl
    obtain ⟨-,hplace⟩ := Prod.mk.inj hlineage
    obtain ⟨horder,hrest⟩ := Prod.mk.inj hplace
    exact ⟨e,he,Prod.ext horder (Prod.mk.inj hrest).1⟩

/-- Only one role writes a table. -/
def writer : DurableTable → RuntimeRole
  | .orderEvents | .idempotencyRecords | .decisionReceipts => .appWriter
  | .projectionStates | .projectionCheckpoints | .projectionOrderProgress => .projectionWorker
  | .projectionSnapshots => .snapshotWorker

theorem writer_of_granted {role : RuntimeRole} {n : DurableTable} {p : Privilege} (h : p ∈ granted role n)
    (hp : p ≠ .select) : role = writer n := by
  revert h hp
  cases role <;> cases n <;> cases p <;> decide

/-! ## Rows and their keys -/

theorem event_eq_of_id (h : durableSchema.Consistent s) {e e' : OrderEventRow} (he : e ∈ s .orderEvents)
    (he' : e' ∈ s .orderEvents) (hid : e.acceptedEventId = e'.acceptedEventId) : e = e' :=
  h.unique .orderEvents ⟨String,fun row => some row.acceptedEventId⟩
    (by simp [durableSchema, durableKeys]) e he e' he' _ rfl (congrArg some hid.symm)

theorem event_eq_of_place (h : durableSchema.Consistent s) {e e' : OrderEventRow} (he : e ∈ s .orderEvents)
    (he' : e' ∈ s .orderEvents) (hplace : e.place = e'.place) : e = e' :=
  h.unique .orderEvents ⟨String × ℤ,fun row => some row.place⟩
    (by simp [durableSchema, durableKeys]) e he e' he' _ rfl (congrArg some hplace.symm)

theorem record_eq_of_request (h : durableSchema.Consistent s) {r r' : IdempotencyRow}
    (hr : r ∈ s .idempotencyRecords) (hr' : r' ∈ s .idempotencyRecords)
    (hrequest : r.requestId = r'.requestId) : r = r' :=
  h.unique .idempotencyRecords ⟨String,fun row => some row.requestId⟩
    (by simp [durableSchema, durableKeys]) r hr r' hr' _ rfl (congrArg some hrequest.symm)

theorem receipt_eq_of_admitted (h : durableSchema.Consistent s) {r r' : Serialization.DecisionReceiptRow}
    (hr : r ∈ s .decisionReceipts) (hr' : r' ∈ s .decisionReceipts) {u : Uuid}
    (hu : r.admittedEventId = some u) (hu' : r'.admittedEventId = some u) : r = r' :=
  h.unique .decisionReceipts ⟨Uuid,fun row => row.admittedEventId⟩
    (by simp [durableSchema, durableKeys]) r hr r' hr' u hu hu'

/-- What the database makes of any work of some roles. -/
structure RolesGuarded (roles : List RuntimeRole) (s s' : DurableStore) : Prop where
  consistent : durableSchema.Consistent s'
  /-- accepted history and its evidence only grow -/
  kept : ∀ n ∈ [DurableTable.orderEvents,.idempotencyRecords,.projectionSnapshots,.decisionReceipts],
    s n ⊆ s' n
  /-- a request is bound to one accepted event for good -/
  bound : ∀ r ∈ s .idempotencyRecords, ∃ e ∈ s .orderEvents, e.acceptedEventId = r.acceptedEventId ∧
    (∀ r' ∈ s' .idempotencyRecords, r'.requestId = r.requestId → r' = r) ∧
    ∀ e' ∈ s' .orderEvents, e'.acceptedEventId = r.acceptedEventId → e' = e
  /-- progress has passed every accepted event it claims, each at its only place -/
  counted : ∀ p ∈ s' .projectionOrderProgress, ∀ k, 0 < k → k ≤ p.lastSequence →
    ∃ e ∈ s' .orderEvents, (e.orderId = p.key.orderId ∧ e.sequence = k) ∧
      ∀ e' ∈ s' .orderEvents, e'.orderId = p.key.orderId → e'.sequence = k → e' = e
  forward : ∀ p ∈ s .projectionOrderProgress, ∃ p' ∈ s' .projectionOrderProgress,
    p'.key = p.key ∧ p.lastSequence ≤ p'.lastSequence
  /-- an accepted event has one admission receipt at most -/
  admitted : ∀ r ∈ s' .decisionReceipts, ∀ r' ∈ s' .decisionReceipts, ∀ u,
    r.admittedEventId = some u → r'.admittedEventId = some u → r = r'
  apart : ∀ n, writer n ∉ roles → s' n = s n

/-- Whatever statements the runtime roles send, and whoever else is running, the database
keeps accepted history, binds each request to one event, and lets progress neither skip an
event nor go back; a role touches only the tables it is responsible for. -/
theorem runtime_roles_guarded (hs : durableSchema.Consistent s) (hc : progressCounter.Complete s)
    (hr : Reaches durableSchema (may roles) s s') : RolesGuarded roles s s' := by
  have hevents := append_only roles (n := .orderEvents) (by decide)
  have hconsistent := hr.consistent hs
  have hkept (n : DurableTable) (hn : n ∈ [DurableTable.orderEvents,.idempotencyRecords,.projectionSnapshots,
      .decisionReceipts]) : s n ⊆ s' n := hr.kept (append_only roles hn).1 (append_only roles hn).2
  refine ⟨hconsistent,hkept,fun r hrow => ?_,fun p hp k hpos hk => ?_,
    progressCounter.advances hr progress_undeletable,
    fun r hrow r' hrow' u hu hu' => receipt_eq_of_admitted hconsistent hrow hrow' hu hu',fun n hn => ?_⟩
  · obtain ⟨e,he,hfound⟩ := hs.refers _ r hrow _ (List.mem_singleton_self _) _ rfl
    refine ⟨e,he,hfound,fun r' hrow' hrequest => ?_,fun e' he' hsame => ?_⟩
    · exact record_eq_of_request hconsistent hrow' (hkept _ (by decide) hrow) hrequest
    · exact event_eq_of_id hconsistent he' (hkept _ (by decide) he) (hsame.trans hfound.symm)
  · obtain ⟨e,he,hplace⟩ := progressCounter.complete hr hevents.1 hevents.2 hc p hp k hpos hk
    refine ⟨e,he,Prod.mk.inj hplace,fun e' he' horder hsequence => ?_⟩
    exact event_eq_of_place hconsistent he' he ((Prod.ext horder hsequence).trans hplace.symm)
  · have hdenied (p : Privilege) (hp : p ≠ .select) : ¬may roles n p := by
      rintro ⟨role,hrole,hgranted⟩
      exact hn (writer_of_granted hgranted hp ▸ hrole)
    exact hr.untouched (hdenied _ (by decide)) (hdenied _ (by decide)) (hdenied _ (by decide))

namespace FirstEvent

def row : OrderEventRow := ⟨"e","A",1,.created,"r",.cents 2000 (by decide),0,none,0,.init,1⟩
def progress : ProgressRow := ⟨⟨"order_state_projection",1,"A"⟩,1,"e",1⟩

/-- The event is accepted, then projected. -/
def accepted : DurableStore := Store.empty.put DurableTable.orderEvents (insert row ∅)
def projected : DurableStore :=
  accepted.put .projectionOrderProgress (insert progress (accepted .projectionOrderProgress))

theorem accepts : Step durableSchema (may [.appWriter,.projectionWorker]) Store.empty accepted := by
  refine Step.inserts (S := durableSchema) (n := DurableTable.orderEvents) (r := row) ?_ ?_ ?_ ?_ ?_
  · decide
  · change ∀ c ∈ durableChecks .orderEvents row, c.2 = true
    decide +kernel
  · trivial
  · exact fun _ _ _ _ _ h => (Set.notMem_empty _ h).elim
  · exact fun f hf => (List.not_mem_nil hf).elim

theorem projects : Step durableSchema (may [.appWriter,.projectionWorker]) accepted projected := by
  refine Step.inserts (S := durableSchema) (n := DurableTable.projectionOrderProgress) (r := progress)
    ?_ ?_ ?_ ?_ ?_
  · decide
  · change ∀ c ∈ durableChecks .projectionOrderProgress progress, c.2 = true
    decide +kernel
  · rfl
  · intro k hk v hv r hr
    rw [accepted, Store.put_ne _ (by decide)] at hr
    exact (Set.notMem_empty _ hr).elim
  · intro f hf v hv
    obtain rfl := List.mem_singleton.mp hf
    obtain rfl := Option.some.inj hv
    refine ⟨row,?_,rfl⟩
    change row ∈ projected .orderEvents
    rw [projected, Store.put_ne _ (by decide), accepted, Store.put_self]
    exact Set.mem_insert ..

end FirstEvent

theorem runtime_roles_guarded_first :
    RolesGuarded [.appWriter,.projectionWorker] Store.empty FirstEvent.projected ∧
      FirstEvent.progress ∈ FirstEvent.projected .projectionOrderProgress := by
  have hruns : Reaches durableSchema (may [.appWriter,.projectionWorker]) Store.empty FirstEvent.projected :=
    (Relation.ReflTransGen.single FirstEvent.accepts).tail FirstEvent.projects
  refine ⟨runtime_roles_guarded .empty (fun _ h => (Set.notMem_empty _ h).elim) hruns,?_⟩
  rw [FirstEvent.projected, Store.put_self]
  exact Set.mem_insert ..

end StreamingCompass
