import StreamingCompass.Core.Order
import Mathlib.Data.Fintype.Basic
import Mathlib.Data.List.Sort
import Mathlib.Logic.Function.Basic

/-! # Tables

The columns of migrations 001, 002, 003 and 006 that the modelled statements read
or write. Text columns restricted by a CHECK to a fixed vocabulary hold the
enumeration, and UUID columns the canonical text.
-/
namespace StreamingCompass

/-- A value of a `NUMERIC(18, 2)` column: a number of hundredths, or NaN. -/
inductive Numeric where
  | cents (hundredths : ℤ) (inRange : hundredths.natAbs < 10^18)
  | nan
deriving DecidableEq

namespace Numeric

def zero : Numeric := .cents 0 (by decide)

/-- The decimal the driver returns for a column value. -/
def toDecimal : Numeric → Decimal
  | .cents hundredths _ => .ofCents (decide (hundredths < 0)) hundredths.natAbs
  | .nan => .nan

/-- `a <= b` in PostgreSQL, where NaN is above every number. -/
def le : Numeric → Numeric → Bool
  | .cents a _, .cents b _ => decide (a ≤ b)
  | .nan, .cents _ _ => false
  | _, .nan => true

/-- Storing a parameter rounds it to two places, a tie away from zero. -/
def ofDecimal : Decimal → Except PyException Numeric
  | .finite s c e =>
    let n := Decimal.numerator c e
    let d := Decimal.denominator e
    let q := (200*n+d)/(2*d)
    if h : (Decimal.signed s q).natAbs < 10^18 then .ok (.cents (Decimal.signed s q) h)
    else .error (.databaseError "22003" "numeric field overflow")
  | .infinity _ => .error (.databaseError "22003" "numeric field overflow")
  | .nan => .ok .nan

theorem le_refl (n : Numeric) : n.le n = true := by
  cases n <;> simp [le]

theorem ten_inRange : (1000 : ℤ).natAbs < 10^18 := by decide

end Numeric

structure OrderEventRow where
  acceptedEventId : String
  orderId : String
  sequence : ℤ
  eventType : EventType
  requestId : String
  amount : Numeric
  occurredAtMs : ℤ
  proofPrevEventId : Option String
  proofPrevVersion : ℤ
  proofPrevStatus : OrderStatus
  globalPosition : ℕ
deriving DecidableEq

structure IdempotencyRow where
  requestId : String
  orderId : String
  commandType : CommandType
  amount : Numeric
  fingerprintVersion : ℕ
  semanticFingerprint : String
  acceptedEventId : String
  resultSequence : ℤ
deriving DecidableEq

structure ProjectionStateRow where
  orderId : String
  status : OrderStatus
  totalAmount : Numeric
  paidAmount : Numeric
  version : ℤ
  lastSequence : ℤ
deriving DecidableEq

structure ProgressKey where
  projectionName : String
  projectionEpoch : ℕ
  orderId : String
deriving DecidableEq

structure ProgressRow where
  key : ProgressKey
  lastSequence : ℤ
  lastEventId : String
  lastGlobalPosition : ℕ
deriving DecidableEq

/-- `row_to_order_event` -/
def rowToOrderEvent (row : OrderEventRow) : OrderEvent where
  eventId := row.acceptedEventId
  requestId := row.requestId
  orderId := row.orderId
  sequence := row.sequence
  eventType := row.eventType
  amount := row.amount.toDecimal
  occurredAtMs := row.occurredAtMs
  proof := ⟨row.proofPrevStatus,row.proofPrevVersion,row.proofPrevEventId⟩

/-- The row an INSERT of an event creates; `global_position` is the column default. -/
def orderEventRow (e : OrderEvent) (amount : Numeric) (position : ℕ) : OrderEventRow where
  acceptedEventId := e.eventId
  orderId := e.orderId
  sequence := e.sequence
  eventType := e.eventType
  requestId := e.requestId
  amount := amount
  occurredAtMs := e.occurredAtMs
  proofPrevEventId := e.proof.prevEventId
  proofPrevVersion := e.proof.prevVersion
  proofPrevStatus := e.proof.prevStatus
  globalPosition := position

structure IdempotencyParameters where
  requestId : String
  orderId : String
  commandType : CommandType
  amount : Decimal
  fingerprintVersion : ℕ
  semanticFingerprint : String
  acceptedEventId : String
  resultSequence : ℤ
deriving DecidableEq

def idempotencyRow (p : IdempotencyParameters) (amount : Numeric) : IdempotencyRow where
  requestId := p.requestId
  orderId := p.orderId
  commandType := p.commandType
  amount := amount
  fingerprintVersion := p.fingerprintVersion
  semanticFingerprint := p.semanticFingerprint
  acceptedEventId := p.acceptedEventId
  resultSequence := p.resultSequence

structure ProjectionStateParameters where
  orderId : String
  status : OrderStatus
  totalAmount : Decimal
  paidAmount : Decimal
  version : ℤ
  lastSequence : ℤ
deriving DecidableEq

/-- Committed rows, the write-side ones in commit order. -/
structure Tables where
  orderEvents : List OrderEventRow
  idempotencyRecords : List IdempotencyRow
  projectionStates : String → Option ProjectionStateRow
  progress : ProgressKey → Option ProgressRow

namespace Tables

def empty : Tables := ⟨[],[],fun _ => none,fun _ => none⟩

/-- The rows of one order, `ORDER BY sequence ASC`. -/
def history (t : Tables) (orderId : String) : List OrderEventRow :=
  (t.orderEvents.filter (fun r => r.orderId = orderId)).insertionSort
    (fun a b => a.sequence ≤ b.sequence)

/-- The history `PostgresEventStore.load` returns on these tables. -/
def events (t : Tables) (orderId : String) : List OrderEvent :=
  (t.history orderId).map rowToOrderEvent

/-- `COALESCE(MAX(sequence), 0)` of one order. -/
def currentVersion (t : Tables) (orderId : String) : ℤ :=
  ((t.orderEvents.filter (fun r => r.orderId = orderId)).map (fun r => r.sequence)).foldr max 0

theorem currentVersion_nonneg (t : Tables) (orderId : String) : 0 ≤ t.currentVersion orderId := by
  unfold currentVersion
  induction (t.orderEvents.filter (fun r => r.orderId = orderId)).map (fun r => r.sequence) with
  | nil => exact le_rfl
  | cons n ns ih => exact le_max_of_le_right ih

/-- The record of a request joined with its accepted event. -/
def loadRecord (t : Tables) (requestId : String) : Option (IdempotencyRow × OrderEventRow) :=
  (t.idempotencyRecords.find? (fun r => r.requestId = requestId)).bind (fun r =>
    (t.orderEvents.find? (fun e => e.acceptedEventId = r.acceptedEventId)).map (fun e => (r,e)))

def lastSequence (t : Tables) (key : ProgressKey) : ℤ :=
  ((t.progress key).map (fun r => r.lastSequence)).getD 0

/-- The exact-next events of a projection, by global position, which is unique. -/
def eligible (t : Tables) (name : String) (epoch limit : ℕ) : List OrderEventRow :=
  ((t.orderEvents.filter
    (fun e => e.sequence = t.lastSequence ⟨name,epoch,e.orderId⟩+1)).insertionSort
      (fun a b => a.globalPosition ≤ b.globalPosition)).take limit

end Tables

/-- One connection's transaction: the rows it wrote, not yet visible to others. -/
structure Transaction where
  isOpen : Bool
  failed : Bool
  orderEvents : List OrderEventRow
  idempotencyRecords : List IdempotencyRow
  /-- latest first -/
  projectionStates : List ProjectionStateRow
  /-- latest first -/
  progress : List ProgressRow
  advisoryLocks : List (ℤ × ℤ)
deriving DecidableEq

def Transaction.idle : Transaction := ⟨false,false,[],[],[],[],[]⟩

/-- The tables as a transaction sees them, and as they are once it commits. -/
def Tables.apply (t : Tables) (x : Transaction) : Tables where
  orderEvents := t.orderEvents ++ x.orderEvents
  idempotencyRecords := t.idempotencyRecords ++ x.idempotencyRecords
  projectionStates :=
    x.projectionStates.foldr (fun r f => Function.update f r.orderId (some r)) t.projectionStates
  progress := x.progress.foldr (fun r f => Function.update f r.key (some r)) t.progress

@[simp] theorem Tables.apply_idle (t : Tables) : t.apply .idle = t := by
  simp [Tables.apply, Transaction.idle]
@[simp] theorem Tables.apply_orderEvents (t : Tables) (x : Transaction) :
    (t.apply x).orderEvents = t.orderEvents ++ x.orderEvents := rfl
@[simp] theorem Tables.apply_idempotencyRecords (t : Tables) (x : Transaction) :
    (t.apply x).idempotencyRecords = t.idempotencyRecords ++ x.idempotencyRecords := rfl

/-- The tables with one more event and its record. -/
def Tables.accept (t : Tables) (row : OrderEventRow) (record : IdempotencyRow) : Tables :=
  {t with
    orderEvents := t.orderEvents ++ [row]
    idempotencyRecords := t.idempotencyRecords ++ [record]}

@[simp] theorem Tables.accept_orderEvents (t : Tables) (row : OrderEventRow) (record : IdempotencyRow) :
    (t.accept row record).orderEvents = t.orderEvents ++ [row] := rfl
@[simp] theorem Tables.accept_idempotencyRecords (t : Tables) (row : OrderEventRow)
    (record : IdempotencyRow) :
    (t.accept row record).idempotencyRecords = t.idempotencyRecords ++ [record] := rfl

/-- The tables with one event more projected. -/
def Tables.project (t : Tables) (state : ProjectionStateRow) (progress : ProgressRow) : Tables :=
  {t with
    projectionStates := Function.update t.projectionStates state.orderId (some state)
    progress := Function.update t.progress progress.key (some progress)}

/-- The committed tables and every connection's transaction. -/
structure World (ι : Type) where
  tables : Tables
  transactions : ι → Transaction

namespace World
variable {ι : Type} [DecidableEq ι]

def initial (t : Tables) : World ι := ⟨t,fun _ => .idle⟩

def visible (w : World ι) (i : ι) : Tables := w.tables.apply (w.transactions i)

def put (w : World ι) (i : ι) (x : Transaction) : World ι :=
  ⟨w.tables,Function.update w.transactions i x⟩

/-- Roll back, or do nothing when no transaction is open. -/
def rollback (w : World ι) (i : ι) : World ι := w.put i .idle

/-- Commit; a failed transaction is rolled back instead. -/
def commit (w : World ι) (i : ι) : World ι :=
  if (w.transactions i).failed then w.rollback i
  else ⟨w.visible i,Function.update w.transactions i .idle⟩

/-- Whether another connection's transaction satisfies a condition. -/
def others [Fintype ι] (w : World ι) (i : ι) (p : Transaction → Bool) : Bool :=
  decide (∃ j, j ≠ i ∧ p (w.transactions j) = true)

@[simp] theorem put_tables (w : World ι) (i : ι) (x : Transaction) : (w.put i x).tables = w.tables := rfl
@[simp] theorem put_self (w : World ι) (i : ι) (x : Transaction) :
    (w.put i x).transactions i = x := by simp [put]
theorem put_ne (w : World ι) {i j : ι} (h : j ≠ i) (x : Transaction) :
    (w.put i x).transactions j = w.transactions j := by simp [put, h]
@[simp] theorem rollback_tables (w : World ι) (i : ι) : (w.rollback i).tables = w.tables := rfl
@[simp] theorem rollback_self (w : World ι) (i : ι) : (w.rollback i).transactions i = .idle := by
  simp [rollback]
theorem rollback_ne (w : World ι) {i j : ι} (h : j ≠ i) :
    (w.rollback i).transactions j = w.transactions j := put_ne w h _
@[simp] theorem commit_self (w : World ι) (i : ι) : (w.commit i).transactions i = .idle := by
  unfold commit
  split
  · exact rollback_self w i
  · simp
theorem commit_ne (w : World ι) {i j : ι} (h : j ≠ i) :
    (w.commit i).transactions j = w.transactions j := by
  unfold commit
  split
  · exact rollback_ne w h
  · simp [h]
theorem commit_tables_of_failed (w : World ι) {i : ι} (h : (w.transactions i).failed = true) :
    (w.commit i).tables = w.tables := by simp [commit, h]
theorem commit_tables (w : World ι) {i : ι} (h : (w.transactions i).failed = false) :
    (w.commit i).tables = w.visible i := by simp [commit, h]

end World
end StreamingCompass
