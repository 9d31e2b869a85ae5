import Mathlib.Data.List.Induction
import StreamingCompass.Core.Money

/-! # The order domain

Vocabulary, events and the aggregate of `core/order`. The identity and the clock
reading an event takes on creation are an argument, since Python draws them from
`uuid4` and `time.time`.
-/
namespace StreamingCompass

inductive EventType where | created | paid
deriving DecidableEq, Repr
inductive OrderStatus where | init | created | paid
deriving DecidableEq, Repr
inductive CommandType where | create | pay
deriving DecidableEq, Repr

def EventType.value : EventType → String
  | .created => "CREATED"
  | .paid => "PAID"
def OrderStatus.value : OrderStatus → String
  | .init => "INIT"
  | .created => "CREATED"
  | .paid => "PAID"
def CommandType.value : CommandType → String
  | .create => "create"
  | .pay => "pay"

/-- The kind of event a command produces. -/
def CommandType.eventType : CommandType → EventType
  | .create => .created
  | .pay => .paid

structure Proof where
  prevStatus : OrderStatus
  prevVersion : ℤ
  prevEventId : Option String
deriving DecidableEq, Repr

structure OrderEvent where
  eventId : String
  requestId : String
  orderId : String
  sequence : ℤ
  eventType : EventType
  amount : Decimal
  occurredAtMs : ℤ
  proof : Proof
deriving DecidableEq, Repr

/-- The 128 bits of a UUID. -/
abbrev Uuid := Fin (2^128)

instance Uuid.neZero : NeZero (2^128) := ⟨(Nat.two_pow_pos 128).ne'⟩

/-- `str(uuid)`: 32 hexadecimal digits in groups of 8, 4, 4, 4 and 12. -/
def Uuid.str (u : Uuid) : String :=
  let digit := fun i : ℕ => Nat.digitChar (u.val/16^(31-i) % 16)
  let digits := fun first last => (List.range' first (last-first)).map digit
  String.ofList (digits 0 8 ++ '-' :: (digits 8 12 ++ '-' :: (digits 12 16 ++ '-' ::
    (digits 16 20 ++ '-' :: digits 20 32))))

/-- What one event creation draws from its surroundings. -/
structure Draw where
  uuid : Uuid
  occurredAtMs : ℤ
deriving DecidableEq, Repr

def generateEventId (d : Draw) : String := d.uuid.str

theorem hyphen_mem_generateEventId (d : Draw) : '-' ∈ (generateEventId d).toList := by
  simp [generateEventId, Uuid.str]

theorem generateEventId_not_blank (d : Draw) : isBlank (generateEventId d) = false :=
  isBlank_eq_false (hyphen_mem_generateEventId d) (by decide)

def OrderEvent.create (draw : Draw) (requestId orderId : String) (sequence : ℤ)
    (eventType : EventType) (amount : Decimal) (proof : Proof) : Except PyException OrderEvent := do
  let amount ← normalizeMoney (.decimal amount)
  .ok ⟨generateEventId draw,requestId,orderId,sequence,eventType,amount,draw.occurredAtMs,proof⟩

structure OrderAggregate where
  orderId : String
  currentVersion : ℤ
  status : OrderStatus
  totalAmount : Decimal
  paidAmount : Decimal
  lastEventId : Option String
deriving DecidableEq, Repr

namespace OrderAggregate

/-- `OrderAggregate(order_id)` -/
def new (orderId : String) : Except PyException OrderAggregate :=
  if isBlank orderId then .error (.valueError "order_id must not be empty")
  else .ok ⟨orderId,0,.init,.zero,.zero,none⟩

def requireNonEmptyRequestId (requestId : String) : Except PyException Unit :=
  if isBlank requestId then .error (.valueError "request_id must not be empty") else .ok ()

/-- The predecessor claim of the next candidate. -/
def proof (a : OrderAggregate) : Proof := ⟨a.status,a.currentVersion,a.lastEventId⟩

def create (a : OrderAggregate) (draw : Draw) (requestId : String) (totalAmount : MoneyInput) :
    Except PyException OrderEvent := do
  requireNonEmptyRequestId requestId
  let amount ← ensurePositiveMoney totalAmount
  if a.status ≠ .init then .error (.valueError "Already created")
  else OrderEvent.create draw requestId a.orderId (a.currentVersion+1) .created amount a.proof

def pay (a : OrderAggregate) (draw : Draw) (requestId : String) (paymentAmount : MoneyInput) :
    Except PyException OrderEvent := do
  requireNonEmptyRequestId requestId
  let amount ← ensurePositiveMoney paymentAmount
  match a.status with
  | .paid => .error (.valueError "Order is already paid")
  | .init => .error (.valueError "Cannot pay before order is created")
  | .created =>
    if amount.eq a.totalAmount then
      OrderEvent.create draw requestId a.orderId (a.currentVersion+1) .paid amount a.proof
    else .error (.valueError
      ("v1 full-payment rule violated: pay amount must equal total_amount (got " ++ amount.str ++
        ", expected " ++ a.totalAmount.str ++ ")"))

/-- The candidate builder of a command. -/
def handle (a : OrderAggregate) (command : CommandType) (draw : Draw) (requestId : String)
    (amount : MoneyInput) : Except PyException OrderEvent :=
  match command with
  | .create => a.create draw requestId amount
  | .pay => a.pay draw requestId amount

def apply (a : OrderAggregate) (e : OrderEvent) : Except PyException OrderAggregate :=
  if e.orderId ≠ a.orderId then .error (.valueError
    ("Order id mismatch during apply: aggregate=" ++ a.orderId ++ ", event=" ++ e.orderId))
  else if e.sequence ≠ a.currentVersion+1 then .error (.valueError
    ("Sequence discontinuity during apply: expected " ++ toString (a.currentVersion+1) ++
      ", got " ++ toString e.sequence))
  else match e.eventType with
    | .created => .ok {a with
        status := .created, totalAmount := e.amount, currentVersion := e.sequence,
        lastEventId := some e.eventId}
    | .paid => .ok {a with
        status := .paid, paidAmount := e.amount, currentVersion := e.sequence,
        lastEventId := some e.eventId}

def replay (a : OrderAggregate) (history : List OrderEvent) : Except PyException OrderAggregate :=
  history.foldlM apply a

end OrderAggregate

/-- `OrderAggregate(order_id)` after replaying its history. -/
def rehydrate (orderId : String) (history : List OrderEvent) : Except PyException OrderAggregate := do
  let a ← OrderAggregate.new orderId
  a.replay history

def EventType.resultingStatus : EventType → OrderStatus
  | .created => .created
  | .paid => .paid

def OrderAggregate.applied (a : OrderAggregate) (e : OrderEvent) : OrderAggregate where
  orderId := a.orderId
  currentVersion := e.sequence
  status := e.eventType.resultingStatus
  totalAmount := match e.eventType with | .created => e.amount | .paid => a.totalAmount
  paidAmount := match e.eventType with | .created => a.paidAmount | .paid => e.amount
  lastEventId := some e.eventId

/-- An event is applied when it is the next one of the order. -/
theorem OrderAggregate.apply_eq_ok {a a' : OrderAggregate} {e : OrderEvent} :
    a.apply e = .ok a' ↔
      e.orderId = a.orderId ∧ e.sequence = a.currentVersion+1 ∧ a' = a.applied e := by
  unfold apply
  split
  · rename_i horder
    simp [horder]
  · rename_i horder
    split
    · rename_i hsequence
      simp [hsequence]
    · rename_i hsequence
      rw [not_not] at horder hsequence
      cases he : e.eventType <;>
        simp [applied, he, horder, hsequence, EventType.resultingStatus, eq_comm]

theorem OrderAggregate.apply_orderId {a a' : OrderAggregate} {e : OrderEvent} (h : a.apply e = .ok a') :
    a'.orderId = a.orderId := by
  obtain ⟨-,-,rfl⟩ := apply_eq_ok.mp h
  rfl

theorem OrderAggregate.replay_orderId {a a' : OrderAggregate} {history : List OrderEvent}
    (h : a.replay history = .ok a') : a'.orderId = a.orderId := by
  induction history generalizing a with
  | nil =>
    obtain rfl := Except.ok.inj h
    rfl
  | cons e history ih =>
    simp only [replay, List.foldlM_cons, bind, Except.bind] at h
    cases ha : a.apply e with
    | error err => simp [ha] at h
    | ok a1 =>
      rw [ha] at h
      rw [ih h, apply_orderId ha]

theorem rehydrate_orderId {orderId : String} {history : List OrderEvent} {a : OrderAggregate}
    (h : rehydrate orderId history = .ok a) : a.orderId = orderId := by
  simp only [rehydrate, OrderAggregate.new, bind, Except.bind] at h
  split at h
  · cases h
  · rename_i hnew
    split at hnew
    · cases hnew
    · obtain rfl := Except.ok.inj hnew
      exact OrderAggregate.replay_orderId h

theorem rehydrate_append (orderId : String) (history : List OrderEvent) (e : OrderEvent) :
    rehydrate orderId (history ++ [e]) = (do let a ← rehydrate orderId history; a.apply e) := by
  unfold rehydrate OrderAggregate.replay
  cases hnew : OrderAggregate.new orderId with
  | error err => rfl
  | ok a =>
    simp only [List.foldlM_append, bind, Except.bind]
    cases ha : List.foldlM OrderAggregate.apply a history with
    | error err => rfl
    | ok a' => cases he : a'.apply e <;> simp [he, pure, Except.pure, bind, Except.bind]

/-- Replay leaves the version and the identity of the last event. -/
theorem rehydrate_head {orderId : String} {history : List OrderEvent} {a : OrderAggregate}
    (h : rehydrate orderId history = .ok a) :
    a.currentVersion = history.length ∧ a.lastEventId = history.getLast?.map OrderEvent.eventId := by
  induction history using List.reverseRecOn generalizing a with
  | nil =>
    obtain ⟨start,hnew,hstart⟩ := bind_eq_ok.mp h
    obtain rfl := Except.ok.inj hstart
    unfold OrderAggregate.new at hnew
    split at hnew
    · cases hnew
    · obtain rfl := Except.ok.inj hnew
      exact ⟨rfl,rfl⟩
  | append_singleton history e ih =>
    rw [rehydrate_append] at h
    obtain ⟨before,hbefore,happly⟩ := bind_eq_ok.mp h
    obtain ⟨-,hsequence,rfl⟩ := OrderAggregate.apply_eq_ok.mp happly
    refine ⟨?_,?_⟩
    · rw [List.length_append, List.length_singleton, Nat.cast_add, Nat.cast_one, ← (ih hbefore).1]
      exact hsequence
    · rw [List.getLast?_concat]
      rfl

end StreamingCompass
