import StreamingCompass.Transactional.WriteSide

/-! # The in-memory write side

`OrderRegistry` over `EventStore`, `IdempotencyProvider` and `OptimisticVersionGate`.
-/
namespace StreamingCompass

/-- `==` of two amounts as Python objects: numbers compare numerically, and a string
equals no number. -/
def MoneyInput.eq : MoneyInput → MoneyInput → Bool
  | .str s, .str s' => s == s'
  | .int n, .int n' => n == n'
  | .decimal d, .decimal d' => d.eq d'
  | .int n, .decimal d | .decimal d, .int n => (Decimal.finite (decide (n < 0)) n.natAbs 0).eq d
  | _, _ => false

/-- Dataclass equality. -/
def RequestSignature.eq (s s' : RequestSignature) : Bool :=
  s.requestId == s'.requestId && s.commandType == s'.commandType && s.orderId == s'.orderId &&
    s.amount.eq s'.amount

/-- `records_by_request_id` -/
abbrev IdempotencyProvider : Type := String → Option IdempotencyRecord

namespace IdempotencyProvider

def check (p : IdempotencyProvider) (s : RequestSignature) : IdempotencyDecision :=
  match p s.requestId with
  | none => .miss
  | some existing => if existing.signature.eq s then .replay existing else .conflict existing

def record (p : IdempotencyProvider) (s : RequestSignature) (e : OrderEvent) : IdempotencyProvider :=
  Function.update p s.requestId (some ⟨s,e⟩)

end IdempotencyProvider

/-- `events_by_order_id`; an absent stream is empty. -/
abbrev EventStore : Type := String → List OrderEvent

namespace EventStore

def append (store : EventStore) (candidate : OrderEvent) (expectedCurrentVersion : ℤ) :
    Except PyException EventStore :=
  let stream := store candidate.orderId
  if stream.length ≠ expectedCurrentVersion then .error (.valueError
    ("Version conflict: store_version=" ++ toString stream.length ++
      ", expected_version=" ++ toString expectedCurrentVersion))
  else if candidate.sequence ≠ expectedCurrentVersion+1 then
    .error (PostgresEventStore.continuityError (expectedCurrentVersion+1) candidate.sequence)
  else .ok (Function.update store candidate.orderId (stream ++ [candidate]))

end EventStore

namespace OptimisticVersionGate

/-- The admission result, and the store after the attempt. -/
def appendIfAdmitted (store : EventStore) (candidate : OrderEvent) (expectedCurrentVersion : ℤ) :
    AdmissionResult × EventStore :=
  match store.append candidate expectedCurrentVersion with
  | .error e => (rejected candidate .staleWrite
      ("Admission rejected by optimistic version gate: " ++ e.str),store)
  | .ok store => (⟨.admitted,"Event admitted by optimistic version gate",candidate.eventId,
      some candidate.eventId,none⟩,store)

end OptimisticVersionGate

inductive RegistryOutcome where
  | event (e : OrderEvent)
  | conflict (decision : IdempotencyDecision)
  | blocked (decision : ValidationDecision)
  | notAdmitted (result : AdmissionResult)
deriving DecidableEq, Repr

structure OrderRegistry where
  store : EventStore
  idem : IdempotencyProvider

namespace OrderRegistry

def empty : OrderRegistry := ⟨fun _ => [],fun _ => none⟩

/-- `handle_create` and `handle_pay`, which differ in the command only. -/
def handle (r : OrderRegistry) (mode : ValidationMode) (s : RequestSignature) (draw : Draw) :
    Except PyException RegistryOutcome × OrderRegistry :=
  let decision := r.idem.check s
  match decision.verdict, decision.record with
  | .replay, some record => (.ok (.event record.acceptedEvent),r)
  | .replay, none => (.error (.other "AttributeError" "'NoneType' object has no attribute 'accepted_event'"),r)
  | .conflict, _ => (.ok (.conflict decision),r)
  | .miss, _ =>
    let history := r.store s.orderId
    match rehydrate s.orderId history with
    | .error e => (.error e,r)
    | .ok aggregate =>
      match aggregate.handle s.commandType draw s.requestId s.amount with
      | .error e => (.error e,r)
      | .ok candidate =>
        let validation := decideValidation mode candidate
          (buildValidationContext aggregate history.getLast?)
        if validation.action ≠ .allow then (.ok (.blocked validation),r)
        else
          match OptimisticVersionGate.appendIfAdmitted r.store candidate aggregate.currentVersion with
          | (admission,store) =>
            if admission.verdict ≠ .admitted then (.ok (.notAdmitted admission),{r with store})
            else match aggregate.apply candidate with
              | .error e => (.error e,{r with store})
              | .ok _ => (.ok (.event candidate),⟨store,r.idem.record s candidate⟩)

def handleCreate (r : OrderRegistry) (mode : ValidationMode) (requestId orderId : String)
    (amount : MoneyInput) (draw : Draw) : Except PyException RegistryOutcome × OrderRegistry :=
  r.handle mode ⟨requestId,.create,orderId,amount⟩ draw

def handlePay (r : OrderRegistry) (mode : ValidationMode) (requestId orderId : String)
    (amount : MoneyInput) (draw : Draw) : Except PyException RegistryOutcome × OrderRegistry :=
  r.handle mode ⟨requestId,.pay,orderId,amount⟩ draw

end OrderRegistry
end StreamingCompass
