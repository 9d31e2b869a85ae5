import StreamingCompass.Storage.Database

/-! # Request idempotency

The signature, record and decision shared by both stores, and the PostgreSQL store:
its semantic fingerprint, classification and record statement.
-/
namespace StreamingCompass
open Interleaving

structure RequestSignature where
  requestId : String
  commandType : CommandType
  orderId : String
  amount : MoneyInput
deriving DecidableEq, Repr

structure IdempotencyRecord where
  signature : RequestSignature
  acceptedEvent : OrderEvent
deriving DecidableEq, Repr

inductive IdempotencyVerdict where | miss | replay | conflict
deriving DecidableEq, Repr

structure IdempotencyDecision where
  verdict : IdempotencyVerdict
  reason : String
  record : Option IdempotencyRecord
deriving DecidableEq, Repr

namespace IdempotencyDecision

def miss : IdempotencyDecision := ⟨.miss,"No prior request with this request_id",none⟩
def replay (r : IdempotencyRecord) : IdempotencyDecision :=
  ⟨.replay,"Semantically identical retry detected",some r⟩
def conflict (r : IdempotencyRecord) : IdempotencyDecision :=
  ⟨.conflict,"Same request_id reused with different payload",some r⟩

end IdempotencyDecision

def fingerprintVersion : ℕ := 1

def buildSemanticFingerprint (s : RequestSignature) : Except PyException String := do
  let amount ← moneyToStorageString s.amount
  .ok ("|".intercalate
    ["v" ++ toString fingerprintVersion,s.commandType.value,s.orderId,amount])

/-- The fingerprint of a command on an order with a canonical amount. -/
def fingerprintText (command : CommandType) (orderId : String) (amount : Decimal) : String :=
  "|".intercalate ["v" ++ toString fingerprintVersion,command.value,orderId,amount.formatF]

theorem buildSemanticFingerprint_eq (s : RequestSignature) :
    buildSemanticFingerprint s =
      (normalizeMoney s.amount).map (fingerprintText s.commandType s.orderId) := by
  simp only [buildSemanticFingerprint, moneyToStorageString]
  cases normalizeMoney s.amount <;> rfl

theorem toList_fingerprintText (command : CommandType) (orderId : String) (amount : Decimal) :
    (fingerprintText command orderId amount).toList =
      "v1|".toList ++ (command.value.toList ++ '|' :: (orderId.toList ++ '|' :: amount.formatF.toList)) := by
  change ("v1" ++ "|" ++ command.value ++ "|" ++ orderId ++ "|" ++ amount.formatF).toList = _
  simp [String.toList_append]

/-- Two parts without the separator in the first are told apart. -/
theorem append_separator_inj {α : Type} {a : α} {xs ys xs' ys' : List α} (hx : a ∉ xs)
    (hx' : a ∉ xs') (h : xs ++ a :: ys = xs' ++ a :: ys') : xs = xs' ∧ ys = ys' := by
  induction xs generalizing xs' with
  | nil =>
    cases xs' with
    | nil => exact ⟨rfl,(List.cons.inj h).2⟩
    | cons b xs' =>
      obtain ⟨rfl,-⟩ := List.cons.inj h
      exact absurd (List.mem_cons_self ..) hx'
  | cons b xs ih =>
    cases xs' with
    | nil =>
      obtain ⟨rfl,-⟩ := List.cons.inj h
      exact absurd (List.mem_cons_self ..) hx
    | cons b' xs' =>
      obtain ⟨rfl,ht⟩ := List.cons.inj h
      obtain ⟨rfl,hy⟩ := ih (fun hm => hx (List.mem_cons_of_mem _ hm))
        (fun hm => hx' (List.mem_cons_of_mem _ hm)) ht
      exact ⟨rfl,hy⟩

/-- Two parts without the separator in the last are told apart. -/
theorem append_separator_inj_right {α : Type} {a : α} {xs ys xs' ys' : List α} (hy : a ∉ ys)
    (hy' : a ∉ ys') (h : xs ++ a :: ys = xs' ++ a :: ys') : xs = xs' ∧ ys = ys' := by
  have hr : ys.reverse ++ a :: xs.reverse = ys'.reverse ++ a :: xs'.reverse := by
    simpa using congrArg List.reverse h
  obtain ⟨h1,h2⟩ := append_separator_inj (by simpa using hy) (by simpa using hy') hr
  exact ⟨List.reverse_injective h2,List.reverse_injective h1⟩

/-- The unescaped fingerprint determines command, order and canonical amount, whatever
separators the order id contains. -/
theorem fingerprintText_injective {c c' : CommandType} {o o' : String} {s s' : Bool} {q q' : ℕ}
    (h : fingerprintText c o (.ofCents s q) = fingerprintText c' o' (.ofCents s' q')) :
    c = c' ∧ o = o' ∧ s = s' ∧ q = q' := by
  have hl := congrArg String.toList h
  rw [toList_fingerprintText, toList_fingerprintText] at hl
  have hc (c : CommandType) : '|' ∉ c.value.toList := by cases c <;> decide
  obtain ⟨hcmd,hrest⟩ := append_separator_inj (hc c) (hc c') (List.append_cancel_left hl)
  obtain ⟨ho,hd⟩ := append_separator_inj_right (Decimal.separator_not_mem_formatF s q)
    (Decimal.separator_not_mem_formatF s' q') hrest
  obtain ⟨rfl,rfl⟩ := Decimal.formatF_ofCents_injective (String.toList_injective hd)
  refine ⟨?_,String.toList_injective ho,rfl,rfl⟩
  cases c <;> cases c' <;> first | rfl | exact absurd hcmd (by decide)

namespace PostgresIdempotencyStore
variable {σ : Type}

/-- `_row_to_idempotency_record`, with its own hydration of the joined event. -/
def rowToIdempotencyRecord (row : IdempotencyRow × OrderEventRow) : IdempotencyRecord where
  signature := ⟨row.1.requestId,row.1.commandType,row.1.orderId,.decimal row.1.amount.toDecimal⟩
  acceptedEvent :=
    { eventId := row.2.acceptedEventId
      requestId := row.2.requestId
      orderId := row.2.orderId
      sequence := row.2.sequence
      eventType := row.2.eventType
      amount := row.2.amount.toDecimal
      occurredAtMs := row.2.occurredAtMs
      proof := ⟨row.2.proofPrevStatus,row.2.proofPrevVersion,row.2.proofPrevEventId⟩ }

/-- Classify a request against the row loaded for its request id. -/
def classify (s : RequestSignature) (existing : Option (IdempotencyRow × OrderEventRow)) :
    Except PyException IdempotencyDecision :=
  match existing with
  | none => .ok .miss
  | some row => do
    let expected ← buildSemanticFingerprint s
    if row.1.fingerprintVersion = fingerprintVersion ∧ row.1.semanticFingerprint = expected then
      .ok (.replay (rowToIdempotencyRecord row))
    else .ok (.conflict (rowToIdempotencyRecord row))

theorem classify_cases {s : RequestSignature} {row : Option (IdempotencyRow × OrderEventRow)}
    {d : IdempotencyDecision} (h : classify s row = .ok d) :
    d = .miss ∧ row = none ∨ ∃ r, row = some r ∧
      (d = .replay (rowToIdempotencyRecord r) ∨ d = .conflict (rowToIdempotencyRecord r)) := by
  cases row with
  | none => exact .inl ⟨(Except.ok.inj h).symm,rfl⟩
  | some r =>
    right
    refine ⟨r,rfl,?_⟩
    simp only [classify, bind, Except.bind] at h
    split at h
    · cases h
    · split at h
      · exact .inl (Except.ok.inj h).symm
      · exact .inr (Except.ok.inj h).symm

def check (s : RequestSignature) : SqlRoutine σ IdempotencyDecision := do
  let existing ← sql (.selectIdempotencyRecord s.requestId)
  Routine.ofExcept (classify s existing)

/-- `Decimal(text)` outside the money helpers. -/
def decimalOfText (text : String) : Except PyException Decimal :=
  match Decimal.ofText (strip text) with
  | some d => .ok d
  | none => .error .invalidOperation

def recordParameters (s : RequestSignature) (e : OrderEvent) :
    Except PyException IdempotencyParameters := do
  let text ← moneyToStorageString s.amount
  let amount ← decimalOfText text
  let fingerprint ← buildSemanticFingerprint s
  .ok ⟨s.requestId,s.orderId,s.commandType,amount,fingerprintVersion,fingerprint,e.eventId,e.sequence⟩

def record (s : RequestSignature) (e : OrderEvent) : SqlRoutine σ Unit := do
  let parameters ← Routine.ofExcept (recordParameters s e)
  sql (.insertIdempotencyRecord parameters)

/-- The verdict on a row written for a command, an order and a canonical amount. -/
theorem classify_some {s : RequestSignature} (row : IdempotencyRow × OrderEventRow)
    {command : CommandType} {orderId : String} {negative : Bool} {q : ℕ} {d : Decimal}
    (hv : row.1.fingerprintVersion = fingerprintVersion)
    (hf : row.1.semanticFingerprint = fingerprintText command orderId (.ofCents negative q))
    (hs : normalizeMoney s.amount = .ok d) :
    classify s (some row) = .ok
      (if command = s.commandType ∧ orderId = s.orderId ∧ .ofCents negative q = d
        then .replay (rowToIdempotencyRecord row) else .conflict (rowToIdempotencyRecord row)) := by
  obtain ⟨negative',q',-,rfl⟩ := normalizeMoney_eq_ok hs
  simp only [classify, buildSemanticFingerprint_eq, hs, Except.map, bind, Except.bind, hv, hf, true_and]
  by_cases hsame : command = s.commandType ∧ orderId = s.orderId ∧
      Decimal.ofCents negative q = .ofCents negative' q'
  · obtain ⟨rfl,rfl,hamount⟩ := hsame
    rw [hamount, if_pos rfl, if_pos ⟨rfl,rfl,rfl⟩]
  · rw [if_neg hsame, if_neg]
    intro hfingerprint
    obtain ⟨hc,ho,rfl,rfl⟩ := fingerprintText_injective hfingerprint
    exact hsame ⟨hc,ho,rfl⟩

theorem rowToIdempotencyRecord_acceptedEvent (row : IdempotencyRow × OrderEventRow) :
    (rowToIdempotencyRecord row).acceptedEvent = rowToOrderEvent row.2 := rfl

end PostgresIdempotencyStore
end StreamingCompass
