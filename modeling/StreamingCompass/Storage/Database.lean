import StreamingCompass.Interleaving.System
import StreamingCompass.Storage.Tables

/-! # Statements

The operations a connection performs, and their meaning under READ COMMITTED: a
statement sees committed rows and its own transaction's writes, a unique key that
another open transaction has written makes it wait, and an error aborts the
transaction. `none` is a statement that waits.
-/
namespace StreamingCompass
open Interleaving

inductive Operation where
  | autocommit
  /-- whether the connection is idle -/
  | transactionStatus
  | begin
  | commit
  | rollback
  | selectIdempotencyRecord (requestId : String)
  | insertIdempotencyRecord (parameters : IdempotencyParameters)
  | selectHistory (orderId : String)
  | selectCurrentVersion (orderId : String)
  | insertOrderEvent (event : OrderEvent)
  | tryAdvisoryXactLock (key1 key2 : String)
  | selectEligible (projectionName : String) (projectionEpoch limit : ℕ)
  | selectProjectionState (orderId : String)
  | upsertProjectionState (parameters : ProjectionStateParameters)
  | advanceProgress (progress : ProgressRow)
deriving DecidableEq

abbrev Operation.Answer : Operation → Type
  | .autocommit => Bool
  | .transactionStatus => Bool
  | .begin => Unit
  | .commit => Unit
  | .rollback => Unit
  | .selectIdempotencyRecord _ => Option (IdempotencyRow × OrderEventRow)
  | .insertIdempotencyRecord _ => Unit
  | .selectHistory _ => List OrderEventRow
  | .selectCurrentVersion _ => ℤ
  | .insertOrderEvent _ => Unit
  | .tryAdvisoryXactLock _ _ => Bool
  | .selectEligible _ _ _ => List OrderEventRow
  | .selectProjectionState _ => Option ProjectionStateRow
  | .upsertProjectionState _ => Unit
  | .advanceProgress _ => Option ProgressRow

abbrev SqlReply (op : Operation) : Type := Reply Operation.Answer PyException op
abbrev SqlProgram (α : Type) : Type := Program Operation Operation.Answer PyException α
abbrev SqlLog : Type := Log Operation Operation.Answer PyException
abbrev SqlRoutine (σ α : Type) : Type := Routine Operation Operation.Answer PyException σ α

/-- Perform one operation; an exception propagates. -/
abbrev sql {σ : Type} (op : Operation) : SqlRoutine σ op.Answer := Routine.perform op

/-- The server as the connections of a run find it. -/
structure Database (ι : Type) where
  autocommit : ι → Bool
  hashtext : String → ℤ

def inFailedSqlTransaction : PyException := .databaseError "25P02"
  "current transaction is aborted, commands ignored until end of transaction block"
def nulInText : PyException := .databaseError ""
  "PostgreSQL text fields cannot contain NUL (0x00) bytes"
def checkViolation (relation constraint : String) : PyException := .databaseError "23514"
  ("new row for relation \"" ++ relation ++ "\" violates check constraint \"" ++ constraint ++ "\"")
def foreignKeyViolation (relation constraint : String) : PyException := .databaseError "23503"
  ("insert or update on table \"" ++ relation ++ "\" violates foreign key constraint \"" ++
    constraint ++ "\"")
def duplicateKey (constraint : String) : PyException := .uniqueViolation (some constraint)
  ("duplicate key value violates unique constraint \"" ++ constraint ++ "\"")

def hasNul (s : String) : Bool := s.toList.any (fun c => c.toNat == 0)

/-- `length(trim(text)) > 0`; `trim` removes spaces only. -/
def trimNotEmpty (s : String) : Bool := s.toList.any (fun c => c != ' ')

/-- The first failed CHECK of a row, in the order PostgreSQL evaluates them. -/
def failedCheck (relation : String) : List (String × Bool) → Option PyException
  | [] => none
  | (constraint,holds) :: rest =>
    if holds then failedCheck relation rest else some (checkViolation relation constraint)

theorem trimNotEmpty_of_not_blank {s : String} (h : isBlank s = false) : trimNotEmpty s = true := by
  have hne : ¬∀ c ∈ s.toList, isPySpace c = true := by
    rw [← strip_eq_nil_iff]
    intro hs
    simp [isBlank, hs] at h
  push Not at hne
  obtain ⟨c,hc,hspace⟩ := hne
  refine List.any_eq_true.mpr ⟨c,hc,?_⟩
  simp only [bne_iff_ne, ne_eq]
  rintro rfl
  exact hspace (by decide)

theorem failedCheck_pass {relation : String} {checks : List (String × Bool)}
    (h : ∀ c ∈ checks, c.2 = true) : failedCheck relation checks = none := by
  induction checks with
  | nil => rfl
  | cons c checks ih =>
    rw [failedCheck, h c (List.mem_cons_self ..), if_pos rfl]
    exact ih (fun c' hc => h c' (List.mem_cons_of_mem _ hc))

variable {ι : Type} [DecidableEq ι] [Fintype ι]

/-- What a statement does to its transaction; `none` waits for another transaction. -/
abbrev Effect (α : Type) : Type := Option (Except PyException (α × Transaction))

def insertOrderEvent (w : World ι) (i : ι) (position : ℕ) (e : OrderEvent) : Effect Unit :=
  let rows := (w.visible i).orderEvents
  match Numeric.ofDecimal e.amount with
  | .error err => some (.error err)
  | .ok amount =>
    match failedCheck "order_events"
      [("ck_order_events_amount_non_negative",Numeric.zero.le amount),
       ("ck_order_events_sequence_positive",decide (0 < e.sequence))] with
    | some err => some (.error err)
    | none =>
      let sameId := fun r : OrderEventRow => decide (r.acceptedEventId = e.eventId)
      let samePosition := fun r : OrderEventRow =>
        decide (r.orderId = e.orderId ∧ r.sequence = e.sequence)
      if rows.any sameId then some (.error (duplicateKey "order_events_pkey"))
      else if w.others i (fun x => x.orderEvents.any sameId) then none
      else if rows.any samePosition then
        some (.error (duplicateKey "uq_order_events_order_id_sequence"))
      else if w.others i (fun x => x.orderEvents.any samePosition) then none
      else
        let x := w.transactions i
        some (.ok ((),{x with orderEvents := x.orderEvents ++ [orderEventRow e amount position]}))

def insertIdempotencyRecord (w : World ι) (i : ι) (p : IdempotencyParameters) : Effect Unit :=
  let t := w.visible i
  match Numeric.ofDecimal p.amount with
  | .error err => some (.error err)
  | .ok amount =>
    match failedCheck "idempotency_records"
      [("ck_idempotency_amount_non_negative",Numeric.zero.le amount),
       ("ck_idempotency_fingerprint_version_positive",decide (0 < p.fingerprintVersion)),
       ("ck_idempotency_result_sequence_positive",decide (0 < p.resultSequence)),
       ("ck_idempotency_semantic_fingerprint_not_empty",trimNotEmpty p.semanticFingerprint)] with
    | some err => some (.error err)
    | none =>
      let sameRequest := fun r : IdempotencyRow => decide (r.requestId = p.requestId)
      if t.idempotencyRecords.any sameRequest then
        some (.error (duplicateKey "idempotency_records_pkey"))
      else if w.others i (fun x => x.idempotencyRecords.any sameRequest) then none
      else if t.orderEvents.any (fun e => e.acceptedEventId = p.acceptedEventId) then
        let x := w.transactions i
        some (.ok ((),{x with
          idempotencyRecords := x.idempotencyRecords ++ [idempotencyRow p amount]}))
      else some (.error (foreignKeyViolation "idempotency_records" "fk_idempotency_accepted_event"))

/-- `pg_try_advisory_xact_lock(hashtext(key1), hashtext(key2))` -/
def tryAdvisoryXactLock (D : Database ι) (w : World ι) (i : ι) (key1 key2 : String) : Effect Bool :=
  let lock := (D.hashtext key1,D.hashtext key2)
  let x := w.transactions i
  if w.others i (fun x => x.advisoryLocks.contains lock) then some (.ok (false,x))
  else some (.ok (true,{x with advisoryLocks := lock :: x.advisoryLocks}))

def upsertProjectionState (w : World ι) (i : ι) (p : ProjectionStateParameters) : Effect Unit :=
  match Numeric.ofDecimal p.totalAmount with
  | .error err => some (.error err)
  | .ok total => match Numeric.ofDecimal p.paidAmount with
    | .error err => some (.error err)
    | .ok paid =>
      match failedCheck "projection_states"
        [("ck_projection_states_last_sequence_non_negative",decide (0 ≤ p.lastSequence)),
         ("ck_projection_states_order_id_not_empty",trimNotEmpty p.orderId),
         ("ck_projection_states_paid_amount_non_negative",Numeric.zero.le paid),
         ("ck_projection_states_paid_amount_not_exceed_total_amount",paid.le total),
         ("ck_projection_states_total_amount_non_negative",Numeric.zero.le total),
         ("ck_projection_states_version_non_negative",decide (0 ≤ p.version))] with
      | some err => some (.error err)
      | none =>
        if w.others i (fun x => x.projectionStates.any (fun r => r.orderId = p.orderId)) then none
        else
          let x := w.transactions i
          some (.ok ((),{x with projectionStates :=
            ⟨p.orderId,p.status,total,paid,p.version,p.lastSequence⟩ :: x.projectionStates}))

/-- The row the UPDATE or the INSERT of the progress statement writes, if any. -/
def progressWrite (t : Tables) (p : ProgressRow) : Bool :=
  t.orderEvents.any (fun e => e.acceptedEventId = p.lastEventId ∧ e.orderId = p.key.orderId ∧
    e.sequence = p.lastSequence ∧ e.globalPosition = p.lastGlobalPosition) &&
  match t.progress p.key with
  | some r => decide (r.lastSequence+1 = p.lastSequence)
  | none => decide (p.lastSequence = 1)

/-- The single statement that updates or inserts progress. The exact-next trigger and
the lineage key hold of every row it writes. -/
def advanceProgress (w : World ι) (i : ι) (p : ProgressRow) : Effect (Option ProgressRow) :=
  let x := w.transactions i
  if progressWrite (w.visible i) p then
    match failedCheck "projection_order_progress"
      [("ck_projection_order_progress_epoch_positive",decide (0 < p.key.projectionEpoch)),
       ("ck_projection_order_progress_global_position_positive",decide (0 < p.lastGlobalPosition)),
       ("ck_projection_order_progress_name_not_empty",trimNotEmpty p.key.projectionName),
       ("ck_projection_order_progress_order_id_not_empty",trimNotEmpty p.key.orderId),
       ("ck_projection_order_progress_sequence_positive",decide (0 < p.lastSequence))] with
    | some err => some (.error err)
    | none =>
      if w.others i (fun x => x.progress.any (fun r => r.key = p.key)) then none
      else some (.ok (some p,{x with progress := p :: x.progress}))
  else some (.ok (none,x))

/-- The text parameters of a statement. -/
def Operation.texts : Operation → List String
  | .selectIdempotencyRecord requestId => [requestId]
  | .insertIdempotencyRecord p => [p.requestId,p.orderId,p.semanticFingerprint]
  | .selectHistory orderId | .selectCurrentVersion orderId | .selectProjectionState orderId =>
    [orderId]
  | .insertOrderEvent e => [e.orderId,e.requestId]
  | .tryAdvisoryXactLock key1 key2 => [key1,key2]
  | .selectEligible name _ _ => [name]
  | .upsertProjectionState p => [p.orderId]
  | .advanceProgress p => [p.key.projectionName,p.key.orderId]
  | _ => []

/-- End a statement: without an explicit transaction, autocommit ends the implicit one. -/
def settle (D : Database ι) (w : World ι) (i : ι) (x : Transaction) : World ι :=
  if D.autocommit i && !(w.transactions i).isOpen then (w.put i x).commit i
  else w.put i {x with isOpen := true}

/-- Run one statement. Text the driver cannot encode is refused before it is sent, and
an aborted transaction accepts nothing. -/
def statement {α : Type} (D : Database ι) (w : World ι) (i : ι) (texts : List String)
    (effect : Effect α) : Option (Except PyException α × World ι) :=
  let x := w.transactions i
  if texts.any hasNul then some (.error nulInText,settle D w i x)
  else if x.failed then some (.error inFailedSqlTransaction,w)
  else match effect with
    | none => none
    | some (.error e) => some (.error e,settle D w i {x with failed := true})
    | some (.ok (a,x')) => some (.ok a,settle D w i x')

def read {α : Type} (w : World ι) (i : ι) (a : α) : Effect α := some (.ok (a,w.transactions i))

/-- The effect of a statement. `position` is what the sequence behind `global_position` yields. -/
def effect (D : Database ι) (position : ℕ) (i : ι) (w : World ι) :
    (op : Operation) → Effect op.Answer
  | .selectIdempotencyRecord requestId => read w i ((w.visible i).loadRecord requestId)
  | .insertIdempotencyRecord p => insertIdempotencyRecord w i p
  | .selectHistory orderId => read w i ((w.visible i).history orderId)
  | .selectCurrentVersion orderId => read w i ((w.visible i).currentVersion orderId)
  | .insertOrderEvent e => insertOrderEvent w i position e
  | .tryAdvisoryXactLock key1 key2 => tryAdvisoryXactLock D w i key1 key2
  | .selectEligible name epoch limit => read w i ((w.visible i).eligible name epoch limit)
  | .selectProjectionState orderId => read w i ((w.visible i).projectionStates orderId)
  | .upsertProjectionState p => upsertProjectionState w i p
  | .advanceProgress p => advanceProgress w i p
  | _ => none

def exec (D : Database ι) (position : ℕ) (i : ι) (w : World ι) :
    (op : Operation) → Option (SqlReply op × World ι)
  | .autocommit => some (.ok (D.autocommit i),w)
  | .transactionStatus => some (.ok (!(w.transactions i).isOpen),w)
  | .begin => some (.ok (),w.put i {w.transactions i with isOpen := true})
  | .commit => some (.ok (),w.commit i)
  | .rollback => some (.ok (),w.rollback i)
  | op => statement D w i op.texts (effect D position i w op)

/-- Operations the environment may fail at any time; ending a transaction is assumed to succeed. -/
def Operation.mayFail : Operation → Bool
  | .commit | .rollback => false
  | _ => true

/-- Whether an operation is a statement sent to the server. -/
def Operation.isStatement : Operation → Bool
  | .autocommit | .transactionStatus | .begin | .commit | .rollback => false
  | _ => true

/-- The world after an operation failed for a reason outside the model. -/
def fault (D : Database ι) (w : World ι) (i : ι) (op : Operation) : World ι :=
  if op.isStatement then settle D w i {w.transactions i with failed := true} else w

/-- A position no row carries yet. -/
def World.FreshPosition (w : World ι) (position : ℕ) : Prop :=
  0 < position ∧ (∀ r ∈ w.tables.orderEvents, r.globalPosition ≠ position) ∧
    ∀ j, ∀ r ∈ (w.transactions j).orderEvents, r.globalPosition ≠ position

inductive SqlStep (D : Database ι) (faulty : ι → Prop) (i : ι) (w : World ι) :
    (op : Operation) → SqlReply op → World ι → Prop where
  | executed {op : Operation} {position : ℕ} {reply : SqlReply op} {w' : World ι}
      (fresh : w.FreshPosition position) (runs : exec D position i w op = some (reply,w')) :
      SqlStep D faulty i w op reply w'
  | failed {op : Operation} {e : PyException} (allowed : faulty i) (mayFail : op.mayFail = true) :
      SqlStep D faulty i w op (.error e) (fault D w i op)

/-- The server as a machine; `faulty` connections may see any operation fail. -/
def Database.machine (D : Database ι) (faulty : ι → Prop) :
    Machine ι (World ι) Operation Operation.Answer PyException where
  step := SqlStep D faulty
  abandon i w := w.rollback i

end StreamingCompass
