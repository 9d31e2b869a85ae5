import StreamingCompass.Storage.Serial
import StreamingCompass.Transactional.Accepted
import StreamingCompass.Transactional.Registry

/-! # The two idempotency stores

The same accepted requests recorded in both stores, and the verdicts both then give on a
further request. PostgreSQL compares canonical amounts, the in-memory store the amounts
as they were passed.
-/
namespace StreamingCompass
open Interleaving

/-! ## Raw and canonical amounts -/

/-- Amounts that compare equal have one canonical form. -/
theorem MoneyInput.normalizeMoney_of_eq {v v' : MoneyInput} {q : ℕ} (he : v.eq v' = true)
    (hv : normalizeMoney v = .ok (.ofCents false q)) (hq : 0 < q) :
    normalizeMoney v' = .ok (.ofCents false q) := by
  have hdecimal {d d' : Decimal} (hd : d.eq d' = true)
      (hn : normalizeMoney (.decimal d) = .ok (.ofCents false q)) :
      normalizeMoney (.decimal d') = .ok (.ofCents false q) := by
    rcases d with ⟨s,c,e⟩ | s | _
    · rcases d' with ⟨s',c',e'⟩ | s' | _
      · exact Decimal.quantize_of_eq hd hn hq
      · cases hd
      · cases hd
    · cases hn
    · cases hn
  cases v with
  | str s =>
    cases v' with
    | str s' =>
      obtain rfl : s = s' := by simpa [MoneyInput.eq] using he
      exact hv
    | int n => cases he
    | decimal d => cases he
  | int n =>
    cases v' with
    | str s' => cases he
    | int n' =>
      obtain rfl : n = n' := by simpa [MoneyInput.eq] using he
      exact hv
    | decimal d => exact hdecimal he hv
  | decimal d =>
    cases v' with
    | str s' => cases he
    | int n =>
      have hsymm : d.eq (.finite (decide (n < 0)) n.natAbs 0) = true := by
        simp only [MoneyInput.eq] at he
        rcases d with ⟨s,c,e⟩ | s | _
        · simp only [Decimal.eq, beq_iff_eq] at he ⊢
          exact he.symm
        · cases he
        · cases he
      exact hdecimal hsymm hv
    | decimal d' => exact hdecimal he hv

/-! ## Statements of a connection nobody competes with -/

section Alone
variable {ι : Type} [DecidableEq ι] [Fintype ι] {D : Database ι} {i : ι} {w : World ι}

/-- A connection with no failed statement, and nobody else in a transaction. -/
structure World.Alone (w : World ι) (i : ι) : Prop where
  healthy : (w.transactions i).failed = false
  others : ∀ j, j ≠ i → w.transactions j = .idle

theorem World.Alone.others_eq_false (h : w.Alone i) {p : Transaction → Bool} (hp : p .idle = false) :
    w.others i p = false := by
  simp only [World.others, decide_eq_false_iff_not, not_exists, not_and, Bool.not_eq_true]
  intro j hj
  rw [h.others j hj, hp]

theorem World.Alone.serve (h : w.Alone i) {op : Operation} {a : op.Answer} {x : Transaction}
    (hs : op.isStatement = true) (ht : op.texts.any hasNul = false)
    (he : effect D w.nextPosition i w op = some (.ok (a,x))) (hx : x.failed = false) :
    ∃ w', D.serve i op w = some (.ok a,w') ∧ w'.visible i = w.tables.apply x ∧ w'.Alone i := by
  refine ⟨settle D w i x,?_,?_,?_⟩
  · simp only [Database.serve, exec_statement hs, statement, ht, Bool.false_eq_true, if_false,
      h.healthy, he]
  · by_cases hex : Explicit D w i
    · rw [settle_explicit hex]
      simp [World.visible, Tables.apply]
    · rw [settle_implicit hex, World.visible, World.commit_self, Tables.apply_idle, World.commit_tables]
      · simp [World.visible]
      · rw [World.put_self, hx]
  · by_cases hex : Explicit D w i
    · rw [settle_explicit hex]
      refine ⟨by rw [World.put_self, hx],fun j hj => ?_⟩
      rw [World.put_ne _ hj, h.others j hj]
    · rw [settle_implicit hex]
      refine ⟨by rw [World.commit_self]; rfl,fun j hj => ?_⟩
      rw [World.commit_ne _ hj, World.put_ne _ hj, h.others j hj]

/-- What the connection sees, when nobody competes with it. -/
structure World.Sees (w : World ι) (i : ι) (events : List OrderEventRow)
    (records : List IdempotencyRow) : Prop where
  alone : w.Alone i
  orderEvents : (w.visible i).orderEvents = events
  idempotencyRecords : (w.visible i).idempotencyRecords = records

end Alone

/-! ## Recording -/

/-- An accepted request: its event is the row of an order, and carries the normalized amount. -/
structure AcceptedRequest (events : List OrderEventRow) (s : RequestSignature) (e : OrderEvent) :
    Prop where
  row : ∃ row ∈ events, rowToOrderEvent row = e ∧ row.Texts ∧ 0 < row.sequence
  requestId : e.requestId = s.requestId
  orderId : e.orderId = s.orderId
  amount : ensurePositiveMoney s.amount = .ok e.amount

/-- Calls of `record` for accepted events with distinct request ids, in an empty store. -/
structure AcceptedCalls (t : Tables) (calls : List (RequestSignature × OrderEvent)) : Prop where
  fresh : t.idempotencyRecords = []
  eventIds : (t.orderEvents.map (fun r => r.acceptedEventId)).Nodup
  requests : (calls.map (fun call => call.1.requestId)).Nodup
  accepted : ∀ call ∈ calls, AcceptedRequest t.orderEvents call.1 call.2

/-- The row that holds a call. -/
structure RecordOf (call : RequestSignature × OrderEvent) (r : IdempotencyRow) : Prop where
  requestId : r.requestId = call.1.requestId
  fingerprintVersion : r.fingerprintVersion = fingerprintVersion
  semanticFingerprint :
    r.semanticFingerprint = fingerprintText call.1.commandType call.1.orderId call.2.amount
  acceptedEventId : r.acceptedEventId = call.2.eventId

namespace PostgresIdempotencyStore

/-- The calls of `record` one after another. -/
def recordAll {σ : Type} : List (RequestSignature × OrderEvent) → SqlRoutine σ Unit
  | [] => pure ()
  | call :: calls => do
    record call.1 call.2
    recordAll calls

variable {ι : Type} [DecidableEq ι] [Fintype ι] {D : Database ι} {i : ι} {w : World ι} {σ : Type} (st : σ)
  {events : List OrderEventRow} {records : List IdempotencyRow} {s : RequestSignature} {e : OrderEvent}

theorem fingerprintText_not_blank (command : CommandType) (orderId : String) (amount : Decimal) :
    trimNotEmpty (fingerprintText command orderId amount) = true := by
  rw [trimNotEmpty, toList_fingerprintText, List.any_append]
  have h : ("v1|".toList).any (fun c => c != ' ') = true := by decide
  rw [h, Bool.true_or]

theorem hasNul_fingerprintText {command : CommandType} {orderId : String} {q : ℕ}
    (ho : hasNul orderId = false) :
    hasNul (fingerprintText command orderId (.ofCents false q)) = false := by
  have hc : (command.value.toList).any (fun c => c.toNat == 0) = false := by cases command <;> decide
  have hd : ((Decimal.ofCents false q).formatF.toList).any (fun c => c.toNat == 0) = false := by
    rw [List.any_eq_false]
    intro c hc
    rcases Decimal.mem_formatF_ofCents hc with rfl | rfl | hd
    · decide
    · decide
    · obtain ⟨d,hd,rfl⟩ := Decimal.isDigit_cases hd
      interval_cases d <;> decide
  rw [hasNul] at ho ⊢
  rw [toList_fingerprintText]
  simp [List.any_append, List.any_cons, hc, ho, hd]

theorem record_run (h : w.Sees i events records) (ha : AcceptedRequest events s e)
    (hnew : ∀ r ∈ records, r.requestId ≠ s.requestId) :
    ∃ w' r, (record s e).run (D.serve i) st w = some ((.ok (),st),w') ∧
      w'.Sees i events (records ++ [r]) ∧ RecordOf (s,e) r := by
  obtain ⟨hnorm,q,hq,-,hamount⟩ := ensurePositiveMoney_eq_ok.mp ha.amount
  obtain ⟨row,hrow,rfl,htexts,hseq⟩ := ha.row
  have hpositive : PositiveAmount row.amount.toDecimal := (ensurePositiveMoney_eq_ok.mp ha.amount).2
  have hpos : Numeric.zero.le row.amount = true := Numeric.zero_le_of_positiveAmount hpositive
  have hstored : Numeric.ofDecimal row.amount.toDecimal = .ok row.amount :=
    Numeric.ofDecimal_toDecimal hpos
  have hparams : recordParameters s (rowToOrderEvent row) = .ok ⟨s.requestId,s.orderId,s.commandType,
      row.amount.toDecimal,fingerprintVersion,
      fingerprintText s.commandType s.orderId row.amount.toDecimal,row.acceptedEventId,row.sequence⟩ := by
    rw [recordParameters_eq, hnorm]
    rfl
  generalize hp : (⟨s.requestId,s.orderId,s.commandType,row.amount.toDecimal,fingerprintVersion,
      fingerprintText s.commandType s.orderId row.amount.toDecimal,row.acceptedEventId,row.sequence⟩ :
      IdempotencyParameters) = p at hparams
  have hinsert : insertIdempotencyRecord w i p = some (.ok ((),{w.transactions i with
      idempotencyRecords := (w.transactions i).idempotencyRecords ++
        [idempotencyRow p row.amount]})) := by
    subst hp
    have hcheck : failedCheck "idempotency_records"
        [("ck_idempotency_amount_non_negative",Numeric.zero.le row.amount),
         ("ck_idempotency_fingerprint_version_positive",decide (0 < fingerprintVersion)),
         ("ck_idempotency_result_sequence_positive",decide (0 < row.sequence)),
         ("ck_idempotency_semantic_fingerprint_not_empty",
           trimNotEmpty (fingerprintText s.commandType s.orderId row.amount.toDecimal))] = none := by
      simp [failedCheck, hpos, hseq, fingerprintText_not_blank, fingerprintVersion]
    have hunused : records.any (fun r => decide (r.requestId = s.requestId)) = false := by
      simpa using hnew
    have hreferenced : events.any (fun e => decide (e.acceptedEventId = row.acceptedEventId)) = true :=
      List.any_eq_true.mpr ⟨row,hrow,by simp⟩
    have hothers : w.others i (fun x => x.idempotencyRecords.any
        (fun r => decide (r.requestId = s.requestId))) = false :=
      h.alone.others_eq_false (by simp [Transaction.idle])
    simp only [insertIdempotencyRecord, hstored, hcheck, h.idempotencyRecords, h.orderEvents, hunused,
      hothers, hreferenced, Bool.false_eq_true, if_false, if_true]
  have hfingerprint : hasNul p.semanticFingerprint = false := by
    subst hp
    change row.amount.toDecimal = .ofCents false q at hamount
    simp only [hamount]
    exact hasNul_fingerprintText (ha.orderId ▸ htexts.orderId)
  have htexts' : (Operation.insertIdempotencyRecord p).texts.any hasNul = false := by
    subst hp
    have h1 : hasNul s.requestId = false := ha.requestId ▸ htexts.requestId
    have h2 : hasNul s.orderId = false := ha.orderId ▸ htexts.orderId
    simp [Operation.texts, h1, h2, hfingerprint]
  obtain ⟨w',hserve,hvisible,halone⟩ := h.alone.serve (D := D) rfl htexts' hinsert h.alone.healthy
  refine ⟨w',idempotencyRow p row.amount,?_,⟨halone,?_,?_⟩,?_⟩
  · simp only [record, Routine.run_bind, Routine.run_ofExcept, hparams, Option.bind_some,
      Routine.run_perform, hserve, Option.map_some]
  · rw [hvisible, ← h.orderEvents]
    rfl
  · rw [hvisible, ← h.idempotencyRecords]
    simp [World.visible]
  · subst hp
    exact ⟨rfl,rfl,rfl,rfl⟩

theorem recordAll_run {calls : List (RequestSignature × OrderEvent)} (h : w.Sees i events records)
    (ha : ∀ call ∈ calls, AcceptedRequest events call.1 call.2)
    (hnodup : (calls.map (fun call => call.1.requestId)).Nodup)
    (hnew : ∀ call ∈ calls, ∀ r ∈ records, r.requestId ≠ call.1.requestId) :
    ∃ w' rs, (recordAll calls).run (D.serve i) st w = some ((.ok (),st),w') ∧
      w'.Sees i events (records ++ rs) ∧ List.Forall₂ RecordOf calls rs := by
  induction calls generalizing w records with
  | nil => exact ⟨w,[],rfl,by rwa [List.append_nil],.nil⟩
  | cons call calls ih =>
    obtain ⟨w1,r,hrun,hsees,hr⟩ := record_run (D := D) st h (ha call (List.mem_cons_self ..))
      (hnew call (List.mem_cons_self ..))
    rw [List.map_cons, List.nodup_cons] at hnodup
    obtain ⟨w',rs,hrest,hsees',hrs⟩ := ih hsees (fun c hc => ha c (List.mem_cons_of_mem _ hc)) hnodup.2 (by
      intro c hc r' hr'
      rcases List.mem_append.mp hr' with hold | hlast
      · exact hnew c (List.mem_cons_of_mem _ hc) r' hold
      · obtain rfl := List.mem_singleton.mp hlast
        rw [hr.requestId]
        intro heq
        exact hnodup.1 (heq ▸ List.mem_map_of_mem hc))
    refine ⟨w',r :: rs,?_,by simpa using hsees',.cons hr hrs⟩
    simp only [recordAll, Routine.run_bind, hrun, Option.bind_some, hrest]

theorem check_run (h : w.Sees i events records) (hs : hasNul s.requestId = false) :
    ∃ w', (check s).run (D.serve i) st w = some ((classify s
      ((records.find? (fun r => r.requestId = s.requestId)).bind (fun r =>
        (events.find? (fun e => e.acceptedEventId = r.acceptedEventId)).map (fun e => (r,e)))),st),w') := by
  have ht : (Operation.selectIdempotencyRecord s.requestId).texts.any hasNul = false := by
    simp [Operation.texts, hs]
  have he : effect D w.nextPosition i w (.selectIdempotencyRecord s.requestId) =
      some (.ok ((w.visible i).loadRecord s.requestId,w.transactions i)) := rfl
  obtain ⟨w',hserve,-,-⟩ := h.alone.serve (D := D) rfl ht he h.alone.healthy
  refine ⟨w',?_⟩
  simp only [check, Routine.run_bind, Routine.run_perform, hserve, Option.map_some, Option.bind_some,
    Routine.run_ofExcept, Tables.loadRecord, h.orderEvents, h.idempotencyRecords]

/-- The verdict on the row of an accepted request. -/
theorem classify_of_recordOf {call : RequestSignature × OrderEvent} {r : IdempotencyRow}
    {row : OrderEventRow} {d : Decimal} (ha : AcceptedRequest events call.1 call.2)
    (hr : RecordOf call r) (hs : normalizeMoney s.amount = .ok d) :
    classify s (some (r,row)) = .ok
      (if call.1.commandType = s.commandType ∧ call.1.orderId = s.orderId ∧
          normalizeMoney call.1.amount = normalizeMoney s.amount
        then .replay (rowToIdempotencyRecord (r,row))
        else .conflict (rowToIdempotencyRecord (r,row))) := by
  obtain ⟨hnorm,q,-,-,hamount⟩ := ensurePositiveMoney_eq_ok.mp ha.amount
  rw [classify_some (r,row) hr.fingerprintVersion
    (hr.semanticFingerprint.trans (by rw [hamount])) hs, hnorm, hs, hamount]
  simp only [Except.ok.injEq]

theorem check_run_nul (hs : hasNul s.requestId = true) :
    ∃ w', (check s).run (D.serve i) st w = some ((.error nulInText,st),w') := by
  have hserve : D.serve i (.selectIdempotencyRecord s.requestId) w =
      some (.error nulInText,settle D w i (w.transactions i)) := by
    simp [Database.serve, exec, statement, Operation.texts, hs]
  exact ⟨_,by simp only [check, Routine.run_bind, Routine.run_perform, hserve, Option.map_some,
    Option.bind_some]; rfl⟩

end PostgresIdempotencyStore

namespace IdempotencyProvider

/-- The calls of `record` one after another. -/
def recordAll (p : IdempotencyProvider) (calls : List (RequestSignature × OrderEvent)) :
    IdempotencyProvider := calls.foldl (fun p call => p.record call.1 call.2) p

theorem recordAll_of_not_mem {p : IdempotencyProvider} {calls : List (RequestSignature × OrderEvent)}
    {requestId : String} (h : requestId ∉ calls.map (fun call => call.1.requestId)) :
    p.recordAll calls requestId = p requestId := by
  induction calls generalizing p with
  | nil => rfl
  | cons call calls ih =>
    rw [List.map_cons, List.mem_cons, not_or] at h
    change (p.record call.1 call.2).recordAll calls requestId = _
    rw [ih h.2, record, Function.update_of_ne h.1]

theorem recordAll_of_mem {p : IdempotencyProvider} {calls : List (RequestSignature × OrderEvent)}
    (hnodup : (calls.map (fun call => call.1.requestId)).Nodup)
    {call : RequestSignature × OrderEvent} (h : call ∈ calls) :
    p.recordAll calls call.1.requestId = some ⟨call.1,call.2⟩ := by
  induction calls generalizing p with
  | nil => cases h
  | cons first calls ih =>
    rw [List.map_cons, List.nodup_cons] at hnodup
    change (p.record first.1 first.2).recordAll calls call.1.requestId = _
    rcases List.mem_cons.mp h with rfl | h
    · rw [recordAll_of_not_mem hnodup.1, record, Function.update_self]
    · exact ih hnodup.2 h

/-- The verdict on the record of a request id. -/
theorem check_of_held {p : IdempotencyProvider} {held : IdempotencyRecord} {s : RequestSignature}
    (h : p s.requestId = some held) (hid : held.signature.requestId = s.requestId) :
    p.check s = if held.signature.commandType = s.commandType ∧ held.signature.orderId = s.orderId ∧
      held.signature.amount.eq s.amount = true then .replay held else .conflict held := by
  simp only [check, h, RequestSignature.eq, hid, beq_self_eq_true, Bool.true_and, Bool.and_eq_true,
    beq_iff_eq, and_assoc]

end IdempotencyProvider

/-! ## Agreement -/

/-- After the calls both checks return one verdict, with the same accepted event. -/
def StoresAgree {ι : Type} [DecidableEq ι] [Fintype ι] (D : Database ι) (i : ι) (t : Tables)
    (calls : List (RequestSignature × OrderEvent)) (s : RequestSignature) : Prop :=
  let inMemory := (IdempotencyProvider.recordAll (fun _ => none) calls).check s
  ∃ decision w', (do
      PostgresIdempotencyStore.recordAll calls
      PostgresIdempotencyStore.check s : SqlRoutine Unit IdempotencyDecision).run (D.serve i) ()
        (.initial t) = some ((.ok decision,()),w') ∧
    decision.verdict = inMemory.verdict ∧
    decision.record.map (fun r => r.acceptedEvent) = inMemory.record.map (fun r => r.acceptedEvent)

variable {ι : Type} [DecidableEq ι] [Fintype ι] {D : Database ι} {i : ι}

/-- The stores agree on a request exactly when its id is one PostgreSQL can hold and no
recorded request with its id, command, order and canonical amount was passed an amount
that compares unequal. -/
theorem stores_agree_iff {t : Tables} {calls : List (RequestSignature × OrderEvent)}
    {s : RequestSignature} {d : Decimal} (h : AcceptedCalls t calls)
    (hs : normalizeMoney s.amount = .ok d) :
    StoresAgree D i t calls s ↔ hasNul s.requestId = false ∧
      ∀ call ∈ calls, call.1.requestId = s.requestId → call.1.commandType = s.commandType →
        call.1.orderId = s.orderId → normalizeMoney call.1.amount = normalizeMoney s.amount →
        call.1.amount.eq s.amount = true := by
  have hstart : (World.initial t : World ι).Sees i t.orderEvents [] :=
    ⟨⟨rfl,fun _ _ => rfl⟩,List.append_nil _,by simp [World.visible, World.initial, h.fresh]⟩
  obtain ⟨w1,records,hrecord,hsees,hrecords⟩ := PostgresIdempotencyStore.recordAll_run (D := D) ()
    hstart h.accepted h.requests (by simp)
  rw [List.nil_append] at hsees
  have hids : records.map (fun r => r.requestId) = calls.map (fun call => call.1.requestId) := by
    rw [← List.forall₂_eq_eq_eq, List.forall₂_map_left_iff, List.forall₂_map_right_iff]
    exact hrecords.flip.imp (fun _ _ hr => hr.requestId)
  cases hnul : hasNul s.requestId with
  | true =>
    obtain ⟨w2,hcheck⟩ := PostgresIdempotencyStore.check_run_nul (D := D) (i := i) (w := w1)
      () hnul
    refine iff_of_false ?_ (by simp)
    rintro ⟨decision,w',hrun,-⟩
    simp [Routine.run_bind, hrecord, hcheck] at hrun
  | false =>
    obtain ⟨w2,hcheck⟩ := PostgresIdempotencyStore.check_run (D := D) () hsees hnul
    have hagree (decision : IdempotencyDecision)
        (hclass : PostgresIdempotencyStore.classify s
          ((records.find? (fun r => r.requestId = s.requestId)).bind (fun r =>
            (t.orderEvents.find? (fun e => e.acceptedEventId = r.acceptedEventId)).map
              (fun e => (r,e)))) = .ok decision) :
        StoresAgree D i t calls s ↔ decision.verdict =
            ((IdempotencyProvider.recordAll (fun _ => none) calls).check s).verdict ∧
          decision.record.map (fun r => r.acceptedEvent) =
            ((IdempotencyProvider.recordAll (fun _ => none) calls).check s).record.map
              (fun r => r.acceptedEvent) := by
      rw [hclass] at hcheck
      constructor
      · rintro ⟨decision',w',hrun,hv,hr⟩
        simp only [Routine.run_bind, hrecord, hcheck, Option.bind_some, Option.some.injEq,
          Prod.mk.injEq, Except.ok.injEq] at hrun
        obtain ⟨⟨rfl,-⟩,-⟩ := hrun
        exact ⟨hv,hr⟩
      · rintro ⟨hv,hr⟩
        exact ⟨decision,w2,by simp only [Routine.run_bind, hrecord, hcheck, Option.bind_some],hv,hr⟩
    by_cases hmem : s.requestId ∈ calls.map (fun call => call.1.requestId)
    · obtain ⟨call,hcall,hid⟩ := List.mem_map.mp hmem
      obtain ⟨r,hr,hrecordOf⟩ := exists_related hrecords call hcall
      obtain ⟨row,hrow,hevent,-,-⟩ := (h.accepted call hcall).row
      have hfound : records.find? (fun r => r.requestId = s.requestId) = some r :=
        hid ▸ hrecordOf.requestId ▸ find?_key (by rw [hids]; exact h.requests) hr
      have hjoined : t.orderEvents.find? (fun e => e.acceptedEventId = r.acceptedEventId) = some row := by
        have hrowid : r.acceptedEventId = row.acceptedEventId := by
          rw [hrecordOf.acceptedEventId, ← hevent]
          rfl
        rw [hrowid]
        exact find?_key h.eventIds hrow
      have hheld : IdempotencyProvider.recordAll (fun _ => none) calls s.requestId =
          some ⟨call.1,call.2⟩ := hid ▸ IdempotencyProvider.recordAll_of_mem h.requests hcall
      have hone (other : RequestSignature × OrderEvent) (ho : other ∈ calls)
          (hoid : other.1.requestId = s.requestId) : other = call :=
        List.inj_on_of_nodup_map h.requests ho hcall (hoid.trans hid.symm)
      have hreplayed : (PostgresIdempotencyStore.rowToIdempotencyRecord (r,row)).acceptedEvent = call.2 :=
        hevent
      rw [hagree _ (by
          rw [hfound, Option.bind_some, hjoined]
          exact PostgresIdempotencyStore.classify_of_recordOf (h.accepted call hcall) hrecordOf hs),
        IdempotencyProvider.check_of_held hheld hid]
      constructor
      · intro heq
        refine ⟨rfl,fun other ho hoid hc hord hn => ?_⟩
        rw [hone other ho hoid] at hc hord hn ⊢
        by_contra hraw
        rw [if_pos ⟨hc,hord,hn⟩, if_neg (fun hsame => hraw hsame.2.2)] at heq
        cases heq.1
      · rintro ⟨-,hraw⟩
        by_cases hsame : call.1.commandType = s.commandType ∧ call.1.orderId = s.orderId ∧
            normalizeMoney call.1.amount = normalizeMoney s.amount
        · obtain ⟨hc,hord,hn⟩ := hsame
          rw [if_pos ⟨hc,hord,hn⟩, if_pos ⟨hc,hord,hraw call hcall hid hc hord hn⟩]
          exact ⟨rfl,congrArg some hreplayed⟩
        · rw [if_neg hsame, if_neg]
          · exact ⟨rfl,congrArg some hreplayed⟩
          · rintro ⟨hc,hord,he⟩
            obtain ⟨hnorm,q,hq,-,hamount⟩ := ensurePositiveMoney_eq_ok.mp (h.accepted call hcall).amount
            rw [hamount] at hnorm
            exact hsame ⟨hc,hord,by rw [hnorm, MoneyInput.normalizeMoney_of_eq he hnorm hq]⟩
    · have hnone : records.find? (fun r => r.requestId = s.requestId) = none :=
        find?_key_none (by rwa [hids])
      have hmiss : IdempotencyProvider.recordAll (fun _ => none) calls s.requestId = none :=
        IdempotencyProvider.recordAll_of_not_mem hmem
      rw [hagree .miss (by rw [hnone]; rfl)]
      refine iff_of_true ?_ ⟨rfl,fun call hcall hid => absurd (List.mem_map.mpr ⟨call,hcall,hid⟩) hmem⟩
      simp [IdempotencyProvider.check, hmiss]

/-! ## A retry below a cent -/

namespace SubCentRetry

def server : Database Unit := ⟨fun _ => false,fun _ => 0⟩

def row : OrderEventRow :=
  { globalPosition := 1, acceptedEventId := "e", requestId := "r", orderId := "A", sequence := 1
    eventType := .created, amount := .cents 1000 Numeric.ten_inRange, occurredAtMs := 0
    proofPrevStatus := .init, proofPrevVersion := 0, proofPrevEventId := none }

def tables : Tables := {Tables.empty with orderEvents := [row]}

/-- Accepted at `Decimal("10.00")`. -/
def accepted : RequestSignature × OrderEvent :=
  (⟨"r",.create,"A",.decimal (.finite false 1000 (-2))⟩,rowToOrderEvent row)

/-- Sent again as `Decimal("10.004")`. -/
def retry : RequestSignature := ⟨"r",.create,"A",.decimal (.finite false 10004 (-3))⟩

/-- The verdict of the PostgreSQL store after the record. -/
def durableVerdict : Option (Except PyException IdempotencyVerdict) :=
  ((do
    PostgresIdempotencyStore.recordAll [accepted]
    PostgresIdempotencyStore.check retry : SqlRoutine Unit IdempotencyDecision).run
      (server.serve ()) () (.initial tables)).map (fun r => r.1.1.map (fun d => d.verdict))

/-- PostgreSQL replays the retry that the in-memory store calls a conflict. -/
theorem stores_disagree : normalizeMoney retry.amount = .ok (.ofCents false 1000) ∧
    durableVerdict = some (.ok .replay) ∧
    ((IdempotencyProvider.recordAll (fun _ => none) [accepted]).check retry).verdict = .conflict ∧
    ¬StoresAgree server () tables [accepted] retry := by
  have hdurable : durableVerdict = some (.ok .replay) := by decide +kernel
  have hmemory : ((IdempotencyProvider.recordAll (fun _ => none) [accepted]).check retry).verdict =
      .conflict := by decide +kernel
  refine ⟨by decide +kernel,hdurable,hmemory,?_⟩
  rintro ⟨decision,w,hrun,hverdict,-⟩
  rw [durableVerdict, hrun] at hdurable
  have hreplay : decision.verdict = .replay := by simpa [Except.map] using hdurable
  rw [hmemory, hreplay] at hverdict
  cases hverdict

end SubCentRetry

theorem stores_agree_iff_int : StoresAgree SubCentRetry.server () SubCentRetry.tables
    [SubCentRetry.accepted] ⟨"r",.create,"A",.int 10⟩ := by
  have hcalls : AcceptedCalls SubCentRetry.tables [SubCentRetry.accepted] := by
    refine ⟨rfl,by simp [SubCentRetry.tables],by simp,?_⟩
    intro call hcall
    obtain rfl := List.mem_singleton.mp hcall
    exact ⟨⟨SubCentRetry.row,List.mem_cons_self ..,rfl,
      ⟨by decide +kernel,by decide +kernel,by decide +kernel⟩,by decide⟩,rfl,rfl,
      by decide +kernel⟩
  exact (stores_agree_iff (d := .ofCents false 1000) hcalls (by decide +kernel)).mpr
    ⟨by decide +kernel,fun call hcall _ _ _ _ => by
      obtain rfl := List.mem_singleton.mp hcall
      decide +kernel⟩

end StreamingCompass
