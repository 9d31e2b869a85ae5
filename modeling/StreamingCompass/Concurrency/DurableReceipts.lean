import StreamingCompass.Concurrency.Atomicity
import StreamingCompass.Concurrency.ReceiptCustody
import StreamingCompass.Concurrency.WriteSideReceipts
import StreamingCompass.Storage.ReceiptTable

/-! # Durable receipts

The write side, any number of runtime owners over it and the table their receipts go to, as
one system. A writer call of an owner is answered by a finished write invocation, its results
are mapped by the receipt mapper, and each receipt transaction inserts, commits and fails on
its own.
-/
namespace StreamingCompass
open Interleaving

/-! ## What the owners are answered -/

/-- The writer answers with the result of a finished invocation of the retained request, and
the mapper with the receipt of its argument. Both may raise instead. -/
def Answers {ι : Type} (invocations : ι → Invocation) (b : System ι) :
    (op : ReceiptOperation) → ReceiptReply op → Prop
  | .write call, reply => ∀ result, reply = .ok result → ∃ i v d, invocations i = .write v ∧
      v.signature = call.signature ∧ b.delivered i = some (.ok d) ∧
        result.value = d.producerValue.result
  | .mapResult _ receiptId outcomeId result, reply => ∀ receipt, reply = .ok receipt →
      mapPostgresWriteSideResultToDecisionReceipt receiptId outcomeId result.value = .ok receipt
  | _, _ => True

/-- The machine of an owner over the write side as it stands. -/
def answeredMachine {ι : Type} (τ : Type) (raises : BaseException → Prop)
    (invocations : ι → Invocation) (b : System ι) :
    Machine τ (ReceiptWorld τ) ReceiptOperation ReceiptOperation.Answer BaseException where
  step i w op reply w' := ReceiptStep raises i w op reply w' ∧ Answers invocations b op reply
  abandon _ w := w

/-! ## The composed system -/

structure Platform (ι κ τ : Type) where
  business : System ι
  owners : κ → ReceiptSystem τ
  receipts : ReceiptTable

/-- What the owners are made with. -/
structure Owners (κ τ : Type) where
  signature : κ → RequestSignature
  amountDecimal : ∀ k, ∃ amount, (signature k).amount = .decimal amount
  calls : κ → τ → ReceiptMethod

variable {ι κ τ : Type} [DecidableEq ι] [Fintype ι] [DecidableEq κ] [DecidableEq τ]

def Platform.start (invocations : ι → Invocation) (O : Owners κ τ) : Platform ι κ τ :=
  ⟨.start .empty invocations,fun k => .start (.new (O.signature k) (O.amountDecimal k)) (O.calls k),
    .empty⟩

/-- One step of the write side, of an owner, or of a receipt transaction. A transaction
inserts while its owner is handing the receipt over and ends whenever it does. -/
inductive PlatformStep (D : Database ι) (faulty : ι → Prop) (raises : BaseException → Prop)
    (invocations : ι → Invocation) : Platform ι κ τ → Platform ι κ τ → Prop where
  | business {s : Platform ι κ τ} {b : System ι} (step : Step (D.machine faulty) s.business b) :
    PlatformStep D faulty raises invocations s {s with business := b}
  | owner {s : Platform ι κ τ} {k : κ} {o : ReceiptSystem τ}
    (step : Step (answeredMachine τ raises invocations s.business) (s.owners k) o) :
    PlatformStep D faulty raises invocations s {s with owners := Function.update s.owners k o}
  | insert {s : Platform ι κ τ} {k : κ} {i : τ} {n : ℕ} {r : DecisionReceipt}
    {next : ReceiptReply (.persist n r) → ReceiptProgram ReceiptOutcome}
    (running : (s.owners k).program i = some (.call (.persist n r) next))
    (insertable : s.receipts.Insertable s.business.world.tables r) :
    PlatformStep D faulty raises invocations s {s with receipts := s.receipts.insert r}
  | settle {s : Platform ι κ τ} {T : ReceiptTable} (settles : s.receipts.Settles T) :
    PlatformStep D faulty raises invocations s {s with receipts := T}

def PlatformReachable (D : Database ι) (faulty : ι → Prop) (raises : BaseException → Prop)
    (invocations : ι → Invocation) (O : Owners κ τ) (s : Platform ι κ τ) : Prop :=
  Relation.ReflTransGen (PlatformStep D faulty raises invocations) (.start invocations O) s

/-! ## Where a receipt comes from -/

/-- A receipt of the result of a finished write invocation. -/
def Sourced (invocations : ι → Invocation) (b : System ι) (r : DecisionReceipt) : Prop :=
  ∃ i v d receiptId outcomeId, invocations i = .write v ∧ b.delivered i = some (.ok d) ∧
    (evaluatePersistenceEligibility d.producerValue.result).isEligible = true ∧
    mapPostgresWriteSideResultToDecisionReceipt receiptId outcomeId d.producerValue.result = .ok r

variable {D : Database ι} {faulty : ι → Prop} {raises : BaseException → Prop}
  {invocations : ι → Invocation} {O : Owners κ τ} {s : Platform ι κ τ}

theorem delivered_step {b b' : System ι} (hs : Step (D.machine faulty) b b') {i : ι}
    {r : Except PyException PostgresWriteSideDelivery} (hd : b.delivered i = some r) :
    b'.delivered i = some r :=
  System.delivered_eq_some.mpr (hs.done (System.delivered_eq_some.mp hd))

theorem Answers.step {b b' : System ι} (hs : Step (D.machine faulty) b b') {op : ReceiptOperation}
    {reply : ReceiptReply op} (h : Answers invocations b op reply) : Answers invocations b' op reply := by
  cases op with
  | write call =>
    intro result hr
    obtain ⟨i,v,d,hv,hsignature,hd,hresult⟩ := h result hr
    exact ⟨i,v,d,hv,hsignature,delivered_step hs hd,hresult⟩
  | mapResult n r u result => exact h
  | _ => trivial

theorem Sourced.step {b b' : System ι} (hs : Step (D.machine faulty) b b') {r : DecisionReceipt}
    (h : Sourced invocations b r) : Sourced invocations b' r := by
  obtain ⟨i,v,d,receiptId,outcomeId,hv,hd,heligible,hmap⟩ := h
  exact ⟨i,v,d,receiptId,outcomeId,hv,delivered_step hs hd,heligible,hmap⟩

omit [DecidableEq ι] [Fintype ι] [DecidableEq κ] in
/-- A receipt that is handed over was mapped from the eligible result the writer returned to
the invocation of its handle. -/
theorem ReceiptReachable.handed {o : PostgresWriteSideDecisionReceiptRuntimeOwner}
    {calls : τ → ReceiptMethod} {c : ReceiptSystem τ} (h : ReceiptReachable raises o calls c) {i : τ}
    {n : ℕ} {r : DecisionReceipt} {next : ReceiptReply (.persist n r) → ReceiptProgram ReceiptOutcome}
    (running : c.program i = some (.call (.persist n r) next)) :
    ∃ (result : PyObject PostgresWriteSideResult) (j k : τ) (call : WriterCall)
      (receiptId outcomeId : Uuid), Did c j (.write call) (.ok result) ∧
      Did c k (.mapResult n receiptId outcomeId result) (.ok r) ∧
      (evaluatePersistenceEligibility result.value).isEligible = true := by
  obtain ⟨h₀,hentered,-,heligible,hordered,hmapped,-⟩ :=
    Issues.receiptPath (h.issues running) (.inr (.inr ⟨r,rfl⟩))
  obtain ⟨m,hm⟩ := h.exists_handle (.inl ⟨h₀,hentered⟩)
  have hk := h.kept hm
  have hinside : (handleVisits c n).Inside i := ⟨⟨h₀,hentered⟩,fun h' => hordered.not_mem
    (show 4 ≤ (ReceiptOperation.leaveHandle n h').rank from (by decide : 4 ≤ 6)) (.ok ())⟩
  obtain rfl : m.value = h₀ := hk.visits.held i h₀ ((hk.visits.holder i).mpr hinside) hentered
  obtain ⟨j,h₁,hbuilt,-,-⟩ := hk.built
  obtain ⟨m',a,call,hm',-,hwritten,-⟩ := h.built hbuilt
  obtain rfl := Option.some.inj (hm.symm.trans hm')
  rw [m.value.evaluated] at heligible
  rcases hmapped r rfl with ⟨receiptId,outcomeId,hmap⟩ | ⟨d,hd,hr⟩
  · exact ⟨_,j,i,call,receiptId,outcomeId,hwritten,hmap,heligible⟩
  · obtain ⟨k,receiptId,outcomeId,hmap⟩ := hk.mapped d r hd hr
    exact ⟨_,j,k,call,receiptId,outcomeId,hwritten,hmap,heligible⟩

/-! ## What every run keeps -/

structure PlatformKept (D : Database ι) (faulty : ι → Prop) (raises : BaseException → Prop)
    (invocations : ι → Invocation) (O : Owners κ τ) (s : Platform ι κ τ) : Prop where
  business : Reachable D faulty .empty invocations s.business
  owners : ∀ k, ReceiptReachable raises (.new (O.signature k) (O.amountDecimal k)) (O.calls k)
    (s.owners k)
  answered : ∀ k i op reply, Did (s.owners k) i op reply → Answers invocations s.business op reply
  sourced : ∀ r ∈ s.receipts.rows, Sourced invocations s.business r
  unique : s.receipts.Unique

theorem PlatformKept.step {s' : Platform ι κ τ} (h : PlatformKept D faulty raises invocations O s)
    (hs : PlatformStep D faulty raises invocations s s') :
    PlatformKept D faulty raises invocations O s' := by
  cases hs with
  | @business b step =>
    exact ⟨h.business.tail step,h.owners,fun k i op reply hd => (h.answered k i op reply hd).step step,
      fun r hr => (h.sourced r hr).step step,h.unique⟩
  | @owner k o step =>
    refine ⟨h.business,fun j => ?_,fun j i op reply hd => ?_,h.sourced,h.unique⟩
    · dsimp only
      by_cases hj : j = k
      · subst hj
        rw [Function.update_self]
        exact (h.owners j).tail (step.mono (fun _ _ _ _ _ hw => hw.1) rfl)
      · rw [Function.update_of_ne hj]
        exact h.owners j
    · dsimp only at hd ⊢
      by_cases hj : j = k
      · subst hj
        rw [Function.update_self] at hd
        cases step with
        | call running executes =>
          rcases did_advance.mp hd with ⟨-,heq⟩ | hd
          · obtain ⟨rfl,hreply⟩ := Sigma.mk.inj heq
            obtain rfl := eq_of_heq hreply
            exact executes.2
          · exact h.answered j i op reply hd
        | abandon running => exact h.answered j i op reply hd
      · rw [Function.update_of_ne hj] at hd
        exact h.answered j i op reply hd
  | @insert k i n r next running insertable =>
    refine ⟨h.business,h.owners,h.answered,fun r' hr' => ?_,h.unique.insert insertable⟩
    rcases List.mem_cons.mp (List.perm_middle.mem_iff.mp hr') with rfl | hr'
    · obtain ⟨result,j,l,call,receiptId,outcomeId,hwritten,hmap,heligible⟩ := (h.owners k).handed running
      obtain ⟨i',v,d,hv,-,hd,hresult⟩ := h.answered k j _ _ hwritten result rfl
      have hreceipt := h.answered k l _ _ hmap r' rfl
      rw [hresult] at hreceipt heligible
      exact ⟨i',v,d,receiptId,outcomeId,hv,hd,heligible,hreceipt⟩
    · exact h.sourced r' hr'
  | settle settles =>
    exact ⟨h.business,h.owners,h.answered,fun r hr => h.sourced r (settles.rows_subset hr),
      h.unique.settle settles⟩

theorem PlatformReachable.kept (h : PlatformReachable D faulty raises invocations O s) :
    PlatformKept D faulty raises invocations O s := by
  induction h with
  | refl =>
    exact ⟨.refl,fun k => .refl,fun k i op reply hd => (List.not_mem_nil hd).elim,
      fun r hr => (List.not_mem_nil hr).elim,List.Pairwise.nil⟩
  | tail _ hs ih => exact ih.step hs

/-! ## What the rows say of accepted history -/

theorem writeSide_evidenceSource {receiptId outcomeId : Uuid} {result : PostgresWriteSideResult}
    {receipt : DecisionReceipt}
    (h : mapPostgresWriteSideResultToDecisionReceipt receiptId outcomeId result = .ok receipt) :
    receipt.evidenceSource = .writeSideAdmission := by
  unfold mapPostgresWriteSideResultToDecisionReceipt at h
  obtain ⟨_,-,h⟩ := bind_eq_ok.mp h
  obtain ⟨_,-,h⟩ := bind_eq_ok.mp h
  obtain ⟨_,-,h⟩ := bind_eq_ok.mp h
  obtain ⟨_,-,h⟩ := bind_eq_ok.mp h
  obtain ⟨_,-,h⟩ := bind_eq_ok.mp h
  obtain ⟨_,-,h⟩ := bind_eq_ok.mp h
  obtain ⟨_,-,h⟩ := bind_eq_ok.mp h
  unfold mapSemanticOutcomeToDecisionReceipt at h
  split at h
  · cases h
  · obtain ⟨_,-,h⟩ := bind_eq_ok.mp h
    rw [← Except.ok.inj h]

/-- A row agrees with accepted history. -/
structure DecisionReceipt.Truthful (t : Tables) (T : ReceiptTable) (r : DecisionReceipt) : Prop where
  /-- An admitted row names its event, and no other admitted row does. -/
  admitted : r.admissionEvidence = some .admittedToAcceptedHistory →
    ∃ u, ∃ row ∈ t.orderEvents, r.correlation.acceptedEventId = some u ∧ row.acceptedEventId = u.str ∧
      r.correlation.orderId = some row.orderId ∧ r.correlation.requestId = some row.requestId ∧
      T.committed.filter (fun s => s.admissionEvidence = some .admittedToAcceptedHistory ∧
        s.correlation.acceptedEventId = some u) = [r]
  /-- A matched or conflicting row names the event recorded for its request. -/
  answered : r.admissionEvidence = some .matchedExistingAcceptedEvent ∨
      r.admissionEvidence = some .idempotencyConflictWithAcceptedHistory →
    ∃ u, ∃ record ∈ t.idempotencyRecords, r.correlation.acceptedEventId = some u ∧
      r.correlation.requestId = some record.requestId ∧ record.acceptedEventId = u.str ∧
      ∀ s ∈ t.idempotencyRecords, s.requestId = record.requestId → s = record
  /-- The candidate of a row that is not admitted is nowhere in accepted history. -/
  candidate : r.admissionEvidence ≠ some .admittedToAcceptedHistory →
    ∀ u, r.correlation.candidateEventId = some u → ∀ row ∈ t.orderEvents, row.acceptedEventId ≠ u.str

omit [DecidableEq κ] in
theorem PlatformKept.admitted (h : PlatformKept D faulty raises invocations O s) {r : DecisionReceipt}
    (hr : r ∈ s.receipts.committed) {u : Uuid}
    (hadmitted : r.admissionEvidence = some .admittedToAcceptedHistory)
    (hu : r.correlation.acceptedEventId = some u) :
    s.receipts.committed.filter (fun x => x.admissionEvidence = some .admittedToAcceptedHistory ∧
      x.correlation.acceptedEventId = some u) = [r] := by
  have hkey : ∀ x ∈ s.receipts.committed, x.admittedEventId = some u ↔
      x.admissionEvidence = some .admittedToAcceptedHistory ∧ x.correlation.acceptedEventId = some u := by
    intro x hx
    obtain ⟨i,v,d,receiptId,outcomeId,-,-,-,hmap⟩ := h.sourced x (List.mem_append_left _ hx)
    have hsource := writeSide_evidenceSource hmap
    unfold DecisionReceipt.admittedEventId
    split
    · rename_i hc
      exact ⟨fun hid => ⟨hc.2,hid⟩,fun hid => hid.2⟩
    · rename_i hc
      exact ⟨fun hid => (nomatch hid),fun hid => absurd ⟨hsource,hid.1⟩ hc⟩
  rw [← h.unique.admitted hr ((hkey r hr).mpr ⟨hadmitted,hu⟩)]
  exact List.filter_congr (fun x hx => decide_eq_decide.mpr (hkey x hx).symm)

omit [DecidableEq κ] in
theorem PlatformKept.truthful (h : PlatformKept D faulty raises invocations O s)
    (hfresh : FreshDraws invocations)
    (hnames : ∀ i v, invocations i = .write v → NamesCandidate v.invokeValidation)
    {r : DecisionReceipt} (hr : r ∈ s.receipts.committed) :
    r.Truthful s.business.world.tables s.receipts := by
  obtain ⟨i,v,d,receiptId,outcomeId,hv,hd,-,hmap⟩ := h.sourced r (List.mem_append_left _ hr)
  have hnamed : ¬(LockRefused v d.producerValue.result ∧ isBlank v.signature.orderId = true) := by
    rintro ⟨hl,hb⟩
    rw [hl.result_eq (h.business.delivers hv hd), blank_refused hb] at hmap
    cases hmap
  obtain ⟨identity,disposition,hprofile,haccounted⟩ := h.business.accounted hv (hnames i v hv) hd hnamed
  obtain ⟨r',hok,hreports⟩ := hprofile.receipt receiptId outcomeId
  obtain rfl : r' = r := Except.ok.inj (hok.symm.trans hmap)
  have hcites := hreports.cites
  have hunaccepted := h.business.unaccepted hfresh hv hd
  have hrecord := (h.business.integral .initial).request.settled
  cases haccounted with
  | @admitted e outcome event identified orderId requestId =>
    refine ⟨fun ha => ?_,fun ha => ?_,fun ha => absurd hreports.admissionEvidence ha⟩
    · obtain ⟨e',row,record,has,hevent⟩ := h.business.acceptedAs hv hd outcome
      obtain rfl : e' = e := Option.some.inj (hevent.symm.trans event)
      refine ⟨v.draw.uuid,row,has.eventCommitted,hcites.acceptedEventId,?_,?_,?_,
        h.admitted hr ha hcites.acceptedEventId⟩
      · rw [← identified.eventId, ← has.stored]
        rfl
      · rw [hcites.orderId, ← has.stored]
        rfl
      · rw [hcites.requestId, ← has.stored]
        rfl
    · rw [hreports.admissionEvidence] at ha
      rcases ha with ha | ha <;> cases ha
  | @answered record row u candidate disposition rejected holds identified drawn fate =>
    refine ⟨fun ha => ?_,fun _ => ?_,fun _ u' hu' => ?_⟩
    · rw [hreports.admissionEvidence] at ha
      rcases fate with rfl | rfl <;> cases ha
    · refine ⟨u,record,holds.recordCommitted,hcites.acceptedEventId,?_,?_,
        fun s hs hid => List.inj_on_of_nodup_map hrecord hs holds.recordCommitted hid⟩
      · rw [hcites.requestId, holds.recorded.requestId]
      · rw [holds.recorded.acceptedEventId]
        exact identified.eventId
    · rw [hcites.candidateEventId] at hu'
      rcases drawn with rfl | rfl
      · cases hu'
      · obtain rfl := Option.some.inj hu'
        exact hunaccepted rejected
  | @refused orderId candidate disposition rejected drawn fate =>
    refine ⟨fun ha => ?_,fun ha => ?_,fun _ u' hu' => ?_⟩
    · rw [hreports.admissionEvidence] at ha
      rcases fate with rfl | rfl | rfl | rfl <;> cases ha
    · rw [hreports.admissionEvidence] at ha
      rcases fate with rfl | rfl | rfl | rfl <;> rcases ha with ha | ha <;> cases ha
    · rw [hcites.candidateEventId] at hu'
      rcases drawn with rfl | rfl
      · cases hu'
      · obtain rfl := Option.some.inj hu'
        exact hunaccepted rejected

/-- In every run, whatever the receipt transactions do, every committed receipt is truthful. -/
theorem PlatformReachable.receipts_truthful (h : PlatformReachable D faulty raises invocations O s)
    (hfresh : FreshDraws invocations)
    (hnames : ∀ i v, invocations i = .write v → NamesCandidate v.invokeValidation) :
    ∀ r ∈ s.receipts.committed, r.Truthful s.business.world.tables s.receipts :=
  fun _ hr => h.kept.truthful hfresh hnames hr

/-! ## Runs of the parts are runs of the whole -/

namespace PlatformReachable

theorem business (h : PlatformReachable D faulty raises invocations O s) {b : System ι}
    (hr : Reaches (D.machine faulty) s.business b) :
    PlatformReachable D faulty raises invocations O {s with business := b} := by
  induction hr with
  | refl => exact h
  | tail _ hs ih => exact ih.tail (.business hs)

theorem owner (h : PlatformReachable D faulty raises invocations O s) {k : κ} {o : ReceiptSystem τ}
    (hr : Reaches (answeredMachine τ raises invocations s.business) (s.owners k) o) :
    PlatformReachable D faulty raises invocations O
      {s with owners := Function.update s.owners k o} := by
  induction hr with
  | refl => rwa [Function.update_eq_self]
  | @tail o o' _ hs ih =>
    have hstep : Step (answeredMachine τ raises invocations s.business)
        (Function.update s.owners k o k) o' := by rwa [Function.update_self]
    have hnext := ih.tail (PlatformStep.owner hstep)
    rwa [Function.update_idem] at hnext

end PlatformReachable

/-! One owner over one creation: its receipt is composed, inserted and committed. -/
namespace AcceptedReceipt

def create : WriteInvocation :=
  ⟨.preTransaction,.pessimistic,invokeValidation .strict,RefusedReceipt.signature,⟨1,0⟩,false,none⟩

def calls : Fin 1 → Invocation := fun _ => .write create

def owners : Owners (Fin 1) (Fin 2) where
  signature _ := RefusedReceipt.signature
  amountDecimal _ := ⟨_,rfl⟩
  calls _ := fun
    | 0 => .invoke .initial
    | 1 => .composeReceipt 0

def server : Database (Fin 1) := ⟨fun _ => false,fun _ => 0⟩

def business : System (Fin 1) :=
  ((System.start .empty calls).drive server.serve (List.replicate 11 0)).get (by decide +kernel)

/-- What the writer of the owner returns. -/
def result : PyObject PostgresWriteSideResult :=
  ⟨7,match business.delivered 0 with
    | some (.ok d) => d.producerValue.result
    | _ => .notPrepared .miss (.lockNotAvailable "A") none⟩

def serve (i : Fin 2) : Semantics (ReceiptWorld (Fin 2)) ReceiptOperation ReceiptOperation.Answer
    BaseException :=
  fun op w => match op with
  | .enterRuntime => if w.runtime.holder = none then
      some (.ok w.runtime.value,{w with runtime := w.runtime.enter i}) else none
  | .leaveRuntime o => some (.ok (),{w with runtime := .free o})
  | .write call => if call.signature = create.signature then some (.ok result,w) else none
  | .newHandle h => some (.ok w.handles.length,{w with handles := w.handles ++ [.free h]})
  | .enterHandle n => w.handles[n]?.bind (fun m => if m.holder = none then
      some (.ok m.value,{w with handles := w.handles.set n (m.enter i)}) else none)
  | .identityFactory _ _ => some (.ok (some 1),w)
  | .mapResult _ r u result => match mapPostgresWriteSideResultToDecisionReceipt r u result.value with
    | .ok receipt => some (.ok receipt,w)
    | .error _ => none
  | _ => none

/-- The owner when its receipt is about to be inserted. -/
def handing : ReceiptSystem (Fin 2) :=
  ((ReceiptSystem.start (.new (owners.signature 0) (owners.amountDecimal 0)) (owners.calls 0)).drive
    serve [0,0,0,0,1,1,1,1]).get (by decide +kernel)

def receiptOf (c : ReceiptSystem (Fin 2)) (i : Fin 2) : Option DecisionReceipt :=
  match c.program i with
  | some (.call (.persist _ r) _) => some r
  | _ => none

def receipt : DecisionReceipt := (receiptOf handing 1).get (by decide +kernel)

def committed : Platform (Fin 1) (Fin 1) (Fin 2) :=
  ⟨business,Function.update (Platform.start calls owners).owners 0 handing,⟨[receipt],[]⟩⟩

/-- The receipt admits the event that the creation committed. -/
theorem receipt_admitted : receipt.admissionEvidence = some .admittedToAcceptedHistory ∧
    receipt.correlation.acceptedEventId = some create.draw.uuid ∧
      ∃ row ∈ business.world.tables.orderEvents, row.acceptedEventId = create.draw.uuid.str := by
  decide +kernel

theorem answers {op : ReceiptOperation} {i : Fin 2} {w w' : ReceiptWorld (Fin 2)}
    {reply : ReceiptReply op} (h : serve i op w = some (reply,w')) :
    ReceiptStep (fun _ => True) i w op reply w' ∧ Answers calls business op reply := by
  have hout {x y : ReceiptReply op × ReceiptWorld (Fin 2)} (hx : some x = some y)
      (hy : ReceiptStep (fun _ => True) i w op x.1 x.2 ∧ Answers calls business op x.1) :
      ReceiptStep (fun _ => True) i w op y.1 y.2 ∧ Answers calls business op y.1 :=
    Option.some.inj hx ▸ hy
  cases op with
  | enterRuntime =>
    simp only [serve] at h
    split at h
    · rename_i hopen
      exact hout h ⟨.enterRuntime hopen,trivial⟩
    · cases h
  | leaveRuntime o => exact hout h ⟨.leaveRuntime o,trivial⟩
  | write call =>
    simp only [serve] at h
    split at h
    · rename_i hcall
      refine hout h ⟨.write call _,fun r hr => ?_⟩
      obtain rfl := Except.ok.inj hr
      have hreturned : (business.delivered 0).map (fun r => r.map (fun _ => ())) = some (.ok ()) := by
        decide +kernel
      obtain ⟨r,hd,hok⟩ := Option.map_eq_some_iff.mp hreturned
      cases r with
      | error e => cases hok
      | ok d => exact ⟨0,create,d,rfl,hcall.symm,hd,by simp only [result, hd]⟩
    · cases h
  | newHandle n => exact hout h ⟨.newHandle n,trivial⟩
  | enterHandle n =>
    obtain ⟨m,hm,hs⟩ := Option.bind_eq_some_iff.mp h
    split at hs
    · rename_i hopen
      exact hout hs ⟨.enterHandle hm hopen,trivial⟩
    · cases hs
  | leaveHandle n h' => cases h
  | identityFactory f n =>
    exact hout h ⟨.identityFactory f n (.ok (some 1)) (fun _ _ => trivial),trivial⟩
  | mapResult n r u result =>
    simp only [serve] at h
    split at h
    · rename_i hmap
      refine hout h ⟨.mapResult n r u result _ (fun _ _ => trivial),fun x hx => ?_⟩
      rw [hmap, Except.ok.inj hx]
    · cases h
  | persist n receipt => cases h
  | newObject => cases h
  | uuid4 => cases h

theorem reachable :
    PlatformReachable server (fun _ => False) (fun _ => True) calls owners committed := by
  have hbusiness : PlatformReachable server (fun _ => False) (fun _ => True) calls owners
      {Platform.start calls owners with business := business} :=
    PlatformReachable.business .refl (Reachable.of_drive (Option.some_get _).symm)
  have howner : PlatformReachable server (fun _ => False) (fun _ => True) calls owners
      ⟨business,Function.update (Platform.start calls owners).owners 0 handing,.empty⟩ :=
    hbusiness.owner (k := 0) (Config.drive_reaches (fun _ _ _ _ _ hs => answers hs)
      (Option.some_get _).symm)
  have hpending : receiptOf handing 1 = some receipt := (Option.some_get _).symm
  obtain ⟨n,next,hrunning⟩ : ∃ n next, handing.program 1 = some (.call (.persist n receipt) next) := by
    unfold receiptOf at hpending
    split at hpending
    · rename_i n r next hp
      obtain rfl := Option.some.inj hpending
      exact ⟨n,next,hp⟩
    · cases hpending
  have hinsertable : ReceiptTable.empty.Insertable business.world.tables receipt := by
    refine ⟨fun _ hs => (List.not_mem_nil hs).elim,fun u hu => ?_⟩
    obtain ⟨-,hid,hrow⟩ := receipt_admitted
    obtain rfl := Option.some.inj (hid.symm.trans hu)
    exact hrow
  have hhanding : (Function.update (Platform.start calls owners).owners 0 handing 0).program 1 =
      some (.call (.persist n receipt) next) := by rwa [Function.update_self]
  exact (howner.tail (.insert (k := 0) (i := 1) hhanding hinsertable)).tail
    (.settle (@ReceiptTable.Settles.commit [] [] [] receipt))

end AcceptedReceipt

theorem PlatformReachable.receipts_truthful_accepted :
    AcceptedReceipt.receipt.admissionEvidence = some .admittedToAcceptedHistory ∧
      AcceptedReceipt.receipt.Truthful AcceptedReceipt.business.world.tables
        ⟨[AcceptedReceipt.receipt],[]⟩ := by
  refine ⟨AcceptedReceipt.receipt_admitted.1,AcceptedReceipt.reachable.receipts_truthful (fun i j _ _ _ _ _ =>
    Subsingleton.elim i j) (fun i v hv => ?_) _ (List.mem_singleton_self _)⟩
  obtain rfl := Invocation.write.inj hv
  exact invokeValidation_namesCandidate _

end StreamingCompass
