import StreamingCompass.Concurrency.OwnerLifecycle
import StreamingCompass.Concurrency.ReceiptCalls

/-! # What a call on the receipt owners issues

Operations of one call come in a fixed order. The contract says what each may rely on, and
what a section leaves behind in its monitor.
-/
namespace StreamingCompass
open Interleaving

/-- The place of an operation in the order its call keeps. -/
def ReceiptOperation.rank : ReceiptOperation → ℕ
  | .enterRuntime | .enterHandle _ => 0
  | .write _ | .uuid4 | .identityFactory .receiptId _ => 1
  | .newHandle _ | .identityFactory .outcomeId _ => 2
  | .mapResult _ _ _ _ => 3
  | .persist _ _ => 4
  | .newObject => 5
  | .leaveRuntime _ | .leaveHandle _ _ => 6

/-- Only operations before place `k` were issued. -/
def Below (k : ℕ) (log : ReceiptLog) : Prop := ∀ x ∈ log, x.1.rank < k

theorem Below.cons {k l : ℕ} {log : ReceiptLog} {op : ReceiptOperation} {r : ReceiptReply op}
    (h : Below k log) (hop : op.rank < l) (hkl : k ≤ l) : Below l (⟨op,r⟩ :: log) := by
  intro x hx
  rcases List.mem_cons.mp hx with rfl | hx
  · exact hop
  · exact lt_of_lt_of_le (h x hx) hkl

theorem Below.mono {k l : ℕ} {log : ReceiptLog} (h : Below k log) (hkl : k ≤ l) : Below l log :=
  fun x hx => lt_of_lt_of_le (h x hx) hkl

theorem Below.not_mem {k : ℕ} {log : ReceiptLog} (h : Below k log) {op : ReceiptOperation}
    (hop : k ≤ op.rank) (r : ReceiptReply op) : (⟨op,r⟩ : ReceiptExchange) ∉ log :=
  fun hmem => absurd (h _ hmem) (Nat.not_lt.mpr hop)

/-- A receipt a handle may hand over: mapped by this call, or retained before it. -/
def Mapped (n : ℕ) (h : CompletedInvocation) (log : ReceiptLog) (receipt : DecisionReceipt) : Prop :=
  (∃ receiptId outcomeId, (⟨.mapResult n receiptId outcomeId h.businessResult,.ok receipt⟩ :
    ReceiptExchange) ∈ log) ∨
  ∃ d, h.materializationOwner.cachedDelivery = some d ∧ d.receipt = some receipt

theorem Mapped.cons {n : ℕ} {h : CompletedInvocation} {log : ReceiptLog} {receipt : DecisionReceipt}
    (hm : Mapped n h log receipt) (x : ReceiptExchange) : Mapped n h (x :: log) receipt :=
  hm.imp (fun ⟨r,u,hmem⟩ => ⟨r,u,List.mem_cons_of_mem _ hmem⟩) id

/-- What a section on a handle leaves: the same result, and the delivery that was published
before or one about that result. -/
structure LeavesHandle (raises : BaseException → Prop) (n : ℕ) (h : CompletedInvocation)
    (log : ReceiptLog) (h' : CompletedInvocation) : Prop where
  result : h'.businessResult = h.businessResult
  cached : h.cachedReceiptDelivery.isSome → h' = h
  about : h.cachedReceiptDelivery = none → ∀ d, h'.cachedReceiptDelivery = some d →
    d.value.businessResult = h.businessResult
  mapped : ∀ d receipt, h'.materializationOwner.cachedDelivery = some d → d.receipt = some receipt →
    Mapped n h log receipt
  published : (∀ e, raises e → e.isException = true) → h'.cachedReceiptDelivery.isSome

/-- The operations of `compose_receipt` on handle `n`. -/
inductive IssuesHandle (raises : BaseException → Prop) (n : ℕ) (log : ReceiptLog) :
    ReceiptOperation → Prop where
  | enterHandle (first : log = []) : IssuesHandle raises n log (.enterHandle n)
  | receiptPath {h : CompletedInvocation} {op : ReceiptOperation}
    (entered : (⟨.enterHandle n,.ok h⟩ : ReceiptExchange) ∈ log)
    (opened : h.cachedReceiptDelivery = none) (eligible : h.persistenceEligibility.isEligible = true)
    (path : (∃ k, op = .identityFactory k n) ∨
      (∃ receiptId outcomeId, op = .mapResult n receiptId outcomeId h.businessResult) ∨
      ∃ receipt, Mapped n h log receipt ∧ op = .persist n receipt)
    (ordered : Below op.rank log) : IssuesHandle raises n log op
  | newObject {h : CompletedInvocation} (entered : (⟨.enterHandle n,.ok h⟩ : ReceiptExchange) ∈ log)
    (ordered : Below 5 log) : IssuesHandle raises n log .newObject
  | leaveHandle {h h' : CompletedInvocation}
    (entered : (⟨.enterHandle n,.ok h⟩ : ReceiptExchange) ∈ log) (ordered : Below 6 log)
    (leaves : LeavesHandle raises n h log h') : IssuesHandle raises n log (.leaveHandle n h')

/-- What a section on the runtime owner leaves: every completion it found, and the one it built. -/
structure LeavesRuntime (method : ReceiptMethod) (o : PostgresWriteSideDecisionReceiptRuntimeOwner)
    (log : ReceiptLog) (o' : PostgresWriteSideDecisionReceiptRuntimeOwner) : Prop where
  signature : o'.invocationOwner.requestSignature = o.invocationOwner.requestSignature
  kept : ∀ a n, o.completion a = some n → o'.completion a = some n
  built : ∀ a n, o'.completion a = some n → o.completion a = some n ∨
    method = .invoke a ∧ ∃ h, (⟨.newHandle h,.ok n⟩ : ReceiptExchange) ∈ log

/-- The operations of a method of the runtime owner. -/
inductive IssuesRuntime (method : ReceiptMethod) (log : ReceiptLog) : ReceiptOperation → Prop where
  | enterRuntime (first : log = []) : IssuesRuntime method log .enterRuntime
  | write {a : Attempt} {o : PostgresWriteSideDecisionReceiptRuntimeOwner} (invokes : method = .invoke a)
    (entered : (⟨.enterRuntime,.ok o⟩ : ReceiptExchange) ∈ log) (ordered : Below 1 log) :
    IssuesRuntime method log (.write (retainedCall o.invocationOwner.requestSignature))
  | newHandle {a : Attempt} {call : WriterCall} {result : PyObject PostgresWriteSideResult}
    (invokes : method = .invoke a)
    (written : (⟨.write call,.ok result⟩ : ReceiptExchange) ∈ log) (ordered : Below 2 log) :
    IssuesRuntime method log (.newHandle (.fromRuntimeOwner result))
  | uuid4 (ordered : Below 1 log) : IssuesRuntime method log .uuid4
  | newObject (ordered : Below 5 log) : IssuesRuntime method log .newObject
  | leaveRuntime {o o' : PostgresWriteSideDecisionReceiptRuntimeOwner}
    (entered : (⟨.enterRuntime,.ok o⟩ : ReceiptExchange) ∈ log) (ordered : Below 6 log)
    (leaves : LeavesRuntime method o log o') : IssuesRuntime method log (.leaveRuntime o')

def Issues.receipt (raises : BaseException → Prop) : ReceiptMethod → ReceiptLog → ReceiptOperation → Prop
  | .composeReceipt n => IssuesHandle raises n
  | method => IssuesRuntime method

/-- The monitors never raise; the receipt path raises what it may. -/
def ReceiptOperation.replies (raises : BaseException → Prop) :
    (op : ReceiptOperation) → ReceiptReply op → Prop
  | .write _, _ => True
  | .identityFactory _ _, r => ∀ e, r = .error e → raises e
  | .mapResult _ _ _ _, r => ∀ e, r = .error e → raises e
  | .persist _ _, r => ∀ e, r = .error e → raises e
  | _, r => ∃ a, r = .ok a

theorem ReceiptStep.replies {ι : Type} {raises : BaseException → Prop} {i : ι} {w w' : ReceiptWorld ι}
    {op : ReceiptOperation} {reply : ReceiptReply op} (h : ReceiptStep raises i w op reply w') :
    op.replies raises reply := by
  cases h with
  | write call reply => trivial
  | identityFactory k n reply raised => exact raised
  | mapResult n r u result reply raised => exact raised
  | persist n receipt reply raised => exact raised
  | _ => exact ⟨_,rfl⟩

def receiptContract (raises : BaseException → Prop) (method : ReceiptMethod) :
    Contract ReceiptOperation ReceiptOperation.Answer BaseException where
  allowed _ op r := op.replies raises r
  guard := Issues.receipt raises method

/-! ## The section of `compose_receipt` -/

section Handle
variable {raises : BaseException → Prop} {n k : ℕ} {h s : CompletedInvocation} {log : ReceiptLog}

/-- A handle while its receipt is composed: it was entered as `h`, nothing is published. -/
structure Composing (n : ℕ) (h : CompletedInvocation) (k : ℕ) (log : ReceiptLog)
    (s : CompletedInvocation) : Prop where
  entered : (⟨.enterHandle n,.ok h⟩ : ReceiptExchange) ∈ log
  opened : h.cachedReceiptDelivery = none
  ordered : Below k log
  result : s.businessResult = h.businessResult
  unpublished : s.cachedReceiptDelivery = none
  mapped : ∀ d receipt, s.materializationOwner.cachedDelivery = some d → d.receipt = some receipt →
    Mapped n h log receipt

namespace Composing

theorem mono {l : ℕ} (hc : Composing n h k log s) (hkl : k ≤ l) : Composing n h l log s :=
  {hc with ordered := hc.ordered.mono hkl}

/-- Only the result and the two cached deliveries of the invocation matter. -/
theorem congr {s' : CompletedInvocation} (hc : Composing n h k log s)
    (hresult : s'.businessResult = s.businessResult)
    (hcached : s'.cachedReceiptDelivery = s.cachedReceiptDelivery)
    (howned : s'.materializationOwner.cachedDelivery = s.materializationOwner.cachedDelivery) :
    Composing n h k log s' where
  entered := hc.entered
  opened := hc.opened
  ordered := hc.ordered
  result := hresult.trans hc.result
  unpublished := hcached.trans hc.unpublished
  mapped d receipt hd hr := hc.mapped d receipt (howned ▸ hd) hr

theorem cons {l : ℕ} {op : ReceiptOperation} {r : ReceiptReply op} (hc : Composing n h k log s)
    (hop : op.rank < l) (hkl : k ≤ l) : Composing n h l (⟨op,r⟩ :: log) s where
  entered := List.mem_cons_of_mem _ hc.entered
  opened := hc.opened
  ordered := hc.ordered.cons hop hkl
  result := hc.result
  unpublished := hc.unpublished
  mapped d receipt hd hr := (hc.mapped d receipt hd hr).cons _

theorem eligibility (hc : Composing n h k log s) :
    s.persistenceEligibility = h.persistenceEligibility := by
  rw [s.evaluated, h.evaluated, hc.result]

end Composing

/-- An exception of the receipt path, or of the code around it. -/
def Raisable {α : Type} (raises : BaseException → Prop) (r : Except BaseException α) : Prop :=
  ∀ e, r = .error e → raises e ∨ e.isException = true

theorem raisable_ofPython {α : Type} (r : Except PyException α) :
    Raisable raises (r.mapError .exception) := by
  intro e he
  cases r with
  | ok a => cases he
  | error e' =>
    obtain rfl := Except.error.inj he
    exact .inr rfl

/-- What a section returns, and the delivery it leaves in the handle. -/
def Returns (raises : BaseException → Prop) (r : Except BaseException (PyObject RuntimeDelivery))
    (h' : CompletedInvocation) : Prop :=
  (∀ d, r = .ok d → h'.cachedReceiptDelivery = some d) ∧
    ((∀ e, raises e → e.isException = true) → ∃ d, r = .ok d)

theorem raisable_error {α β : Type} {e : BaseException}
    (h : Raisable raises (.error e : Except BaseException α)) :
    Raisable raises (.error e : Except BaseException β) := by
  intro e' he'
  obtain rfl := Except.error.inj he'
  exact h _ rfl
namespace CompletedInvocation

theorem meets_identityFromFactory {f : IdentityFactory} (hc : Composing n h k log s)
    (he : h.persistenceEligibility.isEligible = true)
    (hk : k ≤ (ReceiptOperation.identityFactory f n).rank) :
    (identityFromFactory f n).Meets (receiptContract raises (.composeReceipt n)) s log
      (fun log r s' => s' = s ∧ Raisable raises r ∧
        Composing n h ((ReceiptOperation.identityFactory f n).rank + 1) log s) := by
  rw [identityFromFactory, Routine.meets_bind, Routine.meets_perform]
  refine ⟨.receiptPath hc.entered hc.opened he (.inl ⟨f,rfl⟩) (hc.ordered.mono hk),fun r hr => ?_⟩
  have hc' := hc.cons (r := r) (Nat.lt_succ_self _) (Nat.le_succ_of_le hk)
  cases r with
  | error e =>
    refine ⟨rfl,fun e' he' => .inl ?_,hc'⟩
    obtain rfl := Except.error.inj he'
    exact hr _ rfl
  | ok identity =>
    cases identity with
    | none => exact ⟨rfl,raisable_ofPython (.error _),hc'⟩
    | some u => exact ⟨rfl,fun e he => (nomatch he),hc'⟩

theorem meets_requireMaterializationIdentities (hc : Composing n h 1 log s)
    (he : h.persistenceEligibility.isEligible = true) :
    (requireMaterializationIdentities n).Meets (receiptContract raises (.composeReceipt n)) s log
      (fun log r s' => Raisable raises r ∧ Composing n h 3 log s') := by
  rw [requireMaterializationIdentities, Routine.meets_bind, Routine.meets_get]
  dsimp only
  split
  · rw [Routine.meets_bind]
    refine (meets_identityFromFactory (f := .receiptId) hc he (Nat.le_refl 1)).mono ?_
    rintro log r s₁ ⟨rfl,hr,hc₁⟩
    cases r with
    | error e => exact ⟨raisable_error hr,hc₁.mono (show 2 ≤ 3 by decide)⟩
    | ok receiptId =>
      dsimp only
      rw [Routine.meets_bind]
      refine (meets_identityFromFactory (f := .outcomeId) hc₁ he (Nat.le_refl 2)).mono ?_
      rintro log r s₂ ⟨rfl,hr,hc₂⟩
      cases r with
      | error e => exact ⟨raisable_error hr,hc₂⟩
      | ok outcomeId =>
        refine ⟨fun e he => (nomatch he),?_⟩
        exact hc₂.congr rfl rfl rfl
  · rw [Routine.meets_bind, Routine.meets_get]
    have hc₃ : Composing n h 3 log s := hc.mono (by decide)
    dsimp only
    split
    · exact ⟨fun e he => (nomatch he),hc₃⟩
    · exact ⟨raisable_ofPython (.error _),hc₃⟩

/-- A delivery of the materialization carries the receipt the mapper returned, if any. -/
theorem materialized_receipt {result : PyObject PostgresWriteSideResult}
    {mapped : Except BaseException DecisionReceipt} {d : MaterializationDelivery}
    {receipt : DecisionReceipt} (hd : materialized result mapped = .ok d)
    (hr : d.receipt = some receipt) : mapped = .ok receipt := by
  unfold materialized at hd
  split at hd
  · obtain rfl := Except.ok.inj hd
    rw [Option.some.inj hr]
  · obtain rfl := Except.ok.inj hd
    cases hr
  · split at hd
    · obtain rfl := Except.ok.inj hd
      cases hr
    · cases hd
  · cases hd

theorem materialized_raisable {result : PyObject PostgresWriteSideResult}
    {mapped : Except BaseException DecisionReceipt} (h : ∀ e, mapped = .error e → raises e) :
    Raisable raises (materialized result mapped) := by
  unfold materialized
  split
  · exact raisable_ofPython _
  · exact raisable_ofPython _
  · split
    · exact raisable_ofPython _
    · exact fun e he => .inl (h e (by rw [← Except.error.inj he]))
  · exact fun e he => .inl (h e (by rw [← Except.error.inj he]))

theorem meets_materializeReceipt (hc : Composing n h 1 log s)
    (he : h.persistenceEligibility.isEligible = true) :
    (materializeReceipt n).Meets (receiptContract raises (.composeReceipt n)) s log
      (fun log r s' => Raisable raises r ∧ Composing n h 4 log s' ∧
        ∀ d receipt, r = .ok d → d.receipt = some receipt → Mapped n h log receipt) := by
  rw [materializeReceipt, Routine.meets_bind, Routine.meets_get]
  dsimp only
  split
  · rename_i d hd
    refine ⟨fun e he => (nomatch he),hc.mono (by decide),fun d' receipt hd' hr => ?_⟩
    obtain rfl := Except.ok.inj hd'
    exact hc.mapped d receipt hd hr
  · rw [Routine.meets_bind]
    refine (meets_requireMaterializationIdentities hc he).mono ?_
    rintro log r s₁ ⟨hr,hc₁⟩
    cases r with
    | error e => exact ⟨raisable_error hr,hc₁.mono (by decide),fun d receipt hd => (nomatch hd)⟩
    | ok ids =>
      rcases ids with ⟨receiptId,outcomeId⟩
      rw [s.retained, hc.result]
      dsimp only
      rw [Routine.meets_bind, Routine.meets_attempt, Routine.meets_perform]
      refine ⟨.receiptPath hc₁.entered hc₁.opened he (.inr (.inl ⟨receiptId,outcomeId,rfl⟩))
        hc₁.ordered,fun mapped hm => ?_⟩
      have hc₂ := hc₁.cons (r := mapped) (l := 4) (show 3 < 4 by decide) (by decide)
      dsimp only
      rw [Routine.meets_bind, Routine.meets_ofExcept]
      have hraised : Raisable raises (materialized h.businessResult mapped) :=
        materialized_raisable hm
      cases hd : materialized h.businessResult mapped with
      | error e => exact ⟨raisable_error (hd ▸ hraised),hc₂,fun d receipt hd => (nomatch hd)⟩
      | ok d =>
        have hmapped (receipt : DecisionReceipt) (hr : d.receipt = some receipt) : Mapped n h
            (⟨.mapResult n receiptId outcomeId h.businessResult,mapped⟩ :: log) receipt := by
          rw [materialized_receipt hd hr]
          exact .inl ⟨receiptId,outcomeId,by simp⟩
        refine ⟨fun e he => (nomatch he),?_,?_⟩
        · refine ⟨hc₂.entered,hc₂.opened,hc₂.ordered,hc₂.result,hc₂.unpublished,?_⟩
          intro d' receipt hd' hr
          obtain rfl := Option.some.inj hd'
          exact hmapped receipt hr
        · intro d' receipt hd' hr
          obtain rfl := Except.ok.inj hd'
          exact hmapped receipt hr

/-- Publication of a composition, whether or not its checks pass. -/
theorem meets_composed (hc : Composing n h 5 log s)
    (r : Except PyException PersistenceCompositionDelivery) :
    Routine.Meets (receiptContract raises (.composeReceipt n)) (do
      let delivery ← ofPython r
      Routine.modify (fun h => h.compose delivery)
      pure delivery) s log (fun log r s' => Raisable raises r ∧ Composing n h 5 log s') := by
  rw [Routine.meets_bind, Routine.meets_ofExcept]
  cases r with
  | error e => exact ⟨raisable_ofPython (.error e),hc⟩
  | ok d =>
    refine ⟨fun e he => (nomatch he),?_⟩
    exact hc.congr rfl rfl rfl

theorem meets_composePersistence {o : PersistenceCompositionOwner} (hc : Composing n h 1 log s)
    (he : h.persistenceEligibility.isEligible = true) :
    (composePersistence o n).Meets (receiptContract raises (.composeReceipt n)) s log
      (fun log r s' => Raisable raises r ∧ Composing n h 5 log s') := by
  unfold composePersistence
  split
  · exact ⟨fun e he => (nomatch he),hc.mono (by decide)⟩
  · rw [Routine.meets_bind]
    refine (meets_materializeReceipt hc he).mono ?_
    rintro log r s₁ ⟨hr,hc₁,hmapped⟩
    cases r with
    | error e => exact ⟨raisable_error hr,hc₁.mono (by decide)⟩
    | ok m =>
      dsimp only
      split
      · exact meets_composed (hc₁.mono (by decide)) _
      · split
        · exact meets_composed (hc₁.mono (by decide)) _
        · rename_i receipt hreceipt
          rw [Routine.meets_bind, Routine.meets_perform]
          refine ⟨.receiptPath hc₁.entered hc₁.opened he
            (.inr (.inr ⟨receipt,hmapped m receipt rfl hreceipt,rfl⟩)) hc₁.ordered,fun r hr => ?_⟩
          have hc₂ := hc₁.cons (r := r) (l := 5) (show 4 < 5 by decide) (by decide)
          cases r with
          | error e =>
            refine ⟨fun e' he' => .inl ?_,hc₂⟩
            obtain rfl := Except.error.inj he'
            exact hr _ rfl
          | ok result => exact meets_composed hc₂ _

/-- A delivery that passes its checks is new and about the result; else nothing was issued. -/
theorem meets_newDelivery {status : RuntimeStatus} {d : Option PersistenceCompositionDelivery}
    (hc : Composing n h 5 log s) :
    (newDelivery status d).Meets (receiptContract raises (.composeReceipt n)) s log
      (fun log' r s' => Composing n h 6 log' s' ∧ s' = s ∧
        ((∃ e, RuntimeDelivery.make s.businessResult s.persistenceEligibility status d = .error e ∧
            r = .error (.exception e) ∧ log' = log) ∨
          ∃ delivery, r = .ok delivery ∧ delivery.value.businessResult = h.businessResult)) := by
  rw [newDelivery, Routine.meets_bind, Routine.meets_get]
  dsimp only
  rw [Routine.meets_bind, Routine.meets_ofExcept]
  cases hm : RuntimeDelivery.make s.businessResult s.persistenceEligibility status d with
  | error e => exact ⟨hc.mono (by decide),rfl,.inl ⟨e,rfl,rfl,rfl⟩⟩
  | ok v =>
    dsimp only [Except.mapError]
    rw [Routine.meets_bind, Routine.meets_perform]
    refine ⟨.newObject hc.entered hc.ordered,fun r ⟨address,hr⟩ => ?_⟩
    subst hr
    exact ⟨hc.cons (by decide) (by decide),rfl,.inr ⟨⟨address,v⟩,rfl,
      (RuntimeDelivery.make_source hm).1.trans hc.result⟩⟩

theorem meets_published (hc : Composing n h 6 log s) {d : PyObject RuntimeDelivery}
    (hd : d.value.businessResult = h.businessResult) :
    (IssuesHandle raises n log (.leaveHandle n (s.publish d))) ∧
      Returns raises (.ok d) (s.publish d) := by
  refine ⟨.leaveHandle hc.entered hc.ordered ⟨hc.result,?_,?_,hc.mapped,fun _ => rfl⟩,?_,fun _ => ⟨d,rfl⟩⟩
  · intro hsome
    rw [hc.opened] at hsome
    cases hsome
  · rintro - d' hd'
    obtain rfl := Option.some.inj hd'
    exact hd
  · intro d' hd'
    obtain rfl := Except.ok.inj hd'
    rfl

/-- The delivery that takes the place of an exception; its checks pass. -/
theorem meets_replacement {status : RuntimeStatus} (hc : Composing n h 5 log s)
    (hmake : ∃ v, RuntimeDelivery.make s.businessResult s.persistenceEligibility status none = .ok v) :
    Routine.Meets (receiptContract raises (.composeReceipt n)) (do
      let delivery ← newDelivery status none
      Routine.modify (fun h => h.publish delivery)
      pure delivery) s log (fun log r s' =>
        IssuesHandle raises n log (.leaveHandle n s') ∧ Returns raises r s') := by
  rw [Routine.meets_bind]
  refine (meets_newDelivery hc).mono ?_
  rintro log r s' ⟨hc',rfl,⟨e,herror,-⟩ | ⟨d,rfl,hd⟩⟩
  · obtain ⟨v,hv⟩ := hmake
    rw [hv] at herror
    cases herror
  · exact meets_published hc' hd

/-- What follows an exception of the composition: the process-control classes leave nothing. -/
theorem meets_raised {e : BaseException} (hc : Composing n h 5 log s)
    (he : h.persistenceEligibility.isEligible = true)
    (hr : Raisable raises (.error e : Except BaseException (PyObject RuntimeDelivery))) :
    Routine.Meets (receiptContract raises (.composeReceipt n))
      (match (.error e : Except BaseException (PyObject RuntimeDelivery)) with
      | .ok delivery => do
        let delivery ← pure delivery
        Routine.modify (fun h => h.publish delivery)
        pure delivery
      | .error (.exception _) => do
        let delivery ← newDelivery .unexpectedCompositionException none
        Routine.modify (fun h => h.publish delivery)
        pure delivery
      | .error e => do
        let delivery ← Routine.raise e
        Routine.modify (fun h => h.publish delivery)
        pure delivery) s log (fun log r s' =>
        IssuesHandle raises n log (.leaveHandle n s') ∧ Returns raises r s') := by
  cases e with
  | exception e =>
    exact meets_replacement hc ⟨_,by rw [RuntimeDelivery.make, hc.eligibility, he]; rfl⟩
  | processControl name =>
    have hcontrol (hcaught : ∀ e, raises e → e.isException = true) : False := by
      rcases hr _ rfl with hraises | hexception
      · exact nomatch hcaught _ hraises
      · cases hexception
    refine ⟨.leaveHandle hc.entered (hc.ordered.mono (by decide)) ⟨hc.result,?_,?_,hc.mapped,
      fun hcaught => (hcontrol hcaught).elim⟩,fun d hd => (nomatch hd),
      fun hcaught => (hcontrol hcaught).elim⟩
    · intro hsome
      rw [hc.opened] at hsome
      cases hsome
    · rintro - d hd
      rw [hc.unpublished] at hd
      cases hd

theorem meets_composeSection (n : ℕ) (h : CompletedInvocation) :
    (composeSection n).Meets (receiptContract raises (.composeReceipt n)) h
      [⟨.enterHandle n,.ok h⟩] (fun log r h' =>
        IssuesHandle raises n log (.leaveHandle n h') ∧ Returns raises r h') := by
  have hordered : Below 1 [(⟨.enterHandle n,.ok h⟩ : ReceiptExchange)] := by
    intro x hx
    obtain rfl := List.mem_singleton.mp hx
    exact Nat.zero_lt_one
  rw [composeSection, Routine.meets_bind, Routine.meets_get]
  dsimp only
  split
  · rename_i d hd
    refine ⟨.leaveHandle (List.mem_singleton_self _) (hordered.mono (by decide))
      ⟨rfl,fun _ => rfl,?_,fun d receipt hd hr => .inr ⟨d,hd,hr⟩,fun _ => ?_⟩,?_,fun _ => ⟨d,rfl⟩⟩
    · intro hnone
      rw [hd] at hnone
      cases hnone
    · rw [hd]
      rfl
    · intro d' hd'
      obtain rfl := Except.ok.inj hd'
      exact hd
  · rename_i hnone
    have hc : Composing n h 1 [⟨.enterHandle n,.ok h⟩] h := ⟨List.mem_singleton_self _,hnone,hordered,
      rfl,hnone,fun d receipt hd hr => .inr ⟨d,hd,hr⟩⟩
    have hcomposed := h.composed
    split
    · rename_i howner
      rw [howner] at hcomposed
      exact meets_replacement (hc.mono (by decide)) ⟨_,by rw [RuntimeDelivery.make, ← hcomposed]; rfl⟩
    · rename_i o howner
      have he : h.persistenceEligibility.isEligible = true := by rw [← hcomposed, howner]; rfl
      rw [Routine.meets_bind, Routine.meets_attempt, Routine.meets_bind]
      refine (meets_composePersistence hc he).mono ?_
      rintro log r s ⟨hr,hc₁⟩
      cases r with
      | error e => exact meets_raised hc₁ he (raisable_error hr)
      | ok p =>
        refine (meets_newDelivery hc₁).mono ?_
        rintro log' r' s' ⟨hc₂,rfl,⟨e,-,rfl,rfl⟩ | ⟨d,rfl,hd⟩⟩
        · exact meets_raised hc₁ he (raisable_ofPython (.error e))
        · exact meets_published hc₂ hd

end CompletedInvocation
end Handle

/-! ## The sections of the runtime owner -/

theorem OwnerEffect.signature {o o' : PostgresWriteSideInvocationOwner} {op : OwnerOperation}
    {reply : OwnerReply op} (h : OwnerEffect o op reply o') :
    o'.requestSignature = o.requestSignature := by
  cases h <;> rfl

section Runtime
variable {raises : BaseException → Prop} {method : ReceiptMethod} {a : Attempt} {α : Type}
  {o s : PostgresWriteSideDecisionReceiptRuntimeOwner} {log : ReceiptLog}

/-- A runtime owner inside a section that retained no completion yet. -/
structure Serving (o : PostgresWriteSideDecisionReceiptRuntimeOwner) (k : ℕ) (log : ReceiptLog)
    (s : PostgresWriteSideDecisionReceiptRuntimeOwner) : Prop where
  entered : (⟨.enterRuntime,.ok o⟩ : ReceiptExchange) ∈ log
  ordered : Below k log
  signature : s.invocationOwner.requestSignature = o.invocationOwner.requestSignature
  completion : s.completion = o.completion

namespace Serving
variable {k l : ℕ}

theorem entry (o : PostgresWriteSideDecisionReceiptRuntimeOwner) :
    Serving o 1 [⟨.enterRuntime,.ok o⟩] o := by
  refine ⟨List.mem_singleton_self _,fun x hx => ?_,rfl,rfl⟩
  obtain rfl := List.mem_singleton.mp hx
  exact Nat.zero_lt_one

theorem mono (hs : Serving o k log s) (hkl : k ≤ l) : Serving o l log s :=
  {hs with ordered := hs.ordered.mono hkl}

theorem cons {op : ReceiptOperation} {r : ReceiptReply op} (hs : Serving o k log s)
    (hop : op.rank < l) (hkl : k ≤ l) : Serving o l (⟨op,r⟩ :: log) s :=
  {hs with entered := List.mem_cons_of_mem _ hs.entered, ordered := hs.ordered.cons hop hkl}

theorem leaves (hs : Serving o k log s) (hk : k ≤ 6) : IssuesRuntime method log (.leaveRuntime s) :=
  .leaveRuntime hs.entered (hs.ordered.mono hk) ⟨hs.signature,fun a n hn => by rw [hs.completion, hn],
    fun a n hn => .inl (by rw [← hs.completion, hn])⟩

end Serving

namespace PostgresWriteSideDecisionReceiptRuntimeOwner

theorem meets_onInvocationOwner {k : ℕ} {C : Contract ReceiptOperation ReceiptOperation.Answer BaseException}
    {f : PostgresWriteSideInvocationOwner → Except PyException α × PostgresWriteSideInvocationOwner}
    (hf : ∀ o, (f o).2.requestSignature = o.requestSignature) (hs : Serving o k log s) :
    (onInvocationOwner f).Meets C s log (fun log' _ s' => log' = log ∧ Serving o k log s') :=
  ⟨rfl,{hs with signature := (hf _).trans hs.signature}⟩

theorem admission_signature (o : PostgresWriteSideInvocationOwner) (a : Attempt) :
    (o.admission a).2.requestSignature = o.requestSignature := (OwnerStep.admission a).effect.signature

theorem publish_signature (o : PostgresWriteSideInvocationOwner) (a : Attempt)
    (r : PyObject PostgresWriteSideResult) :
    (o.publish a r).requestSignature = o.requestSignature := (OwnerStep.publish a r).effect.signature

theorem meets_readCompletion (a : Attempt) :
    (readCompletion a).Meets (receiptContract raises (.completion a)) o [⟨.enterRuntime,.ok o⟩]
      (fun log r o' => IssuesRuntime (.completion a) log (.leaveRuntime o') ∧
        (⟨.enterRuntime,.ok o⟩ : ReceiptExchange) ∈ log ∧ ∀ n, o.completion a = some n ↔ r = .ok n) := by
  have hs := Serving.entry o
  rw [readCompletion, Routine.meets_bind, Routine.meets_get]
  dsimp only
  cases hn : o.completion a with
  | some n => exact ⟨hs.leaves (by decide),hs.entered,fun m => by simp⟩
  | none => exact ⟨hs.leaves (by decide),hs.entered,fun m => by simp [Except.mapError]⟩

theorem meets_evaluateReinvocationAuthority (hm : Issues.receipt raises method = IssuesRuntime method) :
    evaluateReinvocationAuthority.Meets (receiptContract raises method) o [⟨.enterRuntime,.ok o⟩]
      (fun log _ o' => IssuesRuntime method log (.leaveRuntime o')) := by
  have hs := Serving.entry o
  rw [evaluateReinvocationAuthority, Routine.meets_bind, Routine.meets_perform]
  refine ⟨?_,fun r ⟨address,hr⟩ => ?_⟩
  · rw [receiptContract, hm]
    exact .newObject (hs.ordered.mono (by decide))
  · subst hr
    refine (meets_onInvocationOwner (fun o =>
      (OwnerStep.evaluateReinvocationAuthority address).effect.signature)
      (hs.cons (r := (.ok address : ReceiptReply .newObject)) (l := 6) (by decide) (by decide))).mono ?_
    rintro log r s ⟨rfl,hs'⟩
    exact hs'.leaves (Nat.le_refl 6)

theorem meets_evaluateCurrentResponse (hm : Issues.receipt raises method = IssuesRuntime method) :
    evaluateCurrentResponse.Meets (receiptContract raises method) o [⟨.enterRuntime,.ok o⟩]
      (fun log _ o' => IssuesRuntime method log (.leaveRuntime o')) := by
  have hs := Serving.entry o
  rw [evaluateCurrentResponse, Routine.meets_bind, Routine.meets_perform]
  refine ⟨?_,fun r ⟨drawn,hr⟩ => ?_⟩
  · rw [receiptContract, hm]
    exact .uuid4 hs.ordered
  · subst hr
    have hs₁ := hs.cons (r := (.ok drawn : ReceiptReply .uuid4)) (l := 5) (by decide) (by decide)
    dsimp only
    rw [Routine.meets_bind, Routine.meets_perform]
    refine ⟨?_,fun r ⟨address,hr⟩ => ?_⟩
    · rw [receiptContract, hm]
      exact .newObject hs₁.ordered
    · subst hr
      refine (meets_onInvocationOwner (fun o =>
        (OwnerStep.evaluateCurrentResponse drawn address).effect.signature)
        (hs₁.cons (r := (.ok address : ReceiptReply .newObject)) (l := 6) (by decide) (by decide))).mono ?_
      rintro log r s ⟨rfl,hs'⟩
      exact hs'.leaves (Nat.le_refl 6)

theorem meets_invokeOwner (a : Attempt) (hs : Serving o 1 log s) :
    (invokeOwner a).Meets (receiptContract raises (.invoke a)) s log (fun log r s' =>
      Serving o 2 log s' ∧ ∀ result, r = .ok result → ∃ call,
        (⟨.write call,.ok result⟩ : ReceiptExchange) ∈ log) := by
  rw [invokeOwner, Routine.meets_bind]
  refine (meets_onInvocationOwner (fun o => admission_signature o a) hs).mono ?_
  rintro log' r s₁ ⟨rfl,hs₁⟩
  cases r with
  | error e => exact ⟨hs₁.mono (by decide),fun result hr => (nomatch hr)⟩
  | ok _ =>
    dsimp only
    rw [Routine.meets_bind, Routine.meets_get]
    dsimp only
    rw [hs₁.signature, Routine.meets_bind, Routine.meets_perform]
    refine ⟨.write rfl hs₁.entered hs₁.ordered,fun r _ => ?_⟩
    have hs₂ := hs₁.cons (r := r) (l := 2) (show 1 < 2 by decide) (by decide)
    cases r with
    | error e => exact ⟨hs₂,fun result hr => (nomatch hr)⟩
    | ok result =>
      dsimp only
      rw [Routine.meets_bind]
      refine (meets_onInvocationOwner (fun o => publish_signature o a result) hs₂).mono ?_
      rintro log' r s₃ ⟨rfl,hs₃⟩
      cases r with
      | error e => exact ⟨hs₃,fun result hr => (nomatch hr)⟩
      | ok _ =>
        refine ⟨hs₃,fun result' hr => ?_⟩
        obtain rfl := Except.ok.inj hr
        exact ⟨_,List.mem_cons_self ..⟩

/-- A call that returns a handle built it and left it retained. -/
theorem meets_invokeSection (a : Attempt) :
    (invokeSection a).Meets (receiptContract raises (.invoke a)) o [⟨.enterRuntime,.ok o⟩]
      (fun log r o' => IssuesRuntime (.invoke a) log (.leaveRuntime o') ∧
        ∀ n, r = .ok n → o'.completion a = some n ∧
          ∃ h, (⟨.newHandle h,.ok n⟩ : ReceiptExchange) ∈ log) := by
  rw [invokeSection, Routine.meets_bind]
  refine (meets_invokeOwner a (Serving.entry o)).mono ?_
  rintro log r s ⟨hs,hresult⟩
  cases r with
  | error e => exact ⟨hs.leaves (by decide),fun n hn => (nomatch hn)⟩
  | ok result =>
    obtain ⟨call,hcall⟩ := hresult result rfl
    dsimp only
    rw [Routine.meets_bind, Routine.meets_perform]
    refine ⟨.newHandle rfl hcall hs.ordered,fun r ⟨n,hr⟩ => ?_⟩
    subst hr
    have hs₁ := hs.cons (r := (.ok n : ReceiptReply (.newHandle (.fromRuntimeOwner result)))) (l := 6)
      (show 2 < 6 by decide) (by decide)
    dsimp only
    rw [Routine.meets_bind, Routine.meets_get]
    dsimp only
    split
    · exact ⟨hs₁.leaves (Nat.le_refl 6),fun m hm => (nomatch hm)⟩
    · rename_i hfresh
      have hnone : s.completion a = none := by simpa using hfresh
      have hbuilt : (⟨.newHandle (.fromRuntimeOwner result),.ok n⟩ : ReceiptExchange) ∈
          (⟨.newHandle (.fromRuntimeOwner result),.ok n⟩ :: log : ReceiptLog) := List.mem_cons_self ..
      refine ⟨.leaveRuntime hs₁.entered hs₁.ordered ⟨?_,fun b m hb => ?_,fun b m hb => ?_⟩,
        fun m hm => ?_⟩
      · rw [← hs.signature]
        cases a <;> rfl
      · rw [completion_retain, if_neg, hs.completion, hb]
        rintro rfl
        rw [hs.completion, hb] at hnone
        cases hnone
      · by_cases hba : b = a
        · subst hba
          rw [completion_retain, if_pos rfl] at hb
          obtain rfl := Option.some.inj hb
          exact .inr ⟨rfl,_,hbuilt⟩
        · rw [completion_retain, if_neg hba, hs.completion] at hb
          exact .inl hb
      · obtain rfl := Except.ok.inj hm
        exact ⟨by rw [completion_retain, if_pos rfl],_,hbuilt⟩

end PostgresWriteSideDecisionReceiptRuntimeOwner

theorem meets_onRuntime {body : ReceiptRoutine PostgresWriteSideDecisionReceiptRuntimeOwner α}
    {f : Except BaseException α → ReceiptOutcome} {post : ReceiptLog → ReceiptOutcome → Prop}
    (hm : Issues.receipt raises method = IssuesRuntime method)
    (hbody : ∀ o, body.Meets (receiptContract raises method) o [⟨.enterRuntime,.ok o⟩]
      (fun log r o' => IssuesRuntime method log (.leaveRuntime o') ∧
        post (⟨.leaveRuntime o',.ok ()⟩ :: log) (f r))) :
    ((onRuntime body).bind (fun r => .done (f r))).Meets (receiptContract raises method) post [] := by
  refine (Program.meets_bind _ _ _).mpr (Program.meets_synchronized ?_ ?_ ?_)
  · rw [receiptContract, hm]
    exact .enterRuntime rfl
  · rintro e ⟨o,ho⟩
    cases ho
  · rintro o -
    refine (hbody o).mono ?_
    rintro log r o' ⟨hissues,hpost⟩
    refine ⟨?_,?_⟩
    · rw [receiptContract, hm]
      exact hissues
    · rintro reply ⟨u,rfl⟩
      exact hpost

end Runtime

/-- What a call returned with. -/
def ReceiptPost (raises : BaseException → Prop) : ReceiptMethod → ReceiptLog → ReceiptOutcome → Prop
  | .composeReceipt n, log, out => ∃ h r, (⟨.leaveHandle n h,.ok ()⟩ : ReceiptExchange) ∈ log ∧
      out = .receipt r ∧ Returns raises r h
  | .invoke a, log, out => ∃ r, out = .completion r ∧ ∀ n, r = .ok n → ∃ o h,
      (⟨.leaveRuntime o,.ok ()⟩ : ReceiptExchange) ∈ log ∧ o.completion a = some n ∧
        (⟨.newHandle h,.ok n⟩ : ReceiptExchange) ∈ log
  | .completion a, log, out => ∃ o r, out = .completion r ∧
      (⟨.enterRuntime,.ok o⟩ : ReceiptExchange) ∈ log ∧ ∀ n, o.completion a = some n ↔ r = .ok n
  | _, _, _ => True

open PostgresWriteSideDecisionReceiptRuntimeOwner in
theorem ReceiptMethod.program_meets (raises : BaseException → Prop) (method : ReceiptMethod) :
    method.program.Meets (receiptContract raises method) (ReceiptPost raises method) [] := by
  cases method with
  | completion a =>
    refine meets_onRuntime rfl (fun o => (meets_readCompletion a).mono ?_)
    rintro log r o' ⟨hissues,hentered,hr⟩
    exact ⟨hissues,o,r,rfl,List.mem_cons_of_mem _ hentered,hr⟩
  | invoke a =>
    refine meets_onRuntime rfl (fun o => (meets_invokeSection a).mono ?_)
    rintro log r o' ⟨hissues,hbuilt⟩
    refine ⟨hissues,r,rfl,fun n hn => ?_⟩
    obtain ⟨hretained,h,hh⟩ := hbuilt n hn
    exact ⟨o',h,List.mem_cons_self ..,hretained,List.mem_cons_of_mem _ hh⟩
  | evaluateCurrentResponse =>
    exact meets_onRuntime rfl (fun o => (meets_evaluateCurrentResponse rfl).mono
      (fun _ _ _ hissues => ⟨hissues,trivial⟩))
  | evaluateReinvocationAuthority =>
    exact meets_onRuntime rfl (fun o => (meets_evaluateReinvocationAuthority rfl).mono
      (fun _ _ _ hissues => ⟨hissues,trivial⟩))
  | composeReceipt n =>
    refine (Program.meets_bind _ _ _).mpr (Program.meets_synchronized (.enterHandle rfl) ?_ ?_)
    · rintro e ⟨h,hh⟩
      cases hh
    · rintro h -
      refine (CompletedInvocation.meets_composeSection n h).mono ?_
      rintro log r h' ⟨hissues,hreturns⟩
      refine ⟨hissues,?_⟩
      rintro reply ⟨u,rfl⟩
      exact ⟨h',r,List.mem_cons_self ..,rfl,hreturns⟩

end StreamingCompass
