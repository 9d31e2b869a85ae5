import StreamingCompass.Concurrency.ReceiptContract
import StreamingCompass.Interleaving.Run

/-! # Receipt custody

Whatever threads call and however the receipt path behaves: a handle keeps the result it was
built for, and as long as only an `Exception` is raised its receipt is composed once.
-/
namespace StreamingCompass
open Interleaving

variable {ι : Type} [DecidableEq ι] {raises : BaseException → Prop}
  {o : PostgresWriteSideDecisionReceiptRuntimeOwner} {calls : ι → ReceiptMethod}
  {c : ReceiptSystem ι} {i j k : ι} {n : ℕ}

/-! ## What a step does to one handle -/

/-- Entry, leave and construction are the only steps a handle notices. -/
inductive HandleEffect (n : ℕ) (k : ι) : Option (Monitor ι CompletedInvocation) →
    (op : ReceiptOperation) → ReceiptReply op → Option (Monitor ι CompletedInvocation) → Prop where
  | other {m : Option (Monitor ι CompletedInvocation)} {op : ReceiptOperation} {reply : ReceiptReply op}
    (enter : op ≠ .enterHandle n) (leave : ∀ h, op ≠ .leaveHandle n h)
    (new : ∀ h, (⟨op,reply⟩ : ReceiptExchange) ≠ ⟨.newHandle h,.ok n⟩) :
    HandleEffect n k m op reply m
  | entered {m : Monitor ι CompletedInvocation} (open_ : m.holder = none) :
    HandleEffect n k (some m) (.enterHandle n) (.ok m.value) (some (m.enter k))
  | left {m : Option (Monitor ι CompletedInvocation)} (h : CompletedInvocation) :
    HandleEffect n k m (.leaveHandle n h) (.ok ()) (m.map (fun _ => .free h))
  | built (h : CompletedInvocation) : HandleEffect n k none (.newHandle h) (.ok n) (some (.free h))

omit [DecidableEq ι] in
theorem ReceiptStep.handle {w w' : ReceiptWorld ι} {op : ReceiptOperation} {reply : ReceiptReply op}
    (hs : ReceiptStep raises k w op reply w') (n : ℕ) :
    HandleEffect n k w.handles[n]? op reply w'.handles[n]? := by
  cases hs with
  | newHandle h =>
    by_cases hn : n = w.handles.length
    · subst hn
      simp only [List.getElem?_eq_none (Nat.le_refl _), List.getElem?_concat_length]
      exact .built h
    · have hkept : (w.handles ++ [.free h])[n]? = w.handles[n]? := by
        rcases Nat.lt_or_gt_of_ne hn with hlt | hgt
        · exact List.getElem?_append_left hlt
        · rw [List.getElem?_eq_none (by simp; omega), List.getElem?_eq_none (by omega)]
      simp only [hkept]
      refine .other (by simp) (by simp) (fun h' he => hn ?_)
      simp only [Sigma.mk.injEq, ReceiptOperation.newHandle.injEq] at he
      obtain ⟨rfl,he⟩ := he
      exact (Except.ok.inj (eq_of_heq he)).symm
  | @enterHandle l m built open_ =>
    by_cases hn : l = n
    · subst hn
      have hl : l < w.handles.length := (List.getElem?_eq_some_iff.mp built).1
      simp only [List.getElem?_set_self hl, built]
      exact .entered open_
    · simp only [List.getElem?_set_ne hn]
      exact .other (by simpa using hn) (by simp) (by simp)
  | leaveHandle l h =>
    by_cases hn : l = n
    · subst hn
      simp only [List.getElem?_set_self']
      exact .left h
    · simp only [List.getElem?_set_ne hn]
      refine .other (by simp) (fun h' he => hn ?_) (by simp)
      exact (ReceiptOperation.leaveHandle.inj he).1
  | _ => exact .other (by simp) (by simp) (by simp)

/-- What a step does to the monitor of the runtime owner. -/
inductive RuntimeEffect (k : ι) (m : Monitor ι PostgresWriteSideDecisionReceiptRuntimeOwner) :
    (op : ReceiptOperation) → ReceiptReply op →
      Monitor ι PostgresWriteSideDecisionReceiptRuntimeOwner → Prop where
  | other {op : ReceiptOperation} {reply : ReceiptReply op} (enter : op ≠ .enterRuntime)
    (leave : ∀ o, op ≠ .leaveRuntime o) : RuntimeEffect k m op reply m
  | entered (open_ : m.holder = none) : RuntimeEffect k m .enterRuntime (.ok m.value) (m.enter k)
  | left (o : PostgresWriteSideDecisionReceiptRuntimeOwner) :
    RuntimeEffect k m (.leaveRuntime o) (.ok ()) (.free o)

omit [DecidableEq ι] in
theorem ReceiptStep.runtime {w w' : ReceiptWorld ι} {op : ReceiptOperation} {reply : ReceiptReply op}
    (hs : ReceiptStep raises k w op reply w') : RuntimeEffect k w.runtime op reply w'.runtime := by
  cases hs with
  | enterRuntime open_ => exact .entered open_
  | leaveRuntime o => exact .left o
  | _ => exact .other (by simp) (by simp)

/-! ## Visits -/

/-- A thread got a reply. -/
def Did (c : ReceiptSystem ι) (i : ι) (op : ReceiptOperation) (r : ReceiptReply op) : Prop :=
  (⟨op,r⟩ : ReceiptExchange) ∈ c.log i

theorem did_advance {op op' : ReceiptOperation} {r : ReceiptReply op} {r' : ReceiptReply op'}
    {rest : ReceiptProgram ReceiptOutcome} {w : ReceiptWorld ι} :
    Did (c.advance k op r rest w) i op' r' ↔
      (i = k ∧ (⟨op',r'⟩ : ReceiptExchange) = ⟨op,r⟩) ∨ Did c i op' r' :=
  Config.mem_log_advance c

theorem Did.advance {op op' : ReceiptOperation} {r : ReceiptReply op} {r' : ReceiptReply op'}
    (hd : Did c i op' r') (k : ι) (rest : ReceiptProgram ReceiptOutcome) (w : ReceiptWorld ι) :
    Did (c.advance k op r rest w) i op' r' := did_advance.mpr (.inr hd)

def handleVisits (c : ReceiptSystem ι) (n : ℕ) : Visits ι CompletedInvocation :=
  ⟨fun i h => Did c i (.enterHandle n) (.ok h),fun i h => Did c i (.leaveHandle n h) (.ok ())⟩

def runtimeVisits (c : ReceiptSystem ι) : Visits ι PostgresWriteSideDecisionReceiptRuntimeOwner :=
  ⟨fun i o => Did c i .enterRuntime (.ok o),fun i o => Did c i (.leaveRuntime o) (.ok ())⟩

section Advance
variable {op : ReceiptOperation} {reply : ReceiptReply op} {rest : ReceiptProgram ReceiptOutcome}
  {w : ReceiptWorld ι}

theorem handleVisits_other (he : op ≠ .enterHandle n) (hl : ∀ h, op ≠ .leaveHandle n h) :
    handleVisits (c.advance k op reply rest w) n = handleVisits c n := by
  apply Visits.ext
  · funext i h
    simp only [handleVisits, did_advance, eq_iff_iff, or_iff_right_iff_imp]
    rintro ⟨-,heq⟩
    exact (he (Sigma.mk.inj heq).1.symm).elim
  · funext i h
    simp only [handleVisits, did_advance, eq_iff_iff, or_iff_right_iff_imp]
    rintro ⟨-,heq⟩
    exact (hl h (Sigma.mk.inj heq).1.symm).elim

theorem handleVisits_entered (h : CompletedInvocation) :
    handleVisits (c.advance k (.enterHandle n) (.ok h) rest w) n = (handleVisits c n).enter k h := by
  apply Visits.ext
  · funext i h'
    simp [handleVisits, did_advance, Visits.enter]
  · funext i h'
    simp [handleVisits, did_advance, Visits.enter]

theorem handleVisits_left (h : CompletedInvocation) :
    handleVisits (c.advance k (.leaveHandle n h) (.ok ()) rest w) n = (handleVisits c n).leave k h := by
  apply Visits.ext
  · funext i h'
    simp [handleVisits, did_advance, Visits.leave]
  · funext i h'
    simp only [handleVisits, did_advance, Visits.leave, Sigma.mk.injEq,
      ReceiptOperation.leaveHandle.injEq, true_and, eq_iff_iff]
    constructor
    · rintro (⟨hi,rfl,-⟩ | hd)
      · exact .inl ⟨hi,rfl⟩
      · exact .inr hd
    · rintro (⟨hi,rfl⟩ | hd)
      · exact .inl ⟨hi,rfl,HEq.rfl⟩
      · exact .inr hd

theorem runtimeVisits_other (he : op ≠ .enterRuntime) (hl : ∀ o, op ≠ .leaveRuntime o) :
    runtimeVisits (c.advance k op reply rest w) = runtimeVisits c := by
  apply Visits.ext
  · funext i h
    simp only [runtimeVisits, did_advance, eq_iff_iff, or_iff_right_iff_imp]
    rintro ⟨-,heq⟩
    exact (he (Sigma.mk.inj heq).1.symm).elim
  · funext i h
    simp only [runtimeVisits, did_advance, eq_iff_iff, or_iff_right_iff_imp]
    rintro ⟨-,heq⟩
    exact (hl h (Sigma.mk.inj heq).1.symm).elim

theorem runtimeVisits_entered (o : PostgresWriteSideDecisionReceiptRuntimeOwner) :
    runtimeVisits (c.advance k .enterRuntime (.ok o) rest w) = (runtimeVisits c).enter k o := by
  apply Visits.ext
  · funext i h'
    simp [runtimeVisits, did_advance, Visits.enter]
  · funext i h'
    simp [runtimeVisits, did_advance, Visits.enter]

theorem runtimeVisits_left (o : PostgresWriteSideDecisionReceiptRuntimeOwner) :
    runtimeVisits (c.advance k (.leaveRuntime o) (.ok ()) rest w) = (runtimeVisits c).leave k o := by
  apply Visits.ext
  · funext i h'
    simp [runtimeVisits, did_advance, Visits.leave]
  · funext i h'
    simp only [runtimeVisits, did_advance, Visits.leave, Sigma.mk.injEq,
      ReceiptOperation.leaveRuntime.injEq, eq_iff_iff]
    constructor
    · rintro (⟨hi,rfl,-⟩ | hd)
      · exact .inl ⟨hi,rfl⟩
      · exact .inr hd
    · rintro (⟨hi,rfl⟩ | hd)
      · exact .inl ⟨hi,rfl,HEq.rfl⟩
      · exact .inr hd

end Advance

/-! ## What a call has issued -/

namespace Issues
variable {method : ReceiptMethod} {log : ReceiptLog} {h : CompletedInvocation}

theorem enterHandle (hi : Issues.receipt raises method log (.enterHandle n)) :
    method = .composeReceipt n ∧ log = [] := by
  cases method with
  | composeReceipt m =>
    cases hi with
    | enterHandle first => exact ⟨rfl,first⟩
    | receiptPath entered opened eligible path ordered => simp at path
  | _ => cases hi

theorem leaveHandle (hi : Issues.receipt raises method log (.leaveHandle n h)) :
    method = .composeReceipt n ∧ ∃ h₀, (⟨.enterHandle n,.ok h₀⟩ : ReceiptExchange) ∈ log ∧
      Below 6 log ∧ LeavesHandle raises n h₀ log h := by
  cases method with
  | composeReceipt m =>
    cases hi with
    | receiptPath entered opened eligible path ordered => simp at path
    | leaveHandle entered ordered leaves => exact ⟨rfl,_,entered,ordered,leaves⟩
  | _ => cases hi

theorem newHandle (hi : Issues.receipt raises method log (.newHandle h)) :
    ∃ a call result, method = .invoke a ∧ h = .fromRuntimeOwner result ∧
      (⟨.write call,.ok result⟩ : ReceiptExchange) ∈ log ∧ Below 2 log := by
  cases method with
  | composeReceipt m =>
    cases hi with
    | receiptPath entered opened eligible path ordered => simp at path
  | _ =>
    cases hi with
    | newHandle invokes written ordered => exact ⟨_,_,_,invokes,rfl,written,ordered⟩

theorem enterRuntime (hi : Issues.receipt raises method log .enterRuntime) : log = [] := by
  cases method with
  | composeReceipt m =>
    cases hi with
    | receiptPath entered opened eligible path ordered => simp at path
  | _ =>
    cases hi with
    | enterRuntime first => exact first

theorem leaveRuntime {o' : PostgresWriteSideDecisionReceiptRuntimeOwner}
    (hi : Issues.receipt raises method log (.leaveRuntime o')) :
    ∃ o, (⟨.enterRuntime,.ok o⟩ : ReceiptExchange) ∈ log ∧ Below 6 log ∧
      LeavesRuntime method o log o' := by
  cases method with
  | composeReceipt m =>
    cases hi with
    | receiptPath entered opened eligible path ordered => simp at path
  | _ =>
    cases hi with
    | leaveRuntime entered ordered leaves => exact ⟨_,entered,ordered,leaves⟩

/-- The receipt path is taken for a handle found empty, and only for an eligible result. -/
theorem receiptPath {op : ReceiptOperation} (hi : Issues.receipt raises method log op)
    (hop : (∃ f, op = .identityFactory f n) ∨ (∃ r u result, op = .mapResult n r u result) ∨
      ∃ receipt, op = .persist n receipt) :
    ∃ h, (⟨.enterHandle n,.ok h⟩ : ReceiptExchange) ∈ log ∧ h.cachedReceiptDelivery = none ∧
      h.persistenceEligibility.isEligible = true ∧ Below op.rank log ∧
      (∀ receipt, op = .persist n receipt → Mapped n h log receipt) ∧
      ∀ r u result, op = .mapResult n r u result → result = h.businessResult := by
  cases method with
  | composeReceipt m =>
    cases hi with
    | @receiptPath h _ entered opened eligible path ordered =>
      rcases hop with ⟨f,rfl⟩ | ⟨r,u,result,rfl⟩ | ⟨receipt,rfl⟩
      · obtain ⟨k,hk⟩ | ⟨r,u,hk⟩ | ⟨receipt,-,hk⟩ := path
        · obtain ⟨rfl,rfl⟩ := ReceiptOperation.identityFactory.inj hk
          exact ⟨h,entered,opened,eligible,ordered,by simp,by simp⟩
        · cases hk
        · cases hk
      · obtain ⟨k,hk⟩ | ⟨r,u,hk⟩ | ⟨receipt,-,hk⟩ := path
        · cases hk
        · obtain ⟨rfl,rfl,rfl,rfl⟩ := ReceiptOperation.mapResult.inj hk
          exact ⟨h,entered,opened,eligible,ordered,by simp,by simp⟩
        · cases hk
      · obtain ⟨k,hk⟩ | ⟨r,u,hk⟩ | ⟨receipt,hm,hk⟩ := path
        · cases hk
        · cases hk
        · obtain ⟨rfl,rfl⟩ := ReceiptOperation.persist.inj hk
          refine ⟨h,entered,opened,eligible,ordered,fun receipt' hr => ?_,by simp⟩
          obtain ⟨-,rfl⟩ := ReceiptOperation.persist.inj hr
          exact hm
    | _ => simp at hop
  | _ => cases hi <;> simp at hop

end Issues
/-! ## What holds of a handle -/

/-- A handle keeps its result through every visit; once filled by a caught composition it
keeps its delivery. -/
structure HandleKept (raises : BaseException → Prop) (c : ReceiptSystem ι) (n : ℕ)
    (m : Monitor ι CompletedInvocation) : Prop where
  visits : (handleVisits c n).Kept m
  result : (handleVisits c n).Past (fun h h' => h'.businessResult = h.businessResult) m
  about : ∀ d, m.value.cachedReceiptDelivery = some d →
    d.value.businessResult = m.value.businessResult
  built : ∃ i h, Did c i (.newHandle h) (.ok n) ∧ h.businessResult = m.value.businessResult ∧
    ∀ j h', Did c j (.newHandle h') (.ok n) → j = i ∧ h' = h
  mapped : ∀ d receipt, m.value.materializationOwner.cachedDelivery = some d →
    d.receipt = some receipt → ∃ i receiptId outcomeId,
      Did c i (.mapResult n receiptId outcomeId m.value.businessResult) (.ok receipt)
  once : (∀ e, raises e → e.isException = true) →
    (handleVisits c n).Once CompletedInvocation.cachedReceiptDelivery m

def HandleInvariant (raises : BaseException → Prop) (c : ReceiptSystem ι) (n : ℕ) :
    Option (Monitor ι CompletedInvocation) → Prop
  | none => handleVisits c n = .none ∧ ∀ i h, ¬Did c i (.newHandle h) (.ok n)
  | some m => HandleKept raises c n m

namespace ReceiptReachable

theorem meets (h : ReceiptReachable raises o calls c) (i : ι) :
    ∀ p, c.program i = some p →
      p.Meets (receiptContract raises (calls i)) (ReceiptPost raises (calls i)) (c.log i) := by
  refine Reaches.meets (fun c _ op next _ _ reply w hs => ReceiptStep.replies hs) (fun p hp => ?_) h
  obtain rfl : (calls i).program = p := Option.some.inj hp
  exact ReceiptMethod.program_meets raises (calls i)

/-- A call issues what its log allows. -/
theorem issues (h : ReceiptReachable raises o calls c) {op : ReceiptOperation}
    {next : ReceiptReply op → ReceiptProgram ReceiptOutcome} (hp : c.program i = some (.call op next)) :
    Issues.receipt raises (calls i) (c.log i) op := (h.meets i _ hp).1

/-- A call that returned left what its outcome says. -/
theorem returned (h : ReceiptReachable raises o calls c) {out : ReceiptOutcome}
    (hp : c.program i = some (.done out)) : ReceiptPost raises (calls i) (c.log i) out :=
  h.meets i _ hp

end ReceiptReachable

section Step
variable {op : ReceiptOperation} {next : ReceiptReply op → ReceiptProgram ReceiptOutcome}
  {reply : ReceiptReply op} {w : ReceiptWorld ι} {m : Monitor ι CompletedInvocation}

theorem HandleKept.other (hk : HandleKept raises c n m) (he : op ≠ .enterHandle n)
    (hl : ∀ h, op ≠ .leaveHandle n h)
    (hn : ∀ h, (⟨op,reply⟩ : ReceiptExchange) ≠ ⟨.newHandle h,.ok n⟩) :
    HandleKept raises (c.advance k op reply (next reply) w) n m := by
  have hv : handleVisits (c.advance k op reply (next reply) w) n = handleVisits c n :=
    handleVisits_other he hl
  obtain ⟨i,h,hbuilt,hresult,honly⟩ := hk.built
  refine ⟨hv ▸ hk.visits,hv ▸ hk.result,hk.about,⟨i,h,hbuilt.advance k _ w,hresult,?_⟩,?_,?_⟩
  · intro j h' hd
    rcases did_advance.mp hd with ⟨-,heq⟩ | hd
    · exact (hn h' heq.symm).elim
    · exact honly j h' hd
  · intro d receipt hd hr
    obtain ⟨i,r,u,hmap⟩ := hk.mapped d receipt hd hr
    exact ⟨i,r,u,hmap.advance k _ w⟩
  · intro hcaught
    exact hv ▸ hk.once hcaught

theorem HandleKept.entered (hk : HandleKept raises c n m) (open_ : m.holder = none)
    (hlog : c.log k = []) (rest : ReceiptProgram ReceiptOutcome) :
    HandleKept raises (c.advance k (.enterHandle n) (.ok m.value) rest w) n (m.enter k) := by
  have hv : handleVisits (c.advance k (.enterHandle n) (.ok m.value) rest w) n =
      (handleVisits c n).enter k m.value := handleVisits_entered m.value
  have hnone (op : ReceiptOperation) (r : ReceiptReply op) : ¬Did c k op r := by simp [Did, hlog]
  obtain ⟨i,h,hbuilt,hresult,honly⟩ := hk.built
  refine ⟨hv ▸ hk.visits.enter open_ (fun a => hnone _ _) (fun a => hnone _ _),
    hv ▸ hk.result.enter (fun _ => rfl),hk.about,⟨i,h,hbuilt.advance k _ w,hresult,?_⟩,?_,?_⟩
  · intro j h' hd
    rcases did_advance.mp hd with ⟨-,heq⟩ | hd
    · cases heq
    · exact honly j h' hd
  · intro d receipt hd hr
    obtain ⟨i,r,u,hmap⟩ := hk.mapped d receipt hd hr
    exact ⟨i,r,u,hmap.advance k _ w⟩
  · intro hcaught
    exact hv ▸ (hk.once hcaught).enter open_

theorem HandleKept.left {h h' : CompletedInvocation} (hk : HandleKept raises c n m)
    (hentered : Did c k (.enterHandle n) (.ok h)) (hordered : Below 6 (c.log k))
    (hleaves : LeavesHandle raises n h (c.log k) h') (rest : ReceiptProgram ReceiptOutcome) :
    HandleKept raises (c.advance k (.leaveHandle n h') (.ok ()) rest w) n (.free h') := by
  have hv : handleVisits (c.advance k (.leaveHandle n h') (.ok ()) rest w) n =
      (handleVisits c n).leave k h' := handleVisits_left h'
  have hinside : (handleVisits c n).Inside k :=
    ⟨⟨h,hentered⟩,fun h' => hordered.not_mem
      (show 6 ≤ (ReceiptOperation.leaveHandle n h').rank from Nat.le_refl 6) (.ok ())⟩
  obtain rfl : m.value = h := hk.visits.held k h ((hk.visits.holder k).mpr hinside) hentered
  obtain ⟨i,h₀,hbuilt,hresult,honly⟩ := hk.built
  refine ⟨hv ▸ hk.visits.leave hinside h',hv ▸ hk.result.leave (fun _ => rfl)
    (fun hab hbc => hbc.trans hab) hleaves.result,?_,⟨i,h₀,hbuilt.advance k _ w,
      hresult.trans hleaves.result.symm,?_⟩,?_,?_⟩
  · intro d hd
    cases hcached : m.value.cachedReceiptDelivery with
    | none => exact (hleaves.about hcached d hd).trans hleaves.result.symm
    | some d' =>
      obtain rfl : h' = m.value := hleaves.cached (by rw [hcached]; rfl)
      exact hk.about d hd
  · intro j h₁ hd
    rcases did_advance.mp hd with ⟨-,heq⟩ | hd
    · cases heq
    · exact honly j h₁ hd
  · intro d receipt hd hr
    rw [Monitor.free_value, hleaves.result]
    rcases hleaves.mapped d receipt hd hr with ⟨r,u,hmap⟩ | ⟨d',hd',hr'⟩
    · exact ⟨k,r,u,Did.advance hmap k _ w⟩
    · obtain ⟨i,r,u,hmap⟩ := hk.mapped d' receipt hd' hr'
      exact ⟨i,r,u,hmap.advance k _ w⟩
  · intro hcaught
    exact hv ▸ (hk.once hcaught).leave (hleaves.published hcaught)
      (fun hsome => by rw [hleaves.cached hsome])

theorem HandleKept.new (hv : handleVisits c n = .none)
    (hnone : ∀ i h, ¬Did c i (.newHandle h) (.ok n)) (result : PyObject PostgresWriteSideResult)
    (rest : ReceiptProgram ReceiptOutcome) : HandleKept raises
      (c.advance k (.newHandle (.fromRuntimeOwner result)) (.ok n) rest w) n
      (.free (.fromRuntimeOwner result)) := by
  have hv' : handleVisits (c.advance k (.newHandle (.fromRuntimeOwner result)) (.ok n) rest w) n =
      .none := (handleVisits_other (by simp) (by simp)).trans hv
  refine ⟨hv' ▸ Visits.Kept.free _,hv' ▸ Visits.Past.free _,fun d hd => (nomatch hd),
    ⟨k,_,did_advance.mpr (.inl ⟨rfl,rfl⟩),rfl,?_⟩,fun d receipt hd => (nomatch hd),
    fun _ => hv' ▸ Visits.Once.free _⟩
  intro j h hd
  rcases did_advance.mp hd with ⟨hj,heq⟩ | hd
  · exact ⟨hj,ReceiptOperation.newHandle.inj (Sigma.mk.inj heq).1⟩
  · exact (hnone j h hd).elim

end Step

theorem HandleInvariant.drop {m : Option (Monitor ι CompletedInvocation)}
    (hi : HandleInvariant raises c n m) (k : ι) (w : ReceiptWorld ι) :
    HandleInvariant raises (c.drop k w) n m := by
  cases m with
  | none => exact hi
  | some m => exact ⟨hi.visits,hi.result,hi.about,hi.built,hi.mapped,hi.once⟩

namespace ReceiptReachable

theorem handle (h : ReceiptReachable raises o calls c) (n : ℕ) :
    HandleInvariant raises c n c.world.handles[n]? := by
  refine Reaches.invariant (fun c => HandleInvariant raises c n c.world.handles[n]?) ?_ ?_ h
  · have hnone (i : ι) (op : ReceiptOperation) (r : ReceiptReply op) :
        ¬Did (ReceiptSystem.start o calls) i op r := List.not_mem_nil
    change HandleInvariant raises _ n none
    refine ⟨Visits.ext ?_ ?_,fun i h => hnone i _ _⟩
    · funext i h
      exact eq_false (hnone i _ _)
    · funext i h
      exact eq_false (hnone i _ _)
  intro c c' hr hi hs
  cases hs with
  | abandon running => exact hi.drop _ _
  | @call k op next reply w running executes =>
    have hissues := ReceiptReachable.issues hr running
    have heffect := ReceiptStep.handle executes n
    rw [Config.advance_world]
    generalize w.handles[n]? = m' at heffect
    generalize c.world.handles[n]? = m at heffect hi
    cases heffect with
    | other enter leave new =>
      cases m' with
      | none =>
        refine ⟨(handleVisits_other enter leave).trans hi.1,fun i h hd => ?_⟩
        rcases did_advance.mp hd with ⟨-,heq⟩ | hd
        · exact new h heq.symm
        · exact hi.2 i h hd
      | some m => exact hi.other enter leave new
    | entered open_ => exact HandleKept.entered hi open_ (Issues.enterHandle hissues).2 _
    | left h =>
      obtain ⟨-,h₀,hentered,hordered,hleaves⟩ := Issues.leaveHandle hissues
      cases m with
      | none =>
        have hno : ¬(handleVisits c n).entered k h₀ := by
          rw [hi.1]
          exact fun hf => hf
        exact (hno hentered).elim
      | some m => exact HandleKept.left hi hentered hordered hleaves _
    | built h =>
      obtain ⟨a,call,result,-,rfl,-,-⟩ := Issues.newHandle hissues
      exact HandleKept.new hi.1 hi.2 result _

theorem kept (h : ReceiptReachable raises o calls c) {m : Monitor ι CompletedInvocation}
    (hm : c.world.handles[n]? = some m) : HandleKept raises c n m := by
  have hn := h.handle n
  rw [hm] at hn
  exact hn

theorem exists_handle (h : ReceiptReachable raises o calls c)
    (hd : (∃ h, Did c i (.enterHandle n) (.ok h)) ∨ (∃ h, Did c i (.leaveHandle n h) (.ok ())) ∨
      ∃ h, Did c i (.newHandle h) (.ok n)) : ∃ m, c.world.handles[n]? = some m := by
  have hn := h.handle n
  cases hm : c.world.handles[n]? with
  | some m => exact ⟨m,rfl⟩
  | none =>
    rw [hm] at hn
    obtain ⟨hv,hb⟩ := hn
    have hno (a : CompletedInvocation) :
        ¬(handleVisits c n).entered i a ∧ ¬(handleVisits c n).left i a := by
      rw [hv]
      exact ⟨fun hf => hf,fun hf => hf⟩
    rcases hd with ⟨a,ha⟩ | ⟨a,ha⟩ | ⟨a,ha⟩
    · exact ((hno a).1 ha).elim
    · exact ((hno a).2 ha).elim
    · exact (hb i a ha).elim

/-- What was done earlier was issued then, and is still in the log. -/
theorem issued (h : ReceiptReachable raises o calls c) {op : ReceiptOperation} {r : ReceiptReply op}
    (hd : Did c i op r) : ∃ earlier, Issues.receipt raises (calls i) earlier op ∧
      earlier ⊆ c.log i := by
  obtain ⟨c₁,next,w,hp,hlog⟩ := Reaches.performed_of_mem h rfl hd
  exact ⟨c₁.log i,issues hp.before hp.running,fun x hx => hlog.subset (List.mem_cons_of_mem _ hx)⟩

/-- The thread on the receipt path of a handle found it empty and eligible. -/
theorem opened (h : ReceiptReachable raises o calls c) {op : ReceiptOperation} {r : ReceiptReply op}
    (hd : Did c i op r) (hop : (∃ f, op = .identityFactory f n) ∨
      (∃ r u result, op = .mapResult n r u result) ∨ ∃ receipt, op = .persist n receipt) :
    ∃ h, Did c i (.enterHandle n) (.ok h) ∧ h.cachedReceiptDelivery = none ∧
      h.persistenceEligibility.isEligible = true := by
  obtain ⟨earlier,hissues,hsub⟩ := h.issued hd
  obtain ⟨h,hentered,hopened,heligible,-⟩ := Issues.receiptPath hissues hop
  exact ⟨h,hsub hentered,hopened,heligible⟩

/-- The receipt path of a handle is taken once. -/
theorem once (hcaught : ∀ e, raises e → e.isException = true) (p : ReceiptOperation → Bool) {r : ℕ}
    (hop : ∀ op, p op = true → op.rank = r ∧ ((∃ f, op = .identityFactory f n) ∨
      (∃ r u result, op = .mapResult n r u result) ∨ ∃ receipt, op = .persist n receipt))
    (h : ReceiptReachable raises o calls c) : c.trace.countP (fun e => p e.op) ≤ 1 := by
  refine Reaches.invariant (fun c => c.trace.countP (fun e => p e.op) ≤ 1)
    (by simp [ReceiptSystem.start]) ?_ h
  intro c c' hr hi hs
  cases hs with
  | abandon running => exact hi
  | @call k op next reply w running executes =>
    rw [Config.advance_trace, List.countP_cons]
    cases hp : p op with
    | false => simpa [hp] using hi
    | true =>
      obtain ⟨hrank,hpath⟩ := hop op hp
      obtain ⟨h,hentered,hopened,-,hordered,-⟩ :=
        Issues.receiptPath (ReceiptReachable.issues hr running) hpath
      have hnone : c.trace.countP (fun e => p e.op) = 0 := by
        refine List.countP_eq_zero.mpr (fun e he hpe => ?_)
        have hd : Did c e.thread e.op e.reply := mem_ownLog.mpr ⟨e,he,rfl,rfl⟩
        obtain ⟨hrank',hpath'⟩ := hop e.op hpe
        obtain ⟨h',hentered',hopened',-⟩ := ReceiptReachable.opened hr hd hpath'
        obtain ⟨m,hm⟩ := ReceiptReachable.exists_handle hr (.inl ⟨h,hentered⟩)
        have hthread := ((ReceiptReachable.kept hr hm).once hcaught).unique _ _ h' h hentered'
          hopened' hentered hopened
        have hlt : e.op.rank < op.rank := hordered _ (hthread ▸ hd)
        omega
      simp [hnone]

end ReceiptReachable

/-! ## What holds of the runtime owner -/

/-- Completions are only added, each by the invocation that built its handle. -/
structure RuntimeKept (calls : ι → ReceiptMethod) (c : ReceiptSystem ι) : Prop where
  visits : (runtimeVisits c).Kept c.world.runtime
  past : (runtimeVisits c).Past
    (fun o o' => ∀ a n, o.completion a = some n → o'.completion a = some n) c.world.runtime
  built : ∀ a n, c.world.runtime.value.completion a = some n →
    ∃ i h, calls i = .invoke a ∧ Did c i (.newHandle h) (.ok n)

theorem ReceiptReachable.runtime {signature : RequestSignature}
    {hd : ∃ amount, signature.amount = .decimal amount}
    (h : ReceiptReachable raises (.new signature hd) calls c) : RuntimeKept calls c := by
  refine Reaches.invariant (RuntimeKept calls) ?_ ?_ h
  · have hv : runtimeVisits (ReceiptSystem.start (.new signature hd) calls) = .none := by
      apply Visits.ext
      · funext i h
        exact eq_false List.not_mem_nil
      · funext i h
        exact eq_false List.not_mem_nil
    refine ⟨hv ▸ Visits.Kept.free _,hv ▸ Visits.Past.free _,fun a n hn => ?_⟩
    cases a <;> cases hn
  · intro c c' hr hi hs
    cases hs with
    | abandon running => exact ⟨hi.visits,hi.past,hi.built⟩
    | @call k op next reply w running executes =>
      have hissues := ReceiptReachable.issues hr running
      have heffect := ReceiptStep.runtime executes
      have hbuilt (a : Attempt) (n : ℕ) (hn : c.world.runtime.value.completion a = some n) :
          ∃ i h, calls i = .invoke a ∧
            Did (c.advance k op reply (next reply) w) i (.newHandle h) (.ok n) := by
        obtain ⟨i,h,hcall,hd⟩ := hi.built a n hn
        exact ⟨i,h,hcall,hd.advance k _ w⟩
      generalize hm : w.runtime = m' at heffect
      generalize hold : c.world.runtime = m at heffect
      cases heffect with
      | other enter leave =>
        have hv : runtimeVisits (c.advance k op reply (next reply) w) = runtimeVisits c :=
          runtimeVisits_other enter leave
        refine ⟨?_,?_,?_⟩ <;> rw [Config.advance_world, hm, ← hold]
        · exact hv ▸ hi.visits
        · exact hv ▸ hi.past
        · exact hbuilt
      | entered open_ =>
        have hlog := Issues.enterRuntime hissues
        have hv : runtimeVisits (c.advance k .enterRuntime (.ok m.value) (next (.ok m.value)) w) =
            (runtimeVisits c).enter k m.value := runtimeVisits_entered m.value
        have hnone (op : ReceiptOperation) (r : ReceiptReply op) : ¬Did c k op r := by simp [Did, hlog]
        refine ⟨?_,?_,?_⟩ <;> rw [Config.advance_world, hm, ← hold] <;> rw [← hold] at hv open_
        · exact hv ▸ hi.visits.enter open_ (fun _ => hnone _ _) (fun _ => hnone _ _)
        · exact hv ▸ hi.past.enter (fun _ _ _ hn => hn)
        · intro a n hn
          obtain ⟨i,h,hcall,hd⟩ := hi.built a n hn
          exact ⟨i,h,hcall,hd.advance k _ w⟩
      | left o' =>
        obtain ⟨o₀,hentered,hordered,hleaves⟩ := Issues.leaveRuntime hissues
        have hv : runtimeVisits (c.advance k (.leaveRuntime o') (.ok ()) (next (.ok ())) w) =
            (runtimeVisits c).leave k o' := runtimeVisits_left o'
        have hinside : (runtimeVisits c).Inside k := ⟨⟨o₀,hentered⟩,fun o' => hordered.not_mem
          (show 6 ≤ (ReceiptOperation.leaveRuntime o').rank from Nat.le_refl 6) (.ok ())⟩
        have hvalue := hi.visits.held k o₀ ((hi.visits.holder k).mpr hinside) hentered
        rw [← hvalue] at hleaves
        refine ⟨?_,?_,?_⟩ <;> rw [Config.advance_world, hm]
        · exact hv ▸ hi.visits.leave hinside o'
        · exact hv ▸ hi.past.leave (fun _ _ _ hn => hn) (fun hab hbc a n hn => hbc a n (hab a n hn))
            hleaves.kept
        · intro a n hn
          rcases hleaves.built a n hn with hold | ⟨hcall,h,hbuilt⟩
          · obtain ⟨i,h,hcall,hd⟩ := hi.built a n hold
            exact ⟨i,h,hcall,hd.advance k _ w⟩
          · exact ⟨k,h,hcall,Did.advance hbuilt k _ w⟩

/-! ## Progress -/

instance : Inhabited DecisionReceipt where
  default :=
    { receiptId := 0
      outcomeId := 0
      ok := true
      boundary := .runtimeGovernance
      category := .valid
      semanticCode := .semanticallyValid
      severity := .info
      riskLevel := .low
      reversibility := .reversible
      reason := "valid"
      evidenceSource := .unknown
      subject := ⟨.unknown,none,nonEmpty_none⟩
      correlation :=
        ⟨none,none,none,none,none,none,.unknown,nonEmpty_none,nonEmpty_none,nonNegative_none⟩
      admissionEvidence := none
      evidenceSummary := []
      reasoned := by decide
      aligned := fun _ h => nomatch h }

def Finishes (raises : BaseException → Prop) (c : ReceiptSystem ι) (k : ι) : Prop :=
  ∃ c' out, Reaches (receiptMachine ι raises) c c' ∧ c'.program k = some (.done out)

namespace ReceiptReachable

theorem inside_steps (h : ReceiptReachable raises o calls c) {h₀ : CompletedInvocation}
    (hentered : Did c i (.enterHandle n) (.ok h₀)) {op : ReceiptOperation}
    {next : ReceiptReply op → ReceiptProgram ReceiptOutcome} (hp : c.program i = some (.call op next)) :
    ∃ reply w, ReceiptStep raises i c.world op reply w := by
  have hissues := h.issues hp
  have hcall : calls i = .composeReceipt n := by
    obtain ⟨earlier,hearlier,-⟩ := h.issued hentered
    exact (Issues.enterHandle hearlier).1
  rw [hcall] at hissues
  cases hissues with
  | enterHandle first =>
    rw [Did, first] at hentered
    cases hentered
  | receiptPath entered opened eligible path ordered =>
    rcases path with ⟨f,rfl⟩ | ⟨r,u,rfl⟩ | ⟨receipt,-,rfl⟩
    · exact ⟨.ok none,_,.identityFactory f n (.ok none) (fun e he => (nomatch he))⟩
    · exact ⟨.ok default,_,.mapResult n r u _ (.ok default) (fun e he => (nomatch he))⟩
    · exact ⟨.ok (.acknowledged receipt),_,.persist n receipt (.ok (.acknowledged receipt))
        (fun e he => (nomatch he))⟩
  | newObject entered ordered => exact ⟨.ok 0,_,.newObject 0⟩
  | leaveHandle entered ordered leaves => exact ⟨.ok (),_,.leaveHandle n _⟩

/-- A thread inside a handle can leave it, and nobody else moves meanwhile. -/
theorem leaves (h : ReceiptReachable raises o calls c) {h₀ : CompletedInvocation}
    (hentered : Did c i (.enterHandle n) (.ok h₀)) {p : ReceiptProgram ReceiptOutcome}
    (hp : c.program i = some p) : ∃ c' out, Reaches (receiptMachine ι raises) c c' ∧
      c'.program i = some (.done out) ∧ Did c' i (.enterHandle n) (.ok h₀) ∧
      ∀ j ≠ i, c'.log j = c.log j ∧ c'.program j = c.program j := by
  have hstep (c₁ : ReceiptSystem ι) (op : ReceiptOperation)
      (next : ReceiptReply op → ReceiptProgram ReceiptOutcome) (hr : ReceiptReachable raises o calls c₁)
      (hS : Did c₁ i (.enterHandle n) (.ok h₀) ∧
        ∀ j ≠ i, c₁.log j = c.log j ∧ c₁.program j = c.program j)
      (hp₁ : c₁.program i = some (.call op next)) : ∃ reply w,
        (receiptMachine ι raises).step i c₁.world op reply w ∧
          Did (c₁.advance i op reply (next reply) w) i (.enterHandle n) (.ok h₀) ∧
          ∀ j ≠ i, (c₁.advance i op reply (next reply) w).log j = c.log j ∧
            (c₁.advance i op reply (next reply) w).program j = c.program j := by
    obtain ⟨reply,w,hw⟩ := inside_steps hr hS.1 hp₁
    refine ⟨reply,w,hw,hS.1.advance i _ w,fun j hj => ?_⟩
    rw [Config.advance_log_ne _ hj, Config.advance_program_ne _ hj]
    exact hS.2 j hj
  obtain ⟨c',out,hr,⟨hentered',hothers⟩,hd⟩ :=
    Reaches.finishes_while _ hstep h ⟨hentered,fun _ _ => ⟨rfl,rfl⟩⟩ hp
  exact ⟨c',out,hr,hd,hentered',hothers⟩

/-- The thread inside a handle is its holder, and a call on that handle. -/
theorem holder (h : ReceiptReachable raises o calls c) {m : Monitor ι CompletedInvocation}
    (hm : c.world.handles[n]? = some m) (hi : m.holder = some i) :
    ∃ h₀, Did c i (.enterHandle n) (.ok h₀) := (((h.kept hm).visits.holder i).mp hi).1

/-- A call on a handle finishes, if whoever is inside has not been given up. -/
theorem composes (h : ReceiptReachable raises o calls c) (hcall : calls k = .composeReceipt n)
    {m : Monitor ι CompletedInvocation} (hm : c.world.handles[n]? = some m)
    (halive : ∀ i, m.holder = some i → (c.program i).isSome)
    {p : ReceiptProgram ReceiptOutcome} (hp : c.program k = some p) :
    Finishes raises c k := by
  -- from the moment the call is inside
  have hinside {c₁ : ReceiptSystem ι} (h₁ : ReceiptReachable raises o calls c₁) {h₀ : CompletedInvocation}
      (hentered : Did c₁ k (.enterHandle n) (.ok h₀)) {p : ReceiptProgram ReceiptOutcome}
      (hp : c₁.program k = some p) :
      Finishes raises c₁ k := by
    obtain ⟨c',out,hr,hd,-⟩ := h₁.leaves hentered hp
    exact ⟨c',out,hr,hd⟩
  -- from the moment nobody is
  have hfree {c₁ : ReceiptSystem ι} (h₁ : ReceiptReachable raises o calls c₁)
      {m : Monitor ι CompletedInvocation} (hm : c₁.world.handles[n]? = some m) (hopen : m.holder = none)
      {next : ReceiptReply (.enterHandle n) → ReceiptProgram ReceiptOutcome}
      (hp : c₁.program k = some (.call (.enterHandle n) next)) :
      Finishes raises c₁ k := by
    have hs : Step (receiptMachine ι raises) c₁ _ := .call hp (ReceiptStep.enterHandle hm hopen)
    obtain ⟨c',out,hr,hd⟩ := hinside (h₁.tail hs) (did_advance.mpr (.inl ⟨rfl,rfl⟩))
      (Config.advance_program_self ..)
    exact ⟨c',out,.head hs hr,hd⟩
  cases p with
  | done out => exact ⟨c,out,.refl,hp⟩
  | call op next =>
    have hissues := h.issues hp
    rw [hcall] at hissues
    cases hissues with
    | receiptPath entered opened eligible path ordered => exact hinside h entered hp
    | newObject entered ordered => exact hinside h entered hp
    | leaveHandle entered ordered leaves => exact hinside h entered hp
    | enterHandle first =>
      cases hholder : m.holder with
      | none => exact hfree h hm hholder hp
      | some i =>
        obtain ⟨h₀,hentered⟩ := h.holder hm hholder
        have hik : k ≠ i := by
          rintro rfl
          rw [Did, first] at hentered
          cases hentered
        obtain ⟨pᵢ,hpᵢ⟩ := Option.isSome_iff_exists.mp (halive i hholder)
        obtain ⟨c₁,out,hr,hd,hentered₁,hothers⟩ := h.leaves hentered hpᵢ
        have h₁ : ReceiptReachable raises o calls c₁ := h.trans hr
        obtain ⟨m₁,hm₁⟩ := h₁.exists_handle (.inl ⟨h₀,hentered₁⟩)
        have hopen : m₁.holder = none := by
          cases hj : m₁.holder with
          | none => rfl
          | some j =>
            have hinside₁ := ((h₁.kept hm₁).visits.holder j).mp hj
            by_cases hji : j = i
            · subst hji
              obtain ⟨earlier,hearlier,-⟩ := h₁.issued hentered₁
              have hpost := h₁.returned hd
              rw [(Issues.enterHandle hearlier).1] at hpost
              obtain ⟨h',r,hleft,-⟩ := hpost
              exact (hinside₁.2 h' hleft).elim
            · have hjlog := (hothers j hji).1
              have : (handleVisits c n).Inside j := by
                simpa [Visits.Inside, handleVisits, Did, hjlog] using hinside₁
              have hj' := ((h.kept hm).visits.holder j).mpr this
              rw [hholder] at hj'
              exact (hji (Option.some.inj hj').symm).elim
        obtain ⟨c',out',hr',hd'⟩ := hfree h₁ hm₁ hopen ((hothers k hik).2.trans hp)
        exact ⟨c',out',hr.trans hr',hd'⟩

end ReceiptReachable
/-! ## Custody -/

/-- The operation hands a receipt of handle `n` to persistence. -/
def ReceiptOperation.persists (n : ℕ) : ReceiptOperation → Bool
  | .persist m _ => m == n
  | _ => false

/-- The operation allocates an identity for handle `n`. -/
def ReceiptOperation.allocates (f : IdentityFactory) (n : ℕ) : ReceiptOperation → Bool
  | .identityFactory g m => g == f && m == n
  | _ => false

def Returned (c : ReceiptSystem ι) (i : ι) (out : ReceiptOutcome) : Prop :=
  c.program i = some (.done out)

/-- What the runtime owner and its handles promise in every state of every run. -/
structure ReceiptCustody (raises : BaseException → Prop) (calls : ι → ReceiptMethod)
    (c : ReceiptSystem ι) : Prop where
  handedOnce : ∀ n, c.trace.countP (fun e => e.op.persists n) ≤ 1
  allocatedOnce : ∀ f n, c.trace.countP (fun e => e.op.allocates f n) ≤ 1
  onlyEligible : ∀ n m i receipt r, c.world.handles[n]? = some m → Did c i (.persist n receipt) r →
    (evaluatePersistenceEligibility m.value.businessResult.value).isEligible = true
  oneDelivery : ∀ n i j out out', calls i = .composeReceipt n → calls j = .composeReceipt n →
    Returned c i out → Returned c j out' → ∃ d, out = .receipt (.ok d) ∧ out' = .receipt (.ok d)
  deliveredResult : ∀ n i d, calls i = .composeReceipt n → Returned c i (.receipt (.ok d)) →
    ∃ m, c.world.handles[n]? = some m ∧ d.value.businessResult = m.value.businessResult
  ownResult : ∀ n m, c.world.handles[n]? = some m → ∃ i a call, calls i = .invoke a ∧
    Did c i (.write call) (.ok m.value.businessResult) ∧
    Did c i (.newHandle (.fromRuntimeOwner m.value.businessResult)) (.ok n)
  ownHandle : ∀ i a n, calls i = .invoke a → Returned c i (.completion (.ok n)) →
    c.world.runtime.value.completion a = some n ∧ ∃ m call, c.world.handles[n]? = some m ∧
      Did c i (.write call) (.ok m.value.businessResult)
  oneHandle : ∀ i k a n n', calls i = .invoke a → Returned c i (.completion (.ok n)) →
    calls k = .completion a → Returned c k (.completion (.ok n')) → n' = n
  twoHandles : ∀ i j n n', calls i = .invoke .initial → Returned c i (.completion (.ok n)) →
    calls j = .invoke .reinvocation → Returned c j (.completion (.ok n')) → n ≠ n'
  answers : ∀ n m k p, c.world.handles[n]? = some m → calls k = .composeReceipt n →
    c.program k = some p → (∀ i, m.holder = some i → (c.program i).isSome) → Finishes raises c k

namespace ReceiptReachable

/-- The handle an invocation built carries what its writer returned. -/
theorem built (h : ReceiptReachable raises o calls c) {h₀ : CompletedInvocation}
    (hd : Did c i (.newHandle h₀) (.ok n)) : ∃ m a call, c.world.handles[n]? = some m ∧
      calls i = .invoke a ∧ Did c i (.write call) (.ok m.value.businessResult) ∧
      h₀ = .fromRuntimeOwner m.value.businessResult := by
  obtain ⟨m,hm⟩ := h.exists_handle (.inr (.inr ⟨h₀,hd⟩))
  obtain ⟨j,h₁,-,hresult,honly⟩ := (h.kept hm).built
  obtain ⟨-,rfl⟩ := honly i h₀ hd
  obtain ⟨earlier,hissues,hsub⟩ := h.issued hd
  obtain ⟨a,call,result,hcall,rfl,hwritten,-⟩ := Issues.newHandle hissues
  obtain rfl : result = m.value.businessResult := hresult
  exact ⟨m,a,call,hm,hcall,hsub hwritten,rfl⟩

/-- A composition that returned left its delivery in the handle. -/
theorem composed (h : ReceiptReachable raises o calls c)
    (hcaught : ∀ e, raises e → e.isException = true) (hcall : calls i = .composeReceipt n)
    {out : ReceiptOutcome} (hout : Returned c i out) : ∃ m d, c.world.handles[n]? = some m ∧
      m.value.cachedReceiptDelivery = some d ∧ out = .receipt (.ok d) := by
  have hpost := h.returned hout
  rw [hcall] at hpost
  obtain ⟨h',r,hleft,rfl,hkept,hok⟩ := hpost
  obtain ⟨d,rfl⟩ := hok hcaught
  obtain ⟨m,hm⟩ := h.exists_handle (.inr (.inl ⟨h',hleft⟩))
  refine ⟨m,d,hm,?_,rfl⟩
  rw [← (((h.kept hm).once hcaught).filled i h' hleft).2]
  exact hkept d rfl

/-- An invocation that returned built its handle, and the runtime owner retains it. -/
theorem completed {signature : RequestSignature} {hs : ∃ amount, signature.amount = .decimal amount}
    (h : ReceiptReachable raises (.new signature hs) calls c) {a : Attempt}
    (hcall : calls i = .invoke a) (hout : Returned c i (.completion (.ok n))) :
    c.world.runtime.value.completion a = some n ∧ ∃ h₀, Did c i (.newHandle h₀) (.ok n) := by
  have hpost := h.returned hout
  rw [hcall] at hpost
  obtain ⟨r,hr,hpost⟩ := hpost
  obtain rfl := ReceiptOutcome.completion.inj hr
  obtain ⟨o',h₀,hleft,hretained,hbuilt⟩ := hpost n rfl
  exact ⟨h.runtime.past.left i o' hleft a n hretained,h₀,hbuilt⟩

/-- Custody holds in every state when the receipt path raises only what `except Exception`
catches. -/
theorem receipt_custody {signature : RequestSignature}
    {hs : ∃ amount, signature.amount = .decimal amount}
    (hcaught : ∀ e, raises e → e.isException = true)
    (h : ReceiptReachable raises (.new signature hs) calls c) : ReceiptCustody raises calls c where
  handedOnce n := by
    refine h.once hcaught (n := n) (r := 4) (ReceiptOperation.persists n) (fun op hop => ?_)
    cases op with
    | persist m receipt =>
      obtain rfl : m = n := beq_iff_eq.mp hop
      exact ⟨rfl,.inr (.inr ⟨receipt,rfl⟩)⟩
    | _ => cases hop
  allocatedOnce f n := by
    refine h.once hcaught (n := n) (r := (ReceiptOperation.identityFactory f n).rank)
      (ReceiptOperation.allocates f n) (fun op hop => ?_)
    cases op with
    | identityFactory g m =>
      simp only [ReceiptOperation.allocates, Bool.and_eq_true, beq_iff_eq] at hop
      obtain ⟨rfl,rfl⟩ := hop
      exact ⟨by cases g <;> rfl,.inl ⟨g,rfl⟩⟩
    | _ => cases hop
  onlyEligible n m i receipt r hm hd := by
    obtain ⟨h₀,hentered,-,heligible⟩ := h.opened hd (.inr (.inr ⟨receipt,rfl⟩))
    rw [(h.kept hm).result.entered i h₀ hentered, ← h₀.evaluated]
    exact heligible
  oneDelivery n i j out out' hi hj hout hout' := by
    obtain ⟨m,d,hm,hd,rfl⟩ := h.composed hcaught hi hout
    obtain ⟨m',d',hm',hd',rfl⟩ := h.composed hcaught hj hout'
    obtain rfl := Option.some.inj (hm.symm.trans hm')
    obtain rfl := Option.some.inj (hd.symm.trans hd')
    exact ⟨d,rfl,rfl⟩
  deliveredResult n i d hi hout := by
    obtain ⟨m,d',hm,hd,hout'⟩ := h.composed hcaught hi hout
    obtain rfl := Except.ok.inj (ReceiptOutcome.receipt.inj hout')
    exact ⟨m,hm,(h.kept hm).about d hd⟩
  ownResult n m hm := by
    obtain ⟨i,h₀,hbuilt,-,-⟩ := (h.kept hm).built
    obtain ⟨m',a,call,hm',hcall,hwritten,rfl⟩ := h.built hbuilt
    obtain rfl := Option.some.inj (hm.symm.trans hm')
    exact ⟨i,a,call,hcall,hwritten,hbuilt⟩
  ownHandle i a n hi hout := by
    obtain ⟨hretained,h₀,hbuilt⟩ := h.completed hi hout
    obtain ⟨m,a',call,hm,-,hwritten,-⟩ := h.built hbuilt
    exact ⟨hretained,m,call,hm,hwritten⟩
  oneHandle i k a n n' hi hout hk hout' := by
    have hretained := (h.completed hi hout).1
    have hpost := h.returned hout'
    rw [hk] at hpost
    obtain ⟨o,r,hr,hentered,hread⟩ := hpost
    obtain rfl := ReceiptOutcome.completion.inj hr
    have hlater := h.runtime.past.entered k o hentered a n' ((hread n').mpr rfl)
    exact Option.some.inj (hlater.symm.trans hretained)
  twoHandles i j n n' hi hout hj hout' := by
    rintro rfl
    obtain ⟨-,h₀,hbuilt⟩ := h.completed hi hout
    obtain ⟨-,h₁,hbuilt'⟩ := h.completed hj hout'
    obtain ⟨m,hm⟩ := h.exists_handle (.inr (.inr ⟨h₀,hbuilt⟩))
    obtain ⟨k,h₂,-,-,honly⟩ := (h.kept hm).built
    have hij : i = j := (honly i h₀ hbuilt).1.trans (honly j h₁ hbuilt').1.symm
    rw [hij, hj] at hi
    cases hi
  answers n m k p hm hk hp halive := h.composes hk hm halive hp

end ReceiptReachable

/-! A request whose first invocation is refused the lock. Its receipt is composed by two
threads, the second invocation raises, and the first handle is read and composed again. -/
namespace RefusedReceipt

def signature : RequestSignature := ⟨"r",.create,"A",.decimal (.ofCents false 1000)⟩

def methods : Fin 7 → ReceiptMethod
  | 0 => .invoke .initial
  | 1 => .composeReceipt 0
  | 2 => .composeReceipt 0
  | 3 => .evaluateReinvocationAuthority
  | 4 => .invoke .reinvocation
  | 5 => .completion .initial
  | 6 => .composeReceipt 0

def writer (i : Fin 7) : Except BaseException (PyObject PostgresWriteSideResult) :=
  if i = 0 then .ok ⟨7,.notPrepared .miss (.lockNotAvailable "A") none⟩
  else .error (.exception (.runtimeError "connection lost"))

/-- Each operation by its own effect; `persist` is what the first transaction does. -/
def serve (persisted : DecisionReceipt →
      Except BaseException (PostgresDecisionReceiptTransactionResult DecisionReceipt)) (i : Fin 7) :
    Semantics (ReceiptWorld (Fin 7)) ReceiptOperation ReceiptOperation.Answer BaseException :=
  fun op w => match op with
  | .enterRuntime => if w.runtime.holder = none then
      some (.ok w.runtime.value,{w with runtime := w.runtime.enter i}) else none
  | .leaveRuntime o => some (.ok (),{w with runtime := .free o})
  | .write _ => some (writer i,w)
  | .newHandle h => some (.ok w.handles.length,{w with handles := w.handles ++ [.free h]})
  | .enterHandle n => w.handles[n]?.bind (fun m => if m.holder = none then
      some (.ok m.value,{w with handles := w.handles.set n (m.enter i)}) else none)
  | .leaveHandle n h => some (.ok (),{w with handles := w.handles.set n (.free h)})
  | .identityFactory _ _ => some (.ok (some 1),w)
  | .mapResult _ r u result =>
    some ((mapPostgresWriteSideResultToDecisionReceipt r u result.value).mapError .exception,w)
  | .persist _ receipt =>
    some (if i = 1 then persisted receipt else .ok (.acknowledged receipt),w)
  | .newObject => some (.ok 5,w)
  | .uuid4 => some (.ok 3,w)

theorem serve_step {raises : BaseException → Prop}
    {persisted : DecisionReceipt →
      Except BaseException (PostgresDecisionReceiptTransactionResult DecisionReceipt)}
    (hraises : ∀ e, raises (.exception e))
    (hpersisted : ∀ receipt e, persisted receipt = .error e → raises e)
    (i : Fin 7) (op : ReceiptOperation) (w : ReceiptWorld (Fin 7)) (reply : ReceiptReply op)
    (w' : ReceiptWorld (Fin 7)) (h : serve persisted i op w = some (reply,w')) :
    ReceiptStep raises i w op reply w' := by
  have hout {x y : ReceiptReply op × ReceiptWorld (Fin 7)} (hx : some x = some y)
      (hy : ReceiptStep raises i w op x.1 x.2) : ReceiptStep raises i w op y.1 y.2 :=
    Option.some.inj hx ▸ hy
  cases op with
  | enterRuntime =>
    simp only [serve] at h
    split at h
    · rename_i hopen
      exact hout h (.enterRuntime hopen)
    · cases h
  | leaveRuntime o => exact hout h (.leaveRuntime o)
  | write call => exact hout h (.write call (writer i))
  | newHandle n => exact hout h (.newHandle n)
  | enterHandle n =>
    obtain ⟨m,hm,hs⟩ := Option.bind_eq_some_iff.mp h
    split at hs
    · rename_i hopen
      exact hout hs (.enterHandle hm hopen)
    · cases hs
  | leaveHandle n h' => exact hout h (.leaveHandle n h')
  | identityFactory f n => exact hout h (.identityFactory f n (.ok (some 1)) (fun e he => (nomatch he)))
  | mapResult n r u result =>
    refine hout h (.mapResult n r u result _ (fun e he => ?_))
    cases hmap : mapPostgresWriteSideResultToDecisionReceipt r u result.value with
    | ok receipt => simp [hmap, Except.mapError] at he
    | error e' =>
      rw [hmap] at he
      obtain rfl := Except.error.inj he
      exact hraises e'
  | persist n receipt =>
    refine hout h (.persist n receipt _ (fun e he => ?_))
    split at he
    · exact hpersisted receipt e he
    · cases he
  | newObject => exact hout h (.newObject 5)
  | uuid4 => exact hout h (.uuid4 3)

def run (persisted : DecisionReceipt →
      Except BaseException (PostgresDecisionReceiptTransactionResult DecisionReceipt))
    (schedule : List (Fin 7)) : Option (ReceiptSystem (Fin 7)) :=
  (ReceiptSystem.start (.new signature ⟨_,rfl⟩) methods).drive (serve persisted) schedule

/-- A1, two compositions, authority, A2, the accessor and a last composition. -/
def committed : ReceiptSystem (Fin 7) := (run (fun receipt => .ok (.acknowledged receipt))
  [0,0,0,0,1,1,1,1,1,3,1,3,1,3,2,4,4,2,4,5,5,6,6]).get (by decide +kernel)

/-- The first transaction is interrupted, and the second composition starts it again. -/
def interrupted : ReceiptSystem (Fin 7) := (run (fun _ => .error (.processControl "KeyboardInterrupt"))
  [0,0,0,0,1,1,1,1,1,1,2,2,2,2]).get (by decide +kernel)

theorem committed_reachable : ReceiptReachable (fun e => e.isException = true)
    (.new signature ⟨_,rfl⟩) methods committed :=
  Config.drive_reaches (serve_step (fun _ => rfl) (fun _ _ he => nomatch he)) (Option.some_get _).symm

theorem interrupted_reachable : ReceiptReachable (fun _ => True) (.new signature ⟨_,rfl⟩) methods
    interrupted :=
  Config.drive_reaches (serve_step (fun _ => trivial) (fun _ _ _ => trivial)) (Option.some_get _).symm

/-- Both compositions hand the receipt of the one handle to persistence. -/
theorem handed_twice : ReceiptReachable (fun _ => True) (.new signature ⟨_,rfl⟩) methods interrupted ∧
    ¬ReceiptCustody (fun _ => True) methods interrupted := by
  refine ⟨interrupted_reachable,fun hc => ?_⟩
  have htwice : interrupted.trace.countP (fun e => e.op.persists 0) = 2 := by decide +kernel
  have := hc.handedOnce 0
  omega

end RefusedReceipt

theorem ReceiptReachable.receipt_custody_refused :
    RefusedReceipt.committed.trace.countP (fun e => e.op.persists 0) = 1 ∧
      ReceiptCustody (fun e => e.isException = true) RefusedReceipt.methods RefusedReceipt.committed :=
  ⟨by decide +kernel,
    ReceiptReachable.receipt_custody (fun _ he => he) RefusedReceipt.committed_reachable⟩

end StreamingCompass
