import StreamingCompass.Concurrency.OwnerCalls
import StreamingCompass.Interleaving.Run

/-! # The lifecycle of an invocation owner

Whatever threads call and however the writer behaves: two writer entries at most, the
second one authorized, and one delivery for each result while it is current.
-/
namespace StreamingCompass
open Interleaving

/-! ## What a step can do -/

/-- Every step by its case, with the owner it leaves. -/
inductive OwnerEffect (o : PostgresWriteSideInvocationOwner) :
    (op : OwnerOperation) → OwnerReply op → PostgresWriteSideInvocationOwner → Prop where
  | notAdmitted {a : Attempt} (e : PyException) : OwnerEffect o (.admission a) (.error e) o
  | started (fresh : o.initialInvocationStarted = false) :
    OwnerEffect o (.admission .initial) (.ok ()) {o with initialInvocationStarted := true}
  | spent (issued : ∃ address s, o.cachedReinvocationEvaluation = some ⟨address,.authorization s⟩)
    (fresh : o.authoritySpent = false) : OwnerEffect o (.admission .reinvocation) (.ok ())
      {o with authoritySpent := true}.clearCurrentResponseState
  | entered (call : WriterCall) : OwnerEffect o (.enterWriter call) (.ok ()) o
  | left (reply : OwnerReply .leaveWriter) : OwnerEffect o .leaveWriter reply o
  | completed (r : PyObject PostgresWriteSideResult) :
    OwnerEffect o (.publish .initial r) (.ok ()) (o.publishInitial r)
  | recompleted (r : PyObject PostgresWriteSideResult) :
    OwnerEffect o (.publish .reinvocation r) (.ok ()) (o.publishCurrentResponseResult r)
  | unavailable (absent : o.currentResponseResult = none) :
    OwnerEffect o .evaluateCurrentResponse (.error (.lifecycleError
      "no normally completed current-response result is available")) o
  | cached {result : PyObject PostgresWriteSideResult}
    {delivery : PyObject PostgresWriteSideCurrentResponseDelivery}
    (current : o.currentResponseResult = some result)
    (held : o.cachedCurrentResponseDelivery = some delivery) :
    OwnerEffect o .evaluateCurrentResponse (.ok delivery) o
  | failed {result : PyObject PostgresWriteSideResult} {outcomeId : Uuid} (e : PyException)
    (current : o.currentResponseResult = some result) (empty : o.cachedCurrentResponseDelivery = none)
    (kept : ∀ u, o.currentResponseOutcomeId = some u → u = outcomeId) :
    OwnerEffect o .evaluateCurrentResponse (.error e)
      {o with currentResponseOutcomeId := some outcomeId}
  | responded {result : PyObject PostgresWriteSideResult} {outcomeId : Uuid}
    {delivery : PyObject PostgresWriteSideCurrentResponseDelivery}
    (current : o.currentResponseResult = some result) (empty : o.cachedCurrentResponseDelivery = none)
    (kept : ∀ u, o.currentResponseOutcomeId = some u → u = outcomeId)
    (about : delivery.value.producerResult = result) (named : delivery.value.outcomeId = outcomeId) :
    OwnerEffect o .evaluateCurrentResponse (.ok delivery)
      {o with currentResponseOutcomeId := some outcomeId,
              cachedCurrentResponseDelivery := some delivery}
  | notEvaluated (e : PyException) : OwnerEffect o .evaluateReinvocationAuthority (.error e) o
  | issued {evaluation : PyObject ReinvocationAuthorityEvaluation}
    (held : o.cachedReinvocationEvaluation = some evaluation) :
    OwnerEffect o .evaluateReinvocationAuthority (.ok evaluation) o
  | evaluated {result : PyObject PostgresWriteSideResult}
    {evaluation : PyObject ReinvocationAuthorityEvaluation}
    (empty : o.cachedReinvocationEvaluation = none) (complete : o.initialResult = some result)
    (evaluates : ReinvocationAuthority.evaluate o.requestSignature result.value =
      .ok evaluation.value) :
    OwnerEffect o .evaluateReinvocationAuthority (.ok evaluation)
      {o with cachedReinvocationEvaluation := some evaluation}

theorem OwnerStep.effect {o o' : PostgresWriteSideInvocationOwner} {op : OwnerOperation}
    {reply : OwnerReply op} (h : OwnerStep o op reply o') : OwnerEffect o op reply o' := by
  cases h with
  | admission a =>
    cases a with
    | initial =>
      simp only [PostgresWriteSideInvocationOwner.admission]
      rcases o.admitInitial_cases with ⟨e,he⟩ | ⟨hf,he⟩
      · rw [he]
        exact .notAdmitted e
      · rw [he]
        exact .started hf
    | reinvocation =>
      simp only [PostgresWriteSideInvocationOwner.admission]
      rcases o.spendAuthority_cases with ⟨e,he⟩ | ⟨hissued,hf,he⟩
      · rw [he]
        exact .notAdmitted e
      · rw [he]
        exact .spent hissued hf
  | enterWriter call => exact .entered call
  | leaveWriter reply => exact .left reply
  | publish a result =>
    cases a with
    | initial => exact .completed result
    | reinvocation => exact .recompleted result
  | evaluateCurrentResponse drawn address =>
    have hkept : ∀ u, o.currentResponseOutcomeId = some u →
        u = o.currentResponseOutcomeId.getD drawn := fun u hu => by rw [hu, Option.getD_some]
    rcases o.evaluateCurrentResponse_cases drawn address with ⟨habsent,he⟩ | ⟨result,hcurrent,he⟩
    · rw [he]
      exact .unavailable habsent
    · rcases he with ⟨delivery,hheld,he⟩ | ⟨hempty,⟨e,he⟩ | ⟨delivery,habout,hnamed,he⟩⟩
      · rw [he]
        exact .cached hcurrent hheld
      · rw [he]
        exact .failed e hcurrent hempty hkept
      · rw [he]
        exact .responded hcurrent hempty hkept habout hnamed
  | evaluateReinvocationAuthority address =>
    rcases o.evaluateReinvocationAuthority_cases address with
      ⟨e,he⟩ | ⟨evaluation,hheld,he⟩ | ⟨hempty,result,evaluation,hcomplete,hev,he⟩
    · rw [he]
      exact .notEvaluated e
    · rw [he]
      exact .issued hheld
    · rw [he]
      exact .evaluated hempty hcomplete hev

/-! ## Admissions -/

/-- A reply that admits an attempt. -/
def admits (a : Attempt) : (op : OwnerOperation) → OwnerReply op → Bool
  | .admission b, .ok _ => b == a
  | _, _ => false

/-- An attempt is admitted by its section only, and once. -/
theorem OwnerEffect.admitted {o o' : PostgresWriteSideInvocationOwner} {op : OwnerOperation}
    {reply : OwnerReply op} (h : OwnerEffect o op reply o') (a : Attempt) :
    o'.admitted a = (o.admitted a || admits a op reply) ∧
      (admits a op reply = true → o.admitted a = false) := by
  cases h with
  | started fresh => cases a <;> simp [admits, PostgresWriteSideInvocationOwner.admitted, fresh]
  | spent issued fresh =>
    cases a <;> simp [admits, PostgresWriteSideInvocationOwner.admitted, fresh,
      PostgresWriteSideInvocationOwner.clearCurrentResponseState]
  | completed r => cases a <;> simp [admits] <;> rfl
  | recompleted r => cases a <;> simp [admits] <;> rfl
  | _ => cases a <;> simp [admits, PostgresWriteSideInvocationOwner.admitted]

variable {ι : Type} [DecidableEq ι] {o : PostgresWriteSideInvocationOwner} {calls : ι → OwnerMethod}
  {c c' : OwnerSystem ι} {i j : ι} {a : Attempt}

/-- The thread that was admitted for an attempt. -/
def Admitted (c : OwnerSystem ι) (a : Attempt) (i : ι) : Prop :=
  (⟨.admission a,.ok ()⟩ : Exchange OwnerOperation OwnerOperation.Answer PyException) ∈ c.log i

namespace OwnerReachable

theorem admitted (h : OwnerReachable o calls c) (ho : ∀ a, o.admitted a = false) (a : Attempt) :
    (c.world.admitted a = true ↔ ∃ i, Admitted c a i) ∧
      ∀ i j, Admitted c a i → Admitted c a j → i = j := by
  refine Reaches.invariant (fun c : OwnerSystem ι => (c.world.admitted a = true ↔
    ∃ i, Admitted c a i) ∧ ∀ i j, Admitted c a i → Admitted c a j → i = j) ?_ ?_ h
  · refine ⟨iff_of_false (by simp [OwnerSystem.start, ho]) ?_,fun i j hi => ?_⟩
    · rintro ⟨i,hi⟩
      cases hi
    · cases hi
  intro c c' _ ⟨hflag,hunique⟩ hs
  cases hs with
  | abandon running => exact ⟨hflag,hunique⟩
  | @call i op next reply w running executes =>
    obtain ⟨hadmitted,hfresh⟩ := (OwnerStep.effect executes).admitted a
    have hnew : admits a op reply = true ↔
        (⟨.admission a,.ok ()⟩ : Exchange OwnerOperation OwnerOperation.Answer PyException) =
          ⟨op,reply⟩ := by
      constructor
      · intro ha
        cases op with
        | admission b =>
          cases reply with
          | error e => cases ha
          | ok _ =>
            obtain rfl : b = a := by simpa [admits] using ha
            rfl
        | _ => simp [admits] at ha
      · rintro ⟨⟩
        simp [admits]
    constructor
    · rw [Config.advance_world, hadmitted, Bool.or_eq_true, hflag, hnew]
      simp only [Admitted, Config.exists_log_advance]
      exact or_comm
    · intro j k hj hk
      by_cases ha : admits a op reply = true
      · -- nobody was admitted before
        have hnone : ∀ j, ¬Admitted c a j := fun j hj => by
          have := hflag.mpr ⟨j,hj⟩
          rw [hfresh ha] at this
          cases this
        have hself : ∀ j, Admitted (c.advance i op reply (next reply) w) a j → j = i := by
          intro j hj
          by_contra hne
          rw [Admitted, Config.advance_log_ne _ hne] at hj
          exact hnone j hj
        rw [hself j hj, hself k hk]
      · have hold : ∀ j, Admitted (c.advance i op reply (next reply) w) a j → Admitted c a j := by
          intro j hj
          by_cases hji : j = i
          · subst hji
            rw [Admitted, Config.advance_log_self] at hj
            rcases List.mem_cons.mp hj with heq | hj
            · exact absurd (hnew.mpr heq) ha
            · exact hj
          · rwa [Admitted, Config.advance_log_ne _ hji] at hj
        exact hunique j k (hold j hj) (hold k hk)

/-- A thread that was admitted twice over is one thread. -/
theorem admitted_unique (h : OwnerReachable o calls c) (ho : ∀ a, o.admitted a = false)
    (hi : Admitted c a i) (hj : Admitted c a j) : i = j := (h.admitted ho a).2 i j hi hj

/-! ## Own logs -/

theorem entered (h : OwnerReachable o calls c) {call : WriterCall}
    {reply : OwnerReply (.enterWriter call)} (hmem : (⟨.enterWriter call,reply⟩ :
      Exchange OwnerOperation OwnerOperation.Answer PyException) ∈ c.log i) :
    call = retainedCall o.requestSignature ∧ ∃ a, calls i = .invoke a ∧ Admitted c a i := by
  obtain ⟨earlier,hissues,hlog⟩ := h.issued hmem
  generalize hm : calls i = m at hissues
  cases hissues with
  | enterWriter a => exact ⟨rfl,a,rfl,hlog.subset (by simp)⟩

theorem published (h : OwnerReachable o calls c) {r : PyObject PostgresWriteSideResult}
    {reply : OwnerReply (.publish a r)} (hmem : (⟨.publish a r,reply⟩ :
      Exchange OwnerOperation OwnerOperation.Answer PyException) ∈ c.log i) :
    calls i = .invoke a ∧ Admitted c a i ∧ (⟨.leaveWriter,.ok r⟩ :
      Exchange OwnerOperation OwnerOperation.Answer PyException) ∈ c.log i ∧
      (⟨.enterWriter (retainedCall o.requestSignature),.ok ()⟩ :
        Exchange OwnerOperation OwnerOperation.Answer PyException) ∈ c.log i := by
  obtain ⟨earlier,hissues,hlog⟩ := h.issued hmem
  generalize hm : calls i = m at hissues
  cases hissues with
  | publish a result =>
    exact ⟨rfl,hlog.subset (by simp),hlog.subset (by simp),hlog.subset (by simp)⟩

theorem publishing (h : OwnerReachable o calls c) {r : PyObject PostgresWriteSideResult}
    {next : OwnerReply (.publish a r) → OwnerProgram OwnerOutcome}
    (hp : c.program i = some (.call (.publish a r) next)) :
    Admitted c a i ∧ (⟨.leaveWriter,.ok r⟩ :
        Exchange OwnerOperation OwnerOperation.Answer PyException) ∈ c.log i ∧
      ∀ r' reply, (⟨.publish a r',reply⟩ :
        Exchange OwnerOperation OwnerOperation.Answer PyException) ∉ c.log i := by
  have hissues := h.issues hp
  generalize hm : calls i = m at hissues
  generalize hl : c.log i = log at hissues
  cases hissues with
  | publish a result => simp [Admitted, hl]

/-- A thread about to enter the writer has only been admitted. -/
theorem entering (h : OwnerReachable o calls c) {call : WriterCall}
    {next : OwnerReply (.enterWriter call) → OwnerProgram OwnerOutcome}
    (hp : c.program i = some (.call (.enterWriter call) next)) :
    ∃ a, calls i = .invoke a ∧ c.log i = [⟨.admission a,.ok ()⟩] := by
  have hissues := h.issues hp
  generalize hm : calls i = m at hissues
  generalize hl : c.log i = log at hissues
  cases hissues with
  | enterWriter a => exact ⟨a,rfl,rfl⟩

/-! ## Results and authority -/

/-- The first result, and what it was evaluated to. -/
structure Completed (s : RequestSignature) (c : OwnerSystem ι) : Prop where
  signature : c.world.requestSignature = s
  result : ∀ r, c.world.initialResult = some r ↔ ∃ i, (⟨.publish .initial r,.ok ()⟩ :
    Exchange OwnerOperation OwnerOperation.Answer PyException) ∈ c.log i
  evaluated : ∀ evaluation, c.world.cachedReinvocationEvaluation = some evaluation →
    ∃ r, c.world.initialResult = some r ∧ ReinvocationAuthority.evaluate s r.value =
      .ok evaluation.value
  spent : c.world.authoritySpent = true → ∃ address,
    c.world.cachedReinvocationEvaluation = some ⟨address,.authorization s⟩

/-- A thread about to publish the first result finds none. -/
theorem noInitialResult (h : OwnerReachable o calls c) (ho : ∀ a, o.admitted a = false)
    {s : RequestSignature} (hc : Completed s c) {r : PyObject PostgresWriteSideResult}
    {next : OwnerReply (.publish .initial r) → OwnerProgram OwnerOutcome}
    (hp : c.program i = some (.call (.publish .initial r) next)) : c.world.initialResult = none := by
  cases hr : c.world.initialResult with
  | none => rfl
  | some r' =>
    obtain ⟨j,hj⟩ := (hc.result r').mp hr
    obtain ⟨hadmitted,-,hnone⟩ := h.publishing hp
    obtain rfl := h.admitted_unique ho hadmitted (h.published hj).2.1
    exact absurd hj (hnone r' _)

theorem evaluate_authorization {s s' : RequestSignature} {r : PostgresWriteSideResult}
    (h : ReinvocationAuthority.evaluate s r = .ok (.authorization s')) : s' = s := by
  simp only [ReinvocationAuthority.evaluate, bind, Except.bind] at h
  repeat' split at h
  all_goals first
    | cases h
      rfl
    | cases h

theorem completed {s : RequestSignature} {hs : ∃ amount, s.amount = .decimal amount}
    (h : OwnerReachable (.new s hs) calls c) : Completed s c := by
  have ho : ∀ a, (PostgresWriteSideInvocationOwner.new s hs).admitted a = false := by
    intro a
    cases a <;> rfl
  refine Reaches.invariant (Completed s) ?_ ?_ h
  · refine ⟨rfl,fun r => iff_of_false (fun hr => (nomatch hr)) ?_,fun _ he => (nomatch he),
      fun hsp => (nomatch hsp)⟩
    rintro ⟨i,hi⟩
    cases hi
  intro c c' hr hc hstep
  cases hstep with
  | abandon running => exact ⟨hc.signature,hc.result,hc.evaluated,hc.spent⟩
  | @call i op next reply w running executes =>
    have hresult (hop : ∀ r, op ≠ .publish .initial r) (r : PyObject PostgresWriteSideResult) :
        (∃ j, (⟨.publish .initial r,.ok ()⟩ :
          Exchange OwnerOperation OwnerOperation.Answer PyException) ∈
            (c.advance i op reply (next reply) w).log j) ↔ c.world.initialResult = some r := by
      rw [Config.exists_log_advance, hc.result]
      refine or_iff_right (fun heq => hop r ?_)
      exact (congrArg Sigma.fst heq).symm
    cases OwnerStep.effect executes with
    | completed r =>
      have hnone := noInitialResult hr ho hc running
      refine ⟨hc.signature,fun r' => ?_,fun ev hev => ?_,fun hsp => ?_⟩
      · rw [Config.exists_log_advance]
        constructor
        · rintro ⟨⟩
          exact .inl rfl
        · rintro (heq | hold)
          · cases heq
            rfl
          · rw [← hc.result, hnone] at hold
            cases hold
      · obtain ⟨r',hr',-⟩ := hc.evaluated ev hev
        rw [hnone] at hr'
        cases hr'
      · obtain ⟨address,hcached⟩ := hc.spent hsp
        obtain ⟨r',hr',-⟩ := hc.evaluated _ hcached
        rw [hnone] at hr'
        cases hr'
    | @spent issued fresh =>
      refine ⟨hc.signature,fun r => (hresult (fun _ he => nomatch he) r).symm,hc.evaluated,
        fun _ => ?_⟩
      obtain ⟨address,s',hcached⟩ := issued
      obtain ⟨r,-,heval⟩ := hc.evaluated _ hcached
      obtain rfl := evaluate_authorization heval
      exact ⟨address,hcached⟩
    | @evaluated result evaluation empty complete evaluates =>
      refine ⟨hc.signature,fun r => (hresult (fun _ he => nomatch he) r).symm,
        fun ev hev => ?_,fun hsp => ?_⟩
      · obtain rfl := Option.some.inj hev
        exact ⟨result,complete,hc.signature ▸ evaluates⟩
      · obtain ⟨address,hcached⟩ := hc.spent hsp
        rw [empty] at hcached
        cases hcached
    | _ => exact ⟨hc.signature,fun r => (hresult (fun _ he => nomatch he) r).symm,hc.evaluated,
        hc.spent⟩

end OwnerReachable

/-! ## The current result -/

/-- What an operation makes of the current result. -/
def replaces : (op : OwnerOperation) → OwnerReply op → Option (Option (PyObject PostgresWriteSideResult))
  | .publish _ r, _ => some (some r)
  | .admission .reinvocation, .ok _ => some none
  | _, _ => none

/-- The result published last, unless authority was spent since. -/
def currentResult : List (OwnerEntry ι) → Option (PyObject PostgresWriteSideResult)
  | [] => none
  | e :: earlier => (replaces e.op e.reply).getD (currentResult earlier)

section Effects
variable {o o' : PostgresWriteSideInvocationOwner} {op : OwnerOperation} {reply : OwnerReply op}

theorem OwnerEffect.current (h : OwnerEffect o op reply o') :
    o'.currentResponseResult = (replaces op reply).getD o.currentResponseResult := by
  cases h with
  | @notAdmitted a e => cases a <;> rfl
  | _ => rfl

/-- While a result is current its delivery and its identity stay. -/
theorem OwnerEffect.keeps (h : OwnerEffect o op reply o') (hr : replaces op reply = none) :
    (∀ delivery, o.cachedCurrentResponseDelivery = some delivery →
      o'.cachedCurrentResponseDelivery = some delivery) ∧
    ∀ u, o.currentResponseOutcomeId = some u → o'.currentResponseOutcomeId = some u := by
  cases h with
  | spent issued fresh => cases hr
  | completed r => cases hr
  | recompleted r => cases hr
  | failed e current empty kept => exact ⟨fun _ hd => hd,fun u hu => congrArg some (kept u hu).symm⟩
  | responded current empty kept about named =>
    refine ⟨fun d hd => ?_,fun u hu => congrArg some (kept u hu).symm⟩
    rw [empty] at hd
    cases hd
  | _ => exact ⟨fun _ hd => hd,fun _ hu => hu⟩

/-- An evaluated delivery is kept with the identity of its result. -/
theorem OwnerEffect.evaluatedResponse {reply : OwnerReply .evaluateCurrentResponse}
    (h : OwnerEffect o .evaluateCurrentResponse reply o') :
    (o.currentResponseResult = none ∧ reply = .error (.lifecycleError
      "no normally completed current-response result is available")) ∨
    (o.currentResponseResult ≠ none ∧ ∀ delivery, reply = .ok delivery →
      o'.cachedCurrentResponseDelivery = some delivery) := by
  cases h with
  | unavailable absent => exact .inl ⟨absent,rfl⟩
  | cached current held =>
    exact .inr ⟨by simp [current],fun _ hd => (Except.ok.inj hd) ▸ held⟩
  | failed e current empty kept => exact .inr ⟨by simp [current],fun _ hd => (nomatch hd)⟩
  | responded current empty kept about named =>
    exact .inr ⟨by simp [current],fun _ hd => congrArg some (Except.ok.inj hd)⟩

end Effects

/-- The entries at which the writer was entered for an attempt. -/
def entersFor (calls : ι → OwnerMethod) (a : Attempt) (e : OwnerEntry ι) : Bool :=
  match e.op with
  | .enterWriter _ => calls e.thread = .invoke a
  | _ => false

def enters (e : OwnerEntry ι) : Bool :=
  match e.op with
  | .enterWriter _ => true
  | _ => false

omit [DecidableEq ι] in
theorem enters_eq {e : OwnerEntry ι} (he : enters e = true) : ∃ call, e.op = .enterWriter call := by
  unfold enters at he
  split at he
  · exact ⟨_,by assumption⟩
  · cases he

/-- The attempt whose result can be current. -/
def latestAttempt (authoritySpent : Bool) : Attempt :=
  if authoritySpent then .reinvocation else .initial

/-- The current result, where it came from, and the delivery about it. -/
structure Responding (c : OwnerSystem ι) : Prop where
  current : c.world.currentResponseResult = currentResult c.trace
  source : ∀ r, c.world.currentResponseResult = some r → ∃ i,
    (⟨.publish (latestAttempt c.world.authoritySpent) r,.ok ()⟩ :
      Exchange OwnerOperation OwnerOperation.Answer PyException) ∈ c.log i
  delivered : ∀ delivery, c.world.cachedCurrentResponseDelivery = some delivery →
    c.world.currentResponseResult = some delivery.value.producerResult ∧
      c.world.currentResponseOutcomeId = some delivery.value.outcomeId

namespace OwnerReachable
variable {s : RequestSignature} {hs : ∃ amount, s.amount = .decimal amount}

theorem new_admitted (a : Attempt) :
    (PostgresWriteSideInvocationOwner.new s hs).admitted a = false := by
  cases a <;> rfl

theorem responding (h : OwnerReachable (.new s hs) calls c) : Responding c := by
  refine Reaches.invariant Responding ?_ ?_ h
  · refine ⟨rfl,fun r hr => ?_,fun d hd => ?_⟩
    · cases hr
    · cases hd
  intro c c' hr hc hstep
  cases hstep with
  | abandon running => exact ⟨hc.current,hc.source,hc.delivered⟩
  | @call i op next reply w running executes =>
    have heffect := OwnerStep.effect executes
    have hcurrent : w.currentResponseResult =
        currentResult (c.advance i op reply (next reply) w).trace := by
      rw [heffect.current, hc.current, Config.advance_trace, currentResult]
    have hold {x : Exchange OwnerOperation OwnerOperation.Answer PyException}
        (hx : ∃ j, x ∈ c.log j) : ∃ j, x ∈ (c.advance i op reply (next reply) w).log j :=
      (Config.exists_log_advance c).mpr (.inr hx)
    cases heffect with
    | started fresh => exact ⟨hcurrent,fun r hr => hold (hc.source r hr),hc.delivered⟩
    | spent issued fresh => exact ⟨hcurrent,fun _ hr => (nomatch hr),fun _ hd => (nomatch hd)⟩
    | completed r =>
      have hcompleted := OwnerReachable.completed hr
      have hnone := noInitialResult hr new_admitted hcompleted running
      have hunspent : c.world.authoritySpent = false := by
        by_contra hsp
        obtain ⟨address,hcached⟩ := hcompleted.spent (by simpa using hsp)
        obtain ⟨r',hr',-⟩ := hcompleted.evaluated _ hcached
        rw [hnone] at hr'
        cases hr'
      refine ⟨hcurrent,fun r' hr' => ?_,fun _ hd => (nomatch hd)⟩
      obtain rfl := Option.some.inj hr'
      refine (Config.exists_log_advance c).mpr (.inl ?_)
      have hlatest : latestAttempt (c.world.publishInitial r).authoritySpent = .initial :=
        congrArg latestAttempt hunspent
      rw [Config.advance_world, hlatest]
    | recompleted r =>
      have hspent : c.world.authoritySpent = true :=
        (OwnerReachable.admitted hr new_admitted .reinvocation).1.mpr
          ⟨i,(OwnerReachable.publishing hr running).1⟩
      refine ⟨hcurrent,fun r' hr' => ?_,fun _ hd => (nomatch hd)⟩
      obtain rfl := Option.some.inj hr'
      refine (Config.exists_log_advance c).mpr (.inl ?_)
      have hlatest : latestAttempt (c.world.publishCurrentResponseResult r).authoritySpent =
          .reinvocation := congrArg latestAttempt hspent
      rw [Config.advance_world, hlatest]
    | failed e current empty kept =>
      refine ⟨hcurrent,fun r hr => hold (hc.source r hr),fun d hd => ?_⟩
      rw [Config.advance_world] at hd
      rw [empty] at hd
      cases hd
    | responded current empty kept about named =>
      refine ⟨hcurrent,fun r hr => hold (hc.source r hr),fun d hd => ?_⟩
      obtain rfl := Option.some.inj hd
      exact ⟨by rw [about]; exact current,congrArg some named.symm⟩
    | evaluated empty complete evaluates =>
      exact ⟨hcurrent,fun r hr => hold (hc.source r hr),hc.delivered⟩
    | _ => exact ⟨hcurrent,fun r hr => hold (hc.source r hr),hc.delivered⟩

/-! ## Writer entries -/

theorem entry_attempt (h : OwnerReachable o calls c) {e : OwnerEntry ι} (he : e ∈ c.trace)
    (henters : enters e = true) : ∃ a, calls e.thread = .invoke a ∧ Admitted c a e.thread ∧
      ∃ call reply, e.op = .enterWriter call ∧ call = retainedCall o.requestSignature ∧
        (⟨.enterWriter call,reply⟩ : Exchange OwnerOperation OwnerOperation.Answer PyException) ∈
          c.log e.thread := by
  rcases e with ⟨i,op,reply,w,w'⟩
  obtain ⟨call,hop⟩ := enters_eq henters
  dsimp only at hop
  subst hop
  have hmem : (⟨.enterWriter call,reply⟩ :
      Exchange OwnerOperation OwnerOperation.Answer PyException) ∈ c.log i :=
    mem_ownLog.mpr ⟨_,he,rfl,rfl⟩
  obtain ⟨hcall,a,ha,hadmitted⟩ := h.entered hmem
  exact ⟨a,ha,hadmitted,call,reply,rfl,hcall,hmem⟩

/-- A thread about to enter finds no entry of its attempt. -/
theorem noEntry (h : OwnerReachable o calls c) (ho : ∀ a, o.admitted a = false) {call : WriterCall}
    {next : OwnerReply (.enterWriter call) → OwnerProgram OwnerOutcome}
    (hp : c.program i = some (.call (.enterWriter call) next)) (ha : calls i = .invoke a)
    {e : OwnerEntry ι} (he : e ∈ c.trace) (henters : enters e = true) :
    calls e.thread ≠ .invoke a := by
  intro hea
  obtain ⟨a',ha',hlog⟩ := h.entering hp
  obtain rfl : a = a' := by
    rw [ha] at ha'
    exact OwnerMethod.invoke.inj ha'
  obtain ⟨b,hb,hadmitted,call',reply,-,-,hmem⟩ := h.entry_attempt he henters
  obtain rfl : b = a := by
    rw [hb] at hea
    exact OwnerMethod.invoke.inj hea
  obtain rfl : i = e.thread := h.admitted_unique ho (by simp [Admitted, hlog]) hadmitted
  simp [hlog] at hmem

theorem entered_once (h : OwnerReachable o calls c) (ho : ∀ a, o.admitted a = false) (a : Attempt) :
    (c.trace.filter (entersFor calls a)).length ≤ 1 := by
  refine Reaches.invariant (fun c : OwnerSystem ι =>
    (c.trace.filter (entersFor calls a)).length ≤ 1) (by simp [OwnerSystem.start]) ?_ h
  intro c c' hr hi hs
  cases hs with
  | abandon running => exact hi
  | @call i op next reply w running executes =>
    rw [Config.advance_trace, List.filter_cons]
    split
    · rename_i hnew
      have hnone : c.trace.filter (entersFor calls a) = [] := by
        rw [List.filter_eq_nil_iff]
        intro e he hea
        cases op with
        | enterWriter call =>
          have ha : calls i = .invoke a := by simpa [entersFor] using hnew
          have henters : enters e = true ∧ calls e.thread = .invoke a := by
            unfold entersFor at hea
            split at hea
            · rename_i hop
              exact ⟨by simp [enters, hop],by simpa using hea⟩
            · cases hea
          exact noEntry hr ho running ha he henters.1 henters.2
        | _ => simp [entersFor] at hnew
      simp [hnone]
    · exact hi

theorem enters_split (h : OwnerReachable o calls c) :
    (c.trace.filter enters).length = (c.trace.filter (entersFor calls .initial)).length +
      (c.trace.filter (entersFor calls .reinvocation)).length := by
  have hattempt : ∀ e ∈ c.trace, enters e = true → ∃ a, calls e.thread = .invoke a :=
    fun e he henters => by
      obtain ⟨a,ha,-⟩ := h.entry_attempt he henters
      exact ⟨a,ha⟩
  generalize c.trace = trace at hattempt
  clear h
  induction trace with
  | nil => rfl
  | cons e earlier ih =>
    have hearlier := ih (fun e' he' => hattempt e' (List.mem_cons_of_mem _ he'))
    rw [List.filter_cons, List.filter_cons, List.filter_cons]
    by_cases he : enters e = true
    · obtain ⟨call,hop⟩ := enters_eq he
      obtain ⟨a,ha⟩ := hattempt e (List.mem_cons_self ..) he
      have hfor : ∀ b, entersFor calls b e = decide (a = b) := by
        intro b
        simp [entersFor, hop, ha]
      cases a <;> simp [he, hfor] <;> omega
    · have hop : ∀ b, entersFor calls b e = false := by
        intro b
        unfold entersFor
        split
        · rename_i hop
          simp [enters, hop] at he
        · rfl
      simp [he, hop, hearlier]

/-- A second entry is authorized: it follows the normal return of the first. -/
theorem second_entry (h : OwnerReachable (.new s hs) calls c) {call : WriterCall}
    {next : OwnerReply (.enterWriter call) → OwnerProgram OwnerOutcome}
    (hp : c.program i = some (.call (.enterWriter call) next))
    (hsecond : calls i = .invoke .reinvocation ∨ c.trace.filter enters ≠ []) :
    calls i = .invoke .reinvocation ∧ ∃ first r address, c.trace.filter enters = [first] ∧
      calls first.thread = .invoke .initial ∧
      (⟨.leaveWriter,.ok r⟩ : Exchange OwnerOperation OwnerOperation.Answer PyException) ∈
        c.log first.thread ∧
      c.world.initialResult = some r ∧
      c.world.cachedReinvocationEvaluation = some ⟨address,.authorization s⟩ := by
  have hcompleted := h.completed
  obtain ⟨a,ha,hlog⟩ := h.entering hp
  have hself : Admitted c a i := by simp [Admitted, hlog]
  have hspent (j : ι) (hj : Admitted c .reinvocation j) : ∃ r address k,
      c.world.initialResult = some r ∧
      c.world.cachedReinvocationEvaluation = some ⟨address,.authorization s⟩ ∧
      (⟨.publish .initial r,.ok ()⟩ : Exchange OwnerOperation OwnerOperation.Answer PyException) ∈
        c.log k := by
    obtain ⟨address,hcached⟩ := hcompleted.spent ((h.admitted new_admitted .reinvocation).1.mpr ⟨j,hj⟩)
    obtain ⟨r,hr,-⟩ := hcompleted.evaluated _ hcached
    obtain ⟨k,hk⟩ := (hcompleted.result r).mp hr
    exact ⟨r,address,k,hr,hcached,hk⟩
  have hreinvocation : a = .reinvocation := by
    rcases hsecond with hi | hne
    · rw [ha] at hi
      exact OwnerMethod.invoke.inj hi
    · obtain ⟨e,he⟩ := List.exists_mem_of_ne_nil _ hne
      obtain ⟨hmem,henters⟩ := List.mem_filter.mp he
      obtain ⟨b,hb,hadmitted,-⟩ := h.entry_attempt hmem henters
      have hdiffers : b ≠ a := fun hba => h.noEntry new_admitted hp ha hmem henters (hba ▸ hb)
      cases a with
      | reinvocation => rfl
      | initial =>
        obtain rfl : b = .reinvocation := by cases b <;> first | rfl | exact absurd rfl hdiffers
        -- the first attempt has returned, so its thread is past entering
        obtain ⟨r,-,k,-,-,hk⟩ := hspent e.thread hadmitted
        obtain rfl := h.admitted_unique new_admitted hself (h.published hk).2.1
        simp [hlog] at hk
  subst hreinvocation
  obtain ⟨r,address,k,hr,hcached,hk⟩ := hspent i hself
  obtain ⟨hcalls,hadmitted,hleft,hentered⟩ := h.published hk
  obtain ⟨e,he,rfl,heq⟩ := mem_ownLog.mp hentered
  have henters : enters e = true := by
    obtain ⟨hop,-⟩ := Sigma.mk.inj heq
    simp [enters, hop]
  have hnone : c.trace.filter (entersFor calls .reinvocation) = [] := by
    rw [List.filter_eq_nil_iff]
    intro e' he' hfor
    unfold entersFor at hfor
    split at hfor
    · rename_i hop
      exact h.noEntry new_admitted hp ha he' (by simp [enters, hop]) (by simpa using hfor)
    · cases hfor
  have hlength : (c.trace.filter enters).length ≤ 1 := by
    rw [h.enters_split, hnone]
    exact h.entered_once new_admitted .initial
  obtain ⟨first,hfirst⟩ : ∃ first, c.trace.filter enters = [first] := by
    have hmem : e ∈ c.trace.filter enters := List.mem_filter.mpr ⟨he,henters⟩
    exact List.length_eq_one_iff.mp (Nat.le_antisymm hlength (List.length_pos_of_mem hmem))
  have hmem : e ∈ c.trace.filter enters := List.mem_filter.mpr ⟨he,henters⟩
  rw [hfirst, List.mem_singleton] at hmem
  subst hmem
  exact ⟨ha,e,r,address,hfirst,hcalls,hleft,hr,hcached⟩

/-! ## Deliveries -/

/-- While no entry replaces the current result, the delivery stays. -/
theorem delivery_kept (h : OwnerReachable (.new s hs) calls c) {between earlier : List (OwnerEntry ι)}
    {delivery : PyObject PostgresWriteSideCurrentResponseDelivery}
    {w w' : PostgresWriteSideInvocationOwner}
    (htrace : c.trace = between ++ ⟨i,.evaluateCurrentResponse,.ok delivery,w,w'⟩ :: earlier)
    (hb : ∀ e ∈ between, replaces e.op e.reply = none) :
    c.world.cachedCurrentResponseDelivery = some delivery := by
  induction h generalizing between with
  | refl => simp [OwnerSystem.start] at htrace
  | @tail c c' hr hs ih =>
    cases hs with
    | abandon running => exact ih htrace hb
    | @call j op next reply w₁ running executes =>
      have heffect := OwnerStep.effect executes
      cases between with
      | nil =>
        obtain ⟨heq,-⟩ := List.cons.inj htrace
        cases heq
        rcases heffect.evaluatedResponse with ⟨-,herror⟩ | ⟨-,hheld⟩
        · cases herror
        · exact hheld delivery rfl
      | cons e between =>
        obtain ⟨rfl,hrest⟩ := List.cons.inj htrace
        exact (heffect.keeps (hb _ (List.mem_cons_self ..))).1 delivery
          (ih hrest (fun e he => hb e (List.mem_cons_of_mem _ he)))

theorem evaluation_kept (h : OwnerReachable (.new s hs) calls c)
    {evaluation : PyObject ReinvocationAuthorityEvaluation}
    (hmem : ∃ j, (⟨.evaluateReinvocationAuthority,.ok evaluation⟩ :
      Exchange OwnerOperation OwnerOperation.Answer PyException) ∈ c.log j) :
    c.world.cachedReinvocationEvaluation = some evaluation := by
  refine Reaches.invariant (fun c : OwnerSystem ι => (∃ j, (⟨.evaluateReinvocationAuthority,
    .ok evaluation⟩ : Exchange OwnerOperation OwnerOperation.Answer PyException) ∈ c.log j) →
      c.world.cachedReinvocationEvaluation = some evaluation) ?_ ?_ h hmem
  · rintro ⟨j,hj⟩
    cases hj
  intro c c' hr hi hs hmem
  cases hs with
  | abandon running => exact hi hmem
  | @call j op next reply w running executes =>
    rw [Config.exists_log_advance] at hmem
    have heffect := OwnerStep.effect executes
    rcases hmem with heq | hold
    · cases heq
      cases heffect with
      | issued held => exact held
      | evaluated empty complete evaluates => rfl
    · have hcached := hi hold
      cases heffect with
      | evaluated empty complete evaluates =>
        rw [empty] at hcached
        cases hcached
      | _ => exact hcached

end OwnerReachable

/-! ## The lifecycle -/

def SpentIn (trace : List (OwnerEntry ι)) : Prop :=
  ∃ i, (⟨.admission .reinvocation,.ok ()⟩ :
    Exchange OwnerOperation OwnerOperation.Answer PyException) ∈ ownLog i trace

/-- What the trace of an owner's calls shows. -/
structure OwnerLifecycle (s : RequestSignature) (calls : ι → OwnerMethod)
    (trace : List (OwnerEntry ι)) : Prop where
  entries : (trace.filter enters).length ≤ 2
  retained : ∀ e ∈ trace, ∀ call, e.op = .enterWriter call → call.signature = s
  authorized : ∀ later earlier e, trace = later ++ e :: earlier → enters e = true →
    (calls e.thread = .invoke .reinvocation ∨ earlier.filter enters ≠ []) →
    calls e.thread = .invoke .reinvocation ∧ ∃ first r address, earlier.filter enters = [first] ∧
      calls first.thread = .invoke .initial ∧
      (⟨.leaveWriter,.ok r⟩ : Exchange OwnerOperation OwnerOperation.Answer PyException) ∈
        ownLog first.thread earlier ∧
      e.before.initialResult = some r ∧
      e.before.cachedReinvocationEvaluation = some ⟨address,.authorization s⟩
  about : ∀ later earlier i delivery w w',
    trace = later ++ ⟨i,.evaluateCurrentResponse,.ok delivery,w,w'⟩ :: earlier →
    currentResult earlier = some delivery.value.producerResult ∧
      ∃ j a, calls j = .invoke a ∧ (a = .reinvocation ↔ SpentIn earlier) ∧
        (⟨.leaveWriter,.ok delivery.value.producerResult⟩ :
          Exchange OwnerOperation OwnerOperation.Answer PyException) ∈ ownLog j earlier
  identical : ∀ later between earlier i j delivery reply w w' u u',
    trace = later ++ ⟨j,.evaluateCurrentResponse,reply,u,u'⟩ :: (between ++
      ⟨i,.evaluateCurrentResponse,.ok delivery,w,w'⟩ :: earlier) →
    (∀ e ∈ between, replaces e.op e.reply = none) → reply = .ok delivery
  oneIdentity : ∀ later between earlier i j reply reply' w w' u u',
    trace = later ++ ⟨j,.evaluateCurrentResponse,reply',u,u'⟩ :: (between ++
      ⟨i,.evaluateCurrentResponse,reply,w,w'⟩ :: earlier) →
    (∀ e ∈ between, replaces e.op e.reply = none) → currentResult earlier ≠ none →
    ∃ outcomeId, w'.currentResponseOutcomeId = some outcomeId ∧
      u'.currentResponseOutcomeId = some outcomeId ∧
      ∀ delivery, reply' = .ok delivery → delivery.value.outcomeId = outcomeId
  unavailable : ∀ later earlier i reply w w',
    trace = later ++ ⟨i,.evaluateCurrentResponse,reply,w,w'⟩ :: earlier →
    currentResult earlier = none → reply = .error (.lifecycleError
      "no normally completed current-response result is available")
  oneAuthority : ∀ i j evaluation evaluation' w w' u u',
    (⟨i,.evaluateReinvocationAuthority,.ok evaluation,w,w'⟩ : OwnerEntry ι) ∈ trace →
    (⟨j,.evaluateReinvocationAuthority,.ok evaluation',u,u'⟩ : OwnerEntry ι) ∈ trace →
    evaluation' = evaluation

namespace OwnerReachable
variable {s : RequestSignature} {hs : ∃ amount, s.amount = .decimal amount}

/-- While no entry replaces the current result, its identity stays. -/
theorem identity_kept (h : OwnerReachable (.new s hs) calls c) {between earlier : List (OwnerEntry ι)}
    {reply : OwnerReply .evaluateCurrentResponse} {w w' : PostgresWriteSideInvocationOwner}
    (htrace : c.trace = between ++ ⟨i,.evaluateCurrentResponse,reply,w,w'⟩ :: earlier)
    (hb : ∀ e ∈ between, replaces e.op e.reply = none) (hcurrent : currentResult earlier ≠ none) :
    ∃ outcomeId, w'.currentResponseOutcomeId = some outcomeId ∧
      c.world.currentResponseOutcomeId = some outcomeId := by
  induction h generalizing between with
  | refl => simp [OwnerSystem.start] at htrace
  | @tail c c' hr hstep ih =>
    cases hstep with
    | abandon running => exact ih htrace hb
    | @call j op next reply' w₁ running executes =>
      have heffect := OwnerStep.effect executes
      cases between with
      | nil =>
        obtain ⟨heq,hrest⟩ := List.cons.inj htrace
        cases heq
        have hresponding := responding hr
        rw [← hrest, ← hresponding.current] at hcurrent
        cases heffect with
        | unavailable absent => exact absurd absent hcurrent
        | cached current held =>
          obtain ⟨-,hid⟩ := hresponding.delivered _ held
          exact ⟨_,hid,hid⟩
        | failed e current empty kept => exact ⟨_,rfl,rfl⟩
        | responded current empty kept about named => exact ⟨_,rfl,rfl⟩
      | cons e between =>
        obtain ⟨rfl,hrest⟩ := List.cons.inj htrace
        obtain ⟨outcomeId,hw,hc⟩ := ih hrest (fun e he => hb e (List.mem_cons_of_mem _ he))
        exact ⟨outcomeId,hw,(heffect.keeps (hb _ (List.mem_cons_self ..))).2 outcomeId hc⟩

/-- Under every interleaving of calls and every behaviour of the writer: at most two writer
entries, the second one authorized; every delivery about the current result, one delivery
and one identity for each; one evaluation of authority. -/
theorem owner_lifecycle (h : OwnerReachable (.new s hs) calls c) : OwnerLifecycle s calls c.trace where
  entries := by
    have hinitial := h.entered_once new_admitted .initial
    have hreinvocation := h.entered_once new_admitted .reinvocation
    rw [h.enters_split]
    omega
  retained e he call hop := by
    obtain ⟨a,-,-,call',reply,hop',hcall,-⟩ := h.entry_attempt he (by simp [enters, hop])
    rw [hop] at hop'
    obtain rfl := OwnerOperation.enterWriter.inj hop'
    rw [hcall]
    exact retainedCall_signature s
  authorized later earlier e htrace henters hsecond := by
    obtain ⟨c₁,next,hp,hbefore,hearlier⟩ := Reaches.performed_entry h rfl htrace
    rcases e with ⟨i,op,reply,w,w'⟩
    obtain ⟨call,hop⟩ := enters_eq henters
    dsimp only at hop hbefore hsecond ⊢
    subst hop
    have hauthorized := second_entry (c := c₁) hp.before hp.running (hearlier ▸ hsecond)
    simp only [Config.log, hearlier, hbefore] at hauthorized
    exact hauthorized
  about later earlier i delivery w w' htrace := by
    obtain ⟨c₁,next,hp,hbefore,hearlier⟩ := Reaches.performed_entry h rfl htrace
    have hr : OwnerReachable (.new s hs) calls c₁ := hp.before
    have hresponding := hr.responding
    have hcurrent : c₁.world.currentResponseResult = some delivery.value.producerResult := by
      cases OwnerStep.effect hp.executes with
      | cached current held => exact (hresponding.delivered _ held).1
      | responded current empty kept about named => exact about ▸ current
    obtain ⟨j,hj⟩ := hresponding.source _ hcurrent
    obtain ⟨hcalls,-,hleft,-⟩ := hr.published hj
    rw [hresponding.current, hearlier] at hcurrent
    refine ⟨hcurrent,j,_,hcalls,?_,hearlier ▸ hleft⟩
    have hspent := (hr.admitted new_admitted .reinvocation).1
    simp only [Admitted, Config.log, hearlier] at hspent
    rw [SpentIn, ← hspent]
    change latestAttempt c₁.world.authoritySpent = .reinvocation ↔ c₁.world.authoritySpent = true
    cases c₁.world.authoritySpent <;> simp [latestAttempt]
  identical later between earlier i j delivery reply w w' u u' htrace hb := by
    obtain ⟨c₁,next,hp,hbefore,hearlier⟩ := Reaches.performed_entry h rfl htrace
    have hheld := delivery_kept (c := c₁) hp.before hearlier hb
    have hr : OwnerReachable (.new s hs) calls c₁ := hp.before
    cases OwnerStep.effect hp.executes with
    | unavailable absent =>
      rw [(hr.responding.delivered _ hheld).1] at absent
      cases absent
    | cached current held =>
      rw [hheld] at held
      rw [Option.some.inj held]
    | failed e current empty kept =>
      rw [hheld] at empty
      cases empty
    | responded current empty kept about named =>
      rw [hheld] at empty
      cases empty
  oneIdentity later between earlier i j reply reply' w w' u u' htrace hb hcurrent := by
    obtain ⟨c₁,next,hp,hbefore,hearlier⟩ := Reaches.performed_entry h rfl htrace
    obtain ⟨outcomeId,hw,hid⟩ := identity_kept (c := c₁) hp.before hearlier hb hcurrent
    have hr : OwnerReachable (.new s hs) calls c₁ := hp.before
    have heffect := OwnerStep.effect hp.executes
    refine ⟨outcomeId,hw,(heffect.keeps rfl).2 _ hid,fun d hd => ?_⟩
    subst hd
    cases heffect with
    | cached current held =>
      have hnamed := (hr.responding.delivered _ held).2
      rw [hid] at hnamed
      exact (Option.some.inj hnamed).symm
    | responded current empty kept about named => exact named.trans (kept _ hid).symm
  unavailable later earlier i reply w w' htrace habsent := by
    obtain ⟨c₁,next,hp,hbefore,hearlier⟩ := Reaches.performed_entry h rfl htrace
    have hr : OwnerReachable (.new s hs) calls c₁ := hp.before
    rcases (OwnerStep.effect hp.executes).evaluatedResponse with ⟨-,herror⟩ | ⟨hcurrent,-⟩
    · exact herror
    · rw [hr.responding.current, hearlier] at hcurrent
      exact absurd habsent hcurrent
  oneAuthority i j evaluation evaluation' w w' u u' hmem hmem' := by
    have hkept := h.evaluation_kept ⟨i,mem_ownLog.mpr ⟨_,hmem,rfl,rfl⟩⟩
    have hkept' := h.evaluation_kept ⟨j,mem_ownLog.mpr ⟨_,hmem',rfl,rfl⟩⟩
    rw [hkept] at hkept'
    exact (Option.some.inj hkept').symm

end OwnerReachable

/-! An owner whose first invocation was refused the lock: authority is evaluated and spent,
and the second invocation raises while two threads ask for the current response. -/
namespace RefusedFirst

def signature : RequestSignature := ⟨"r",.create,"A",.decimal (.ofCents false 1000)⟩

def methods : Fin 6 → OwnerMethod
  | 0 => .invoke .initial
  | 1 => .evaluateReinvocationAuthority
  | 2 => .invoke .reinvocation
  | 3 => .evaluateCurrentResponse
  | 4 => .evaluateCurrentResponse
  | 5 => .invoke .reinvocation

/-- The first invocation returns a refused lock, any other raises. -/
def writer (i : Fin 6) : OwnerReply .leaveWriter :=
  if i = 0 then .ok ⟨7,.notPrepared .miss (.lockNotAvailable "A") none⟩
  else .error (.runtimeError "connection lost")

def serve (i : Fin 6) : Semantics PostgresWriteSideInvocationOwner OwnerOperation
    OwnerOperation.Answer PyException := fun op o =>
  match op with
  | .admission a => some (o.admission a)
  | .enterWriter _ => some (.ok (),o)
  | .leaveWriter => some (writer i,o)
  | .publish a r => some (.ok (),o.publish a r)
  | .evaluateCurrentResponse => some (o.evaluateCurrentResponse 3 8)
  | .evaluateReinvocationAuthority => some (o.evaluateReinvocationAuthority 9)

theorem serve_step (i : Fin 6) (op : OwnerOperation) (o : PostgresWriteSideInvocationOwner)
    (reply : OwnerReply op) (o' : PostgresWriteSideInvocationOwner)
    (h : serve i op o = some (reply,o')) : OwnerStep o op reply o' := by
  have hout {x y : OwnerReply op × PostgresWriteSideInvocationOwner} (hx : some x = some y)
      (hy : OwnerStep o op x.1 x.2) : OwnerStep o op y.1 y.2 := Option.some.inj hx ▸ hy
  cases op with
  | admission a => exact hout h (.admission a)
  | enterWriter call => exact hout h (.enterWriter call)
  | leaveWriter => exact hout h (.leaveWriter (writer i))
  | publish a r => exact hout h (.publish a r)
  | evaluateCurrentResponse => exact hout h (.evaluateCurrentResponse 3 8)
  | evaluateReinvocationAuthority => exact hout h (.evaluateReinvocationAuthority 9)

def run : Option (OwnerSystem (Fin 6)) :=
  (OwnerSystem.start (.new signature ⟨_,rfl⟩) methods).drive serve [0,0,0,0,3,1,2,2,4,5,2]

def final : OwnerSystem (Fin 6) := run.get (by decide +kernel)

theorem reachable : OwnerReachable (.new signature ⟨_,rfl⟩) methods final :=
  Config.drive_reaches serve_step (Option.some_get _).symm

end RefusedFirst

theorem OwnerReachable.owner_lifecycle_refused :
    (RefusedFirst.final.trace.filter enters).length = 2 ∧
      OwnerLifecycle RefusedFirst.signature RefusedFirst.methods RefusedFirst.final.trace :=
  ⟨by decide +kernel,OwnerReachable.owner_lifecycle RefusedFirst.reachable⟩

end StreamingCompass
