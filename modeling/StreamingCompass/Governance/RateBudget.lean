import StreamingCompass.Transactional.InvocationOwner

/-! # Validation-blocked replanning

`experiments/validation_blocked_semantic_replanning`: a fixture that owns one rate under a
maximum, and a planner that turns the evidence of a blocked proposal into another proposal.
The records carry what their constructors check; the checks of types are the types.
-/
namespace StreamingCompass.RateBudget

structure RateUnitsPerSecond where
  value : ℤ
  nonnegative : 0 ≤ value
deriving DecidableEq, Repr

def RateUnitsPerSecond.new (value : ℤ) : Except PyException RateUnitsPerSecond :=
  if h : value < 0 then .error (.valueError "value must be nonnegative")
  else .ok ⟨value,not_lt.mp h⟩

inductive ConfigurationAction where | setRateBudget
deriving DecidableEq, Repr

inductive RateBudgetTarget where | fixtureService
deriving DecidableEq, Repr

structure RateBudgetProposal where
  requestId : String
  action : ConfigurationAction
  target : RateBudgetTarget
  proposedRate : RateUnitsPerSecond
  named : ¬isBlank requestId
deriving DecidableEq, Repr

def RateBudgetProposal.new (requestId : String) (action : ConfigurationAction)
    (target : RateBudgetTarget) (proposedRate : RateUnitsPerSecond) :
    Except PyException RateBudgetProposal :=
  if h : isBlank requestId then .error (.valueError "request_id must be nonblank")
  else .ok ⟨requestId,action,target,proposedRate,h⟩

structure RateBudgetContract where
  contractId : String
  contractVersion : ℤ
  target : RateBudgetTarget
  maximumRate : RateUnitsPerSecond
  named : ¬isBlank contractId
  positive : ¬contractVersion ≤ 0
deriving DecidableEq, Repr

structure AcceptedRateBudgetState where
  target : RateBudgetTarget
  configuredRate : RateUnitsPerSecond
deriving DecidableEq, Repr

/-- The evaluated objects; verdict and enforcement action are the constructor of the outcome. -/
structure RateBudgetValidationAllowed where
  proposal : PyObject RateBudgetProposal
  contract : RateBudgetContract
deriving DecidableEq, Repr

structure RateBudgetRejectionEvidence where
  proposal : PyObject RateBudgetProposal
  contract : RateBudgetContract
deriving DecidableEq, Repr

inductive RateBudgetDecision where
  | allowed (d : RateBudgetValidationAllowed)
  | rejected (e : RateBudgetRejectionEvidence)
deriving DecidableEq, Repr

def validateRateBudget (proposal : PyObject RateBudgetProposal) (contract : RateBudgetContract) :
    Except PyException RateBudgetDecision :=
  if proposal.value.target ≠ contract.target then
    .error (.valueError "proposal target must match contract target")
  else if proposal.value.proposedRate.value ≤ contract.maximumRate.value then
    .ok (.allowed ⟨proposal,contract⟩)
  else .ok (.rejected ⟨proposal,contract⟩)

theorem validateRateBudget_allowed {proposal : PyObject RateBudgetProposal}
    {contract : RateBudgetContract} {d : RateBudgetValidationAllowed} :
    validateRateBudget proposal contract = .ok (.allowed d) ↔ d = ⟨proposal,contract⟩ ∧
      proposal.value.target = contract.target ∧
      proposal.value.proposedRate.value ≤ contract.maximumRate.value := by
  unfold validateRateBudget
  split
  · rename_i h
    refine iff_of_false (fun he => (by cases he)) ?_
    rintro ⟨-,ht,-⟩
    exact h ht
  · rename_i ht
    split
    · rename_i hr
      simp [not_ne_iff.mp ht, hr, eq_comm]
    · rename_i hr
      simp [hr]

/-- The accepted state is the evaluated effect, as the constructor checks. -/
structure AcceptedSubmission where
  decision : RateBudgetValidationAllowed
  acceptedState : AcceptedRateBudgetState
  exact : acceptedState = ⟨decision.proposal.value.target,decision.proposal.value.proposedRate⟩

inductive Submission where
  | accepted (s : AcceptedSubmission)
  | blocked (e : RateBudgetRejectionEvidence)

/-- The contract and the accepted state, within the contract. -/
structure GovernedRateBudgetFixture where
  contract : RateBudgetContract
  acceptedState : AcceptedRateBudgetState
  target : acceptedState.target = contract.target
  admissible : acceptedState.configuredRate.value ≤ contract.maximumRate.value

namespace GovernedRateBudgetFixture

def new (contract : RateBudgetContract) (initialState : AcceptedRateBudgetState) :
    Except PyException GovernedRateBudgetFixture :=
  if ht : initialState.target ≠ contract.target then
    .error (.valueError "initial state target must match contract target")
  else if hr : initialState.configuredRate.value > contract.maximumRate.value then
    .error (.valueError "initial configured rate must not exceed maximum")
  else .ok ⟨contract,initialState,not_ne_iff.mp ht,not_lt.mp hr⟩

/-- BLOCK returns the evidence and leaves the state; ALLOW installs the evaluated effect. -/
def submit (f : GovernedRateBudgetFixture) (proposal : PyObject RateBudgetProposal) :
    Except PyException Submission × GovernedRateBudgetFixture :=
  match h : validateRateBudget proposal f.contract with
  | .error e => (.error e,f)
  | .ok (.rejected e) => (.ok (.blocked e),f)
  | .ok (.allowed d) =>
    (.ok (.accepted ⟨d,⟨d.proposal.value.target,d.proposal.value.proposedRate⟩,rfl⟩),
      {f with
        acceptedState := ⟨d.proposal.value.target,d.proposal.value.proposedRate⟩
        target := by
          obtain ⟨rfl,ht,-⟩ := validateRateBudget_allowed.mp h
          exact ht
        admissible := by
          obtain ⟨rfl,-,hr⟩ := validateRateBudget_allowed.mp h
          exact hr})

end GovernedRateBudgetFixture

/-! ## The planner -/

inductive RateBudgetRepairPolicy where | useObservedMaximum | reduceObservedRateByOneThird
deriving DecidableEq, Repr

/-- The rate a policy proposes in place of a rejected one. -/
def RateBudgetRepairPolicy.revisedRate (policy : RateBudgetRepairPolicy)
    (original maximum : RateUnitsPerSecond) : Except PyException RateUnitsPerSecond :=
  match policy with
  | .useObservedMaximum => .ok maximum
  | .reduceObservedRateByOneThird => RateUnitsPerSecond.new (2*original.value/3)

def planRateBudgetRepair (blocked : RateBudgetRejectionEvidence)
    (originalProposal : PyObject RateBudgetProposal) (newRequestId : String)
    (policy : RateBudgetRepairPolicy) : Except PyException RateBudgetProposal :=
  if blocked.proposal ≠ originalProposal then
    .error (.valueError "original_proposal must be the exact rejected proposal")
  else
    let originalRate := blocked.proposal.value.proposedRate
    let maximumRate := blocked.contract.maximumRate
    if originalRate.value ≤ maximumRate.value then
      .error (.valueError "rejection proposed rate must exceed its retained maximum")
    else if newRequestId = originalProposal.value.requestId then
      .error (.valueError "new_request_id must differ from the original request ID")
    else do
      let revisedRate ← policy.revisedRate originalRate maximumRate
      if revisedRate = originalRate then .error (.valueError "repair must change the proposed rate")
      else
        RateBudgetProposal.new newRequestId originalProposal.value.action
          originalProposal.value.target revisedRate

/-! ## Replanning -/

/-- A proposal and the ones planned after it, each from the block of the one before. The
fixture may have served others in between: only its contract stays. -/
inductive Replanned (contract : RateBudgetContract) (p : PyObject RateBudgetProposal) :
    ℕ → PyObject RateBudgetProposal → Prop where
  | proposed : Replanned contract p 0 p
  | repaired {n : ℕ} {q : PyObject RateBudgetProposal} {f : GovernedRateBudgetFixture}
    {e : RateBudgetRejectionEvidence} {newRequestId : String} {policy : RateBudgetRepairPolicy}
    {r : RateBudgetProposal} (address : ℕ) (earlier : Replanned contract p n q)
    (governed : f.contract = contract) (blocked : (f.submit q).1 = .ok (.blocked e))
    (plans : planRateBudgetRepair e q newRequestId policy = .ok r) :
    Replanned contract p (n+1) ⟨address,r⟩

/-- A proposal is accepted as it is or blocked with evidence of itself, by the maximum alone. -/
theorem GovernedRateBudgetFixture.submit_cases (f : GovernedRateBudgetFixture)
    (p : PyObject RateBudgetProposal) :
    (p.value.proposedRate.value ≤ f.contract.maximumRate.value ∧ ∃ s f',
      f.submit p = (.ok (.accepted s),f') ∧ f'.contract = f.contract ∧
      f'.acceptedState = ⟨p.value.target,p.value.proposedRate⟩) ∨
    (f.contract.maximumRate.value < p.value.proposedRate.value ∧
      f.submit p = (.ok (.blocked ⟨p,f.contract⟩),f)) := by
  have htarget : p.value.target = f.contract.target := by
    cases p.value.target
    cases f.contract.target
    rfl
  unfold submit
  split
  · rename_i e he
    rw [validateRateBudget, if_neg (not_not.mpr htarget)] at he
    split at he <;> cases he
  · rename_i e he
    rw [validateRateBudget, if_neg (not_not.mpr htarget)] at he
    split at he
    · cases he
    · rename_i hr
      cases he
      exact .inr ⟨not_le.mp hr,rfl⟩
  · rename_i d hd
    obtain ⟨rfl,-,hr⟩ := validateRateBudget_allowed.mp hd
    exact .inl ⟨hr,_,_,rfl,rfl,rfl⟩

/-- What a repair of a genuine block proposes. -/
structure Repairs (contract : RateBudgetContract) (original : RateBudgetProposal) (newRequestId : String)
    (policy : RateBudgetRepairPolicy) (r : RateBudgetProposal) : Prop where
  requestId : r.requestId = newRequestId
  action : r.action = original.action
  target : r.target = original.target
  lower : r.proposedRate.value < original.proposedRate.value
  maximum : policy = .useObservedMaximum → r.proposedRate = contract.maximumRate
  reduced : policy = .reduceObservedRateByOneThird →
    r.proposedRate.value = 2*original.proposedRate.value/3

theorem RateBudgetRepairPolicy.revisedRate_eq {original maximum : RateUnitsPerSecond}
    (hblocked : maximum.value < original.value) (policy : RateBudgetRepairPolicy) :
    ∃ revised, policy.revisedRate original maximum = .ok revised ∧ revised.value < original.value ∧
      (policy = .useObservedMaximum → revised = maximum) ∧
      (policy = .reduceObservedRateByOneThird → revised.value = 2*original.value/3) := by
  have hmaximum := maximum.nonnegative
  cases policy with
  | useObservedMaximum =>
    exact ⟨maximum,rfl,hblocked,fun _ => rfl,fun h => (by cases h)⟩
  | reduceObservedRateByOneThird =>
    have hrate : ¬2*original.value/3 < 0 := by omega
    have hlower : 2*original.value/3 < original.value := by omega
    exact ⟨⟨2*original.value/3,not_lt.mp hrate⟩,dif_neg hrate,hlower,fun h => (by cases h),fun _ => rfl⟩

/-- The planner repairs every genuine block for every new request id, and for no other. -/
theorem planRateBudgetRepair_blocked {contract : RateBudgetContract} {q : PyObject RateBudgetProposal}
    (hblocked : contract.maximumRate.value < q.value.proposedRate.value) (newRequestId : String)
    (policy : RateBudgetRepairPolicy) :
    (∀ r, planRateBudgetRepair ⟨q,contract⟩ q newRequestId policy = .ok r →
      Repairs contract q.value newRequestId policy r) ∧
    ((∃ r, planRateBudgetRepair ⟨q,contract⟩ q newRequestId policy = .ok r) ↔
      isBlank newRequestId = false ∧ newRequestId ≠ q.value.requestId) := by
  obtain ⟨revised,hrevised,hlower,hmaximum,hreduced⟩ := policy.revisedRate_eq hblocked
  have hne : revised ≠ q.value.proposedRate := by
    rintro rfl
    exact absurd hlower (lt_irrefl _)
  unfold planRateBudgetRepair
  rw [if_neg (not_not.mpr rfl)]
  simp only [if_neg (not_le.mpr hblocked)]
  by_cases hused : newRequestId = q.value.requestId
  · simp [hused]
  · rw [if_neg hused, hrevised, ok_bind, if_neg hne]
    cases hblank : isBlank newRequestId with
    | true => simp [RateBudgetProposal.new, hblank]
    | false =>
      simp only [RateBudgetProposal.new, hblank, Bool.false_eq_true, dite_false]
      refine ⟨fun r hr => ?_,iff_of_true ⟨_,rfl⟩ ⟨trivial,hused⟩⟩
      obtain rfl := Except.ok.inj hr
      exact ⟨rfl,rfl,rfl,hlower,hmaximum,hreduced⟩

variable {contract : RateBudgetContract} {p q : PyObject RateBudgetProposal} {n : ℕ}

/-- Where the rate of a replanned proposal stands: admissible, or below its geometric bound,
and after a repair no more than a third under the maximum. -/
theorem Replanned.rate (h : Replanned contract p n q) :
    (q.value.proposedRate.value ≤ contract.maximumRate.value ∨
      3^n*q.value.proposedRate.value ≤ 2^n*p.value.proposedRate.value) ∧
    (0 < n → 2*(contract.maximumRate.value+1)/3 ≤ q.value.proposedRate.value) := by
  induction h with
  | proposed => exact ⟨.inr le_rfl,fun h => absurd h (lt_irrefl 0)⟩
  | @repaired n q f e newRequestId policy r address earlier governed blocked plans ih =>
    have hmaximum := contract.maximumRate.nonnegative
    obtain ⟨-,s,f',hs,-⟩ | ⟨hblocked,hs⟩ := f.submit_cases q
    · rw [hs] at blocked
      cases blocked
    rw [hs] at blocked
    cases blocked
    rw [governed] at hblocked plans
    have hrepairs := (planRateBudgetRepair_blocked hblocked newRequestId policy).1 r plans
    cases policy with
    | useObservedMaximum =>
      simp only [hrepairs.maximum rfl, le_refl, true_or, true_and]
      omega
    | reduceObservedRateByOneThird =>
      have hgeometric := ih.1.resolve_left (not_le.mpr hblocked)
      have hrate := hrepairs.reduced rfl
      refine ⟨.inr ?_,fun _ => by rw [hrate]; omega⟩
      have hthird : 3*r.proposedRate.value ≤ 2*q.value.proposedRate.value := by omega
      calc 3^(n+1)*r.proposedRate.value = 3^n*(3*r.proposedRate.value) := by ring
        _ ≤ 3^n*(2*q.value.proposedRate.value) := by gcongr
        _ = 2*(3^n*q.value.proposedRate.value) := by ring
        _ ≤ 2*(2^n*p.value.proposedRate.value) := by gcongr
        _ = 2^(n+1)*p.value.proposedRate.value := by ring

/-- Replanning a rate until it is accepted: under either policy, in any mixture, a blocked
proposal can always be repaired under a fresh name, a proposal still blocked after `n`
repairs lies above `(3/2)^n` times the maximum to begin with, and what is accepted is
installed as it is, not more than a third below the maximum if it was repaired. -/
theorem replanning (h : Replanned contract p n q) {f : GovernedRateBudgetFixture}
    (hf : f.contract = contract) :
    (∃ s f', f.submit q = (.ok (.accepted s),f') ∧ f'.contract = contract ∧
      f'.acceptedState = ⟨q.value.target,q.value.proposedRate⟩ ∧
      (0 < n → 2*(contract.maximumRate.value+1)/3 ≤ f'.acceptedState.configuredRate.value)) ∨
    (∃ e, f.submit q = (.ok (.blocked e),f) ∧
      3^n*(contract.maximumRate.value+1) ≤ 2^n*p.value.proposedRate.value ∧
      ∀ newRequestId policy,
        ((∃ r, planRateBudgetRepair e q newRequestId policy = .ok r) ↔
          isBlank newRequestId = false ∧ newRequestId ≠ q.value.requestId) ∧
        ∀ r, planRateBudgetRepair e q newRequestId policy = .ok r →
          Repairs contract q.value newRequestId policy r) := by
  obtain ⟨hrate,hlost⟩ := h.rate
  subst hf
  rcases f.submit_cases q with ⟨-,s,f',hs,hcontract,hstate⟩ | ⟨hblocked,hs⟩
  · left
    refine ⟨s,f',hs,hcontract,hstate,fun hn => ?_⟩
    rw [hstate]
    exact hlost hn
  · right
    refine ⟨_,hs,?_,fun newRequestId policy => ?_⟩
    · have hgeometric := hrate.resolve_left (not_le.mpr hblocked)
      calc 3^n*(f.contract.maximumRate.value+1) ≤ 3^n*q.value.proposedRate.value := by
            gcongr
            omega
        _ ≤ 2^n*p.value.proposedRate.value := hgeometric
    · obtain ⟨hrepairs,hplans⟩ := planRateBudgetRepair_blocked hblocked newRequestId policy
      exact ⟨hplans,hrepairs⟩

/-! A rate of 24 under a maximum of 10, reduced by a third to 16 and then to the maximum. -/
namespace RepairedTwice

def rate (value : ℕ) : RateUnitsPerSecond := ⟨value,Int.natCast_nonneg value⟩

def edition : RateBudgetContract := ⟨"rate-budget",1,.fixtureService,rate 10,by decide,by decide⟩
def fixture : GovernedRateBudgetFixture := ⟨edition,⟨.fixtureService,rate 5⟩,rfl,by decide⟩

def first : PyObject RateBudgetProposal := ⟨0,⟨"r-0",.setRateBudget,.fixtureService,rate 24,by decide⟩⟩
def second : PyObject RateBudgetProposal := ⟨1,⟨"r-1",.setRateBudget,.fixtureService,rate 16,by decide⟩⟩
def third : PyObject RateBudgetProposal := ⟨2,⟨"r-2",.setRateBudget,.fixtureService,rate 10,by decide⟩⟩

theorem replanned : Replanned edition first 2 third := by
  have hfirst : planRateBudgetRepair ⟨first,edition⟩ first "r-1" .reduceObservedRateByOneThird =
      .ok second.value := rfl
  have hsecond : planRateBudgetRepair ⟨second,edition⟩ second "r-2" .useObservedMaximum =
      .ok third.value := rfl
  have h : Replanned edition first 1 second := .repaired (f := fixture) 1 .proposed rfl rfl hfirst
  exact .repaired (f := fixture) 2 h rfl rfl hsecond

end RepairedTwice

theorem replanning_repaired : ∃ s f', RepairedTwice.fixture.submit RepairedTwice.third =
    (.ok (.accepted s),f') ∧ f'.acceptedState.configuredRate.value = 10 := by
  rcases replanning RepairedTwice.replanned (f := RepairedTwice.fixture) rfl with
    ⟨s,f',hs,-,hstate,-⟩ | ⟨e,-,hbound,-⟩
  · exact ⟨s,f',hs,by rw [hstate]; rfl⟩
  · exact absurd hbound (by decide)

end StreamingCompass.RateBudget
