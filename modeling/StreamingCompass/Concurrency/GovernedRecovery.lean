import StreamingCompass.Concurrency.OwnerLifecycle
import StreamingCompass.Concurrency.StaleWrites
import StreamingCompass.Governance.Recovery
import StreamingCompass.Interleaving.Linearization
import StreamingCompass.Interleaving.Simulation

/-! # Governed recovery under interleaving

Executors of any construction share one invocation owner with direct calls. What an
executor refuses is never performed, and what it lets through is still the owner's to
authorize, once.
-/
namespace StreamingCompass
open Interleaving

variable {ι : Type} [DecidableEq ι] {s : RequestSignature} {calls : ι → GovernedCall}
  {c : OwnerSystem ι} {i : ι}

def OwnerSystem.governed (o : PostgresWriteSideInvocationOwner) (calls : ι → GovernedCall) :
    OwnerSystem ι := ⟨o,fun i => some ((calls i).program o.requestSignature),[]⟩

/-- The configurations of the runs of governed calls on an owner. -/
def GovernedReachable (o : PostgresWriteSideInvocationOwner) (calls : ι → GovernedCall)
    (c : OwnerSystem ι) : Prop := Reaches (ownerMachine ι) (OwnerSystem.governed o calls) c

/-- The owner's methods behind some calls. -/
def owned (calls : ι → GovernedCall) (i : ι) : OwnerMethod := (calls i).owned

namespace GovernedReachable

/-- Refusals apart, governed calls run as their owner's methods. -/
theorem owned {o : PostgresWriteSideInvocationOwner} (h : GovernedReachable o calls c) :
    ∃ c', OwnerReachable o (owned calls) c' ∧ c'.world = c.world ∧ c'.trace = c.trace := by
  obtain ⟨c',hr,hworld,htrace,-⟩ := Reaches.of_ended
    (OwnerSystem.start o (StreamingCompass.owned calls)).program h (fun i => by
      rcases (calls i).program_cases o.requestSignature with h | ⟨out,h⟩
      · exact .inl (congrArg some h)
      · exact .inr ⟨out,congrArg some h⟩)
  exact ⟨c',hr,hworld,htrace⟩

theorem refused {o : PostgresWriteSideInvocationOwner} (h : GovernedReachable o calls c)
    {x : ControlledExecutor} {proposal : RecoveryProposal} {e : PyException}
    (hcall : calls i = .execute x proposal) (he : x.check proposal = .error e) :
    c.program i = some (.done (.result (.error e))) ∧ c.log i = [] := by
  have hdone : (OwnerSystem.governed o calls).program i = some (.done (.result (.error e))) := by
    simp only [OwnerSystem.governed, hcall, GovernedCall.program, ControlledExecutor.execute, he]
  refine ⟨?_,Reaches.log_of_done h hdone⟩
  exact Reaches.invariant (fun c : OwnerSystem ι => c.program i = some (.done (.result (.error e))))
    hdone (fun _ _ _ hp hs => hs.done hp) h

end GovernedReachable

/-! The first invocation was refused the lock. An executor without authority is refused, one
with it performs the second invocation, which raises, and a third finds authority spent. -/
namespace GovernedFirst

local instance neZero_six : NeZero 6 := ⟨Nat.succ_ne_zero 5⟩

theorem amountDecimal : ∃ amount, RefusedFirst.signature.amount = .decimal amount := ⟨_,rfl⟩

def proposal : RecoveryProposal :=
  ⟨RefusedFirst.signature,⟨7,.notPrepared .miss (.lockNotAvailable "A") none⟩,
    .oneFreshSameRequestInvocation⟩

def executor (assessment : ReinvocationAuthorityEvaluation) : ControlledExecutor :=
  ⟨RefusedFirst.signature,proposal.sourceResult,assessment⟩

def attempts : Fin 6 → GovernedCall
  | 0 => .method (.invoke .initial)
  | 1 => .method .evaluateReinvocationAuthority
  | 2 => .execute (executor (.authorization RefusedFirst.signature)) proposal
  | 3 => .execute (executor (.noAuthority RefusedFirst.signature "none issued")) proposal
  | 4 => .execute (executor (.authorization RefusedFirst.signature)) proposal
  | 5 => .method (.invoke .reinvocation)

def final : OwnerSystem (Fin 6) :=
  ((OwnerSystem.governed (.new RefusedFirst.signature amountDecimal) attempts).drive RefusedFirst.serve
    [0,0,0,0,1,2,4,2,2,5]).get (by decide +kernel)

theorem reachable : GovernedReachable (.new RefusedFirst.signature amountDecimal) attempts final :=
  Config.drive_reaches RefusedFirst.serve_step (Option.some_get _).symm

end GovernedFirst

theorem normalizeMoney_eq_self {d amount : Decimal} (h : normalizeMoney (.decimal d) = .ok amount) :
    d.eq d = true := by
  cases d with
  | finite negative c e => simp [Decimal.eq]
  | infinity negative => simp [Decimal.eq]
  | nan => cases h

theorem Validated.eq_self {v : WriteInvocation} {log : SqlLog} {candidate : Candidate}
    (h : Validated v.writeSide v.signature log candidate) {amount : Decimal}
    (hamount : v.signature.amount = .decimal amount) : v.signature.eq v.signature = true := by
  obtain ⟨rows,-,-,hc⟩ := h
  obtain ⟨a,-,hbuild,-,-⟩ := WriteSide.candidateOf_eq_ok hc
  have hpositive := (handledEvent hbuild).positive
  rw [hamount] at hpositive
  have hself := normalizeMoney_eq_self (ensurePositiveMoney_eq_ok.mp hpositive).1
  simp [RequestSignature.eq, MoneyInput.eq, hamount, hself]

section WriteSide
variable {ι : Type} [DecidableEq ι] [Fintype ι] {D : Database ι} {faulty : ι → Prop}
  {invocations : ι → Invocation} {c : System ι} {i : ι} {v : WriteInvocation}

theorem StaleReports.driverErrors (hr : StaleReports D i c) : DriverErrors (c.log i) := by
  intro op expected observed hop hmem
  obtain ⟨x,hx,hi,heq⟩ := mem_ownLog.mp hmem
  obtain ⟨rfl,hreply⟩ := Sigma.mk.inj heq
  have hreply := eq_of_heq hreply
  obtain ⟨position,hruns⟩ := hr x (List.mem_filter.mpr ⟨hx,by simpa using hi⟩) _ hreply rfl
  rw [hreply] at hruns
  exact exec_ne_mismatch hop hruns

end WriteSide

end StreamingCompass
