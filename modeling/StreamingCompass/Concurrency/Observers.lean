import StreamingCompass.Concurrency.Acceptance

/-! # Observers in a run

Traces and measurements of some invocations change nothing in any run: replacing the
variant of every invocation gives a run with the same statements, the same replies and the
same primary results, whatever the operations do and whatever the clocks read.
-/
namespace StreamingCompass
open Interleaving

/-- The variant without trace and measurement. -/
def WriteInvocation.plain (v : WriteInvocation) : WriteInvocation :=
  {v with traced := false, clock := none}

def Invocation.plain : Invocation → Invocation
  | .write v => .write v.plain
  | .project workerName => .project workerName

/-- A result without what its observers add. -/
def InvocationResult.primary : InvocationResult →
    Except PyException PostgresWriteSideResult ⊕ Except PyException PostgresProjectionWorkerResult
  | .delivered r => .inl (r.map (fun d => d.producerValue.result))
  | .projected r => .inr r

theorem WriteInvocation.primary_plain (v : WriteInvocation) : v.plain.primary = v.primary := rfl

theorem Invocation.sim_of_plain {a b : Invocation} (h : a.plain = b.plain) :
    Program.Sim (fun r r' => r.primary = r'.primary) a.program b.program := by
  have hwrite (v : WriteInvocation) : Program.Sim (fun r r' => r.primary = .inl r')
      (Invocation.write v).program v.primary :=
    v.program_primary.bind_left (fun r _ hr => ⟨_,rfl,congrArg Sum.inl hr⟩)
  cases a with
  | write v =>
    cases b with
    | write u =>
      have hprimary : v.primary = u.primary := by
        rw [← v.primary_plain, ← u.primary_plain, Invocation.write.inj h]
      refine ((hwrite v).join (hprimary ▸ hwrite u)).mono (fun r r' hr => ?_)
      obtain ⟨p,h1,h2⟩ := hr
      exact h1.trans h2.symm
    | project _ => cases h
  | project workerName =>
    cases b with
    | write u => cases h
    | project workerName' =>
      obtain rfl := Invocation.project.inj h
      exact Program.Sim.refl (fun r => (rfl : InvocationResult.primary r = r.primary)) _

section Runs
variable {ι World : Type} [DecidableEq ι] {M : Machine ι World Operation Operation.Answer PyException}

/-- Every invocation about to start in some world. -/
def launch (w : World) (invocations : ι → Invocation) :
    Config ι World Operation Operation.Answer PyException InvocationResult :=
  ⟨w,fun i => some (invocations i).program,[]⟩

/-- The primary result or exception of a finished invocation. -/
def primaryResult (c : Config ι World Operation Operation.Answer PyException InvocationResult) (i : ι) :
    Option (Except PyException PostgresWriteSideResult ⊕
      Except PyException PostgresProjectionWorkerResult) :=
  match c.program i with
  | some (.done r) => some r.primary
  | _ => none

/-- Whatever the operations do, every run of some invocations is one of any other variants of
them, with the same world, statements and replies and the same results and exceptions. -/
theorem observer_noninterference {w : World} {invocations invocations' : ι → Invocation}
    (hsame : ∀ i, (invocations i).plain = (invocations' i).plain)
    {c : Config ι World Operation Operation.Answer PyException InvocationResult}
    (h : Reaches M (launch w invocations) c) :
    ∃ c', Reaches M (launch w invocations') c' ∧ c'.world = c.world ∧ c'.trace = c.trace ∧
      (∀ i, (c'.program i).isSome = (c.program i).isSome) ∧
      ∀ i, primaryResult c' i = primaryResult c i := by
  have hstart : (launch w invocations).Lockstep (fun r r' => r.primary = r'.primary)
      (launch w invocations') :=
    ⟨rfl,rfl,fun i => .some (Invocation.sim_of_plain (hsame i))⟩
  obtain ⟨c',hr,hlock⟩ := h.lockstep hstart
  refine ⟨c',hr,hlock.world,hlock.trace,fun i => ?_,fun i => ?_⟩
  all_goals
    have hi := hlock.programs i
    try unfold primaryResult
    generalize c.program i = p at hi
    generalize c'.program i = p' at hi
  · cases hi <;> rfl
  · cases hi with
    | none => rfl
    | some hsim =>
      cases hsim with
      | done related => exact congrArg some related.symm
      | call related => rfl

end Runs

theorem observer_noninterference_racing :
    ∃ c', Reachable RacingCreations.server (fun _ => False) .empty
        (fun i => (RacingCreations.racers i).plain) c' ∧
      c'.world.tables = RacingCreations.final.world.tables ∧
      ∀ i, primaryResult c' i = primaryResult RacingCreations.final i := by
  have hplain (v : Invocation) : v.plain = v.plain.plain := by cases v <;> rfl
  obtain ⟨c',hr,hworld,-,-,hresult⟩ :=
    observer_noninterference (fun i => hplain (RacingCreations.racers i)) RacingCreations.reachable
  exact ⟨c',hr,congrArg World.tables hworld,hresult⟩

end StreamingCompass
