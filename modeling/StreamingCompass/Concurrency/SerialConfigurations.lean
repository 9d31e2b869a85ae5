import StreamingCompass.Concurrency.SerialRefinement

/-! # Placements and gates one command at a time

The four configurations of the write side, validation before or in the transaction and an
optimistic or a pessimistic gate, do the same with a sequence of commands nobody else's
interleave with: each does what the one store does.
-/
namespace StreamingCompass
open Interleaving

/-- One command under one validation runtime, in any configuration, traced and measured or not. -/
structure SameCommand (v v' : WriteInvocation) : Prop where
  signature : v.signature = v'.signature
  runtime : v.invokeValidation = v'.invokeValidation

/-- What a caller is told, but for the identities and the times drawn. -/
def PostgresWriteSideResult.observed (r : PostgresWriteSideResult) :
    PostgresWriteSideOutcome × Option OrderEvent × IdempotencyDecision :=
  (r.outcome,r.acceptedEvent.map OrderEvent.forget,r.idempotencyDecision.forget)

def IdempotencyRow.forget (row : IdempotencyRow) : IdempotencyRow := {row with acceptedEventId := ""}

/-- What the tables keep for good, but for the identities and the times drawn. -/
def Tables.durableHistoryForget (t : Tables) : List OrderEvent × List IdempotencyRow :=
  (t.durableHistory.1.map OrderEvent.forget,t.durableHistory.2.map IdempotencyRow.forget)

/-! ## What commands add -/

namespace Tables.Extends
variable {t u u' : Tables} {added added' : List (OrderEvent × IdempotencyRow)}

theorem durableHistory_eq (h : t.Extends u added) (h' : t.Extends u' added) :
    u.durableHistory = u'.durableHistory :=
  Prod.ext (h.events.trans h'.events.symm) (h.records.trans h'.records.symm)

theorem durableHistoryForget_eq (h : t.Extends u added) (h' : t.Extends u' added')
    (hsame : added.map (Prod.map OrderEvent.forget IdempotencyRow.forget) =
      added'.map (Prod.map OrderEvent.forget IdempotencyRow.forget)) :
    u.durableHistoryForget = u'.durableHistoryForget := by
  have hevents := congrArg (List.map Prod.fst) hsame
  have hrecords := congrArg (List.map Prod.snd) hsame
  simp only [List.map_map, Function.comp_def, Prod.map_fst, Prod.map_snd] at hevents hrecords
  refine Prod.ext ?_ ?_
  · simp only [durableHistoryForget, h.events, h'.events, List.map_append, List.map_map, Function.comp_def,
      hevents]
  · simp only [durableHistoryForget, h.records, h'.records, List.map_append, List.map_map, Function.comp_def,
      hrecords]

end Tables.Extends

/-- A record shows of its event no more than forgetting keeps, and its id. -/
theorem PostgresIdempotencyStore.recordRow_forget {s : RequestSignature} {e e' : OrderEvent}
    (h : e.forget = e'.forget) : (recordRow s e).toOption.map IdempotencyRow.forget =
      (recordRow s e').toOption.map IdempotencyRow.forget := by
  have hsequence : e.sequence = e'.sequence := show e.forget.sequence = e'.forget.sequence by rw [h]
  simp only [recordRow, recordParameters_eq]
  cases normalizeMoney s.amount with
  | error err => rfl
  | ok d =>
    simp only [Except.map, ok_bind]
    cases Numeric.ofDecimal d with
    | error err => rfl
    | ok amount =>
      simp only [ok_bind, Except.toOption, Option.map_some, IdempotencyRow.forget, idempotencyRow, hsequence]

theorem PostgresWriteSideResult.committed_forget {r r' : PostgresWriteSideResult}
    (h : r.observed = r'.observed) :
    r.committed.map OrderEvent.forget = r'.committed.map OrderEvent.forget := by
  obtain ⟨houtcome,hrest⟩ := Prod.mk.inj h
  obtain ⟨hevent,-⟩ := Prod.mk.inj hrest
  unfold committed
  rw [houtcome]
  split
  · exact hevent
  · rfl

namespace WriteInvocation
variable {v v' : WriteInvocation} {vs vs' : List WriteInvocation}
  {x x' : Except PyException PostgresWriteSideResult}
  {xs xs' : List (Except PyException PostgresWriteSideResult)}

theorem added_congr (h : SameCommand v v') (x : Except PyException PostgresWriteSideResult) :
    v.added x = v'.added x := by
  cases x with
  | error err => rfl
  | ok r => simp only [added, h.signature]

theorem addedBy_congr (h : List.Forall₂ SameCommand vs vs')
    (xs : List (Except PyException PostgresWriteSideResult)) : addedBy vs xs = addedBy vs' xs := by
  induction h generalizing xs with
  | nil => rfl
  | cons hsame hrest ih =>
    cases xs with
    | nil => rfl
    | cons x xs =>
      simp only [addedBy, List.zipWith_cons_cons, List.flatten_cons, added_congr hsame] at ih ⊢
      rw [ih]

theorem added_forget (h : SameCommand v v') (hx : x.map PostgresWriteSideResult.observed =
      x'.map PostgresWriteSideResult.observed) :
    (v.added x).map (Prod.map OrderEvent.forget IdempotencyRow.forget) =
      (v'.added x').map (Prod.map OrderEvent.forget IdempotencyRow.forget) := by
  cases x with
  | error err =>
    cases x' with
    | error err' => rfl
    | ok r' => cases hx
  | ok r =>
    cases x' with
    | error err' => cases hx
    | ok r' =>
      have hcommitted := PostgresWriteSideResult.committed_forget (Except.ok.inj hx)
      simp only [added, ← h.signature]
      cases hr : r.committed with
      | none =>
        rw [hr, Option.map_none, eq_comm, Option.map_eq_none_iff] at hcommitted
        rw [hcommitted]
      | some e =>
        rw [hr, Option.map_some, eq_comm, Option.map_eq_some_iff] at hcommitted
        obtain ⟨e',hr',hevent⟩ := hcommitted
        have hrow := PostgresIdempotencyStore.recordRow_forget (s := v.signature) hevent
        have hpair (e : OrderEvent) :
            Prod.map OrderEvent.forget IdempotencyRow.forget ∘ (fun row => (e,row)) =
              (fun row => (e.forget,row)) ∘ IdempotencyRow.forget := rfl
        rw [hr', Option.bind_some, Option.bind_some, ← Option.toList_map, ← Option.toList_map, Option.map_map,
          Option.map_map, hpair, hpair, ← Option.map_map, ← Option.map_map, hrow, hevent]

theorem addedBy_forget (h : List.Forall₂ SameCommand vs vs')
    (hx : xs.map (Except.map PostgresWriteSideResult.observed) =
      xs'.map (Except.map PostgresWriteSideResult.observed)) :
    (addedBy vs xs).map (Prod.map OrderEvent.forget IdempotencyRow.forget) =
      (addedBy vs' xs').map (Prod.map OrderEvent.forget IdempotencyRow.forget) := by
  induction h generalizing xs xs' with
  | nil => rfl
  | cons hsame hrest ih =>
    cases xs with
    | nil =>
      obtain rfl := List.map_eq_nil_iff.mp hx.symm
      rfl
    | cons x xs =>
      cases xs' with
      | nil => cases hx
      | cons x' xs' =>
        rw [List.map_cons, List.map_cons, List.cons.injEq] at hx
        have hadded := ih hx.2
        simp only [addedBy, List.zipWith_cons_cons, List.flatten_cons, List.map_append] at hadded ⊢
        rw [added_forget hsame hx.1, hadded]

end WriteInvocation

/-! ## What commands are answered -/

namespace OrderRegistry
variable {r r' : OrderRegistry} {v v' : WriteInvocation} {mode : ValidationMode}

/-- The store does not look at the configuration. -/
theorem serveStored_congr (h : SameCommand v v') (hdraw : v.draw = v'.draw) (r : OrderRegistry) :
    r.serveStored v = r.serveStored v' := by
  obtain ⟨placement,gate,runtime,signature,draw,traced,clock⟩ := v
  obtain ⟨placement',gate',runtime',signature',draw',traced',clock'⟩ := v'
  obtain ⟨rfl,rfl⟩ := h
  obtain rfl := hdraw
  rfl

theorem serveUnrecorded_forget (hr : r.forget = r'.forget) (h : SameCommand v v')
    (hv : v.invokeValidation = invokeValidation mode) :
    (r.serveUnrecorded v).1.map PostgresWriteSideResult.observed =
        (r'.serveUnrecorded v').1.map PostgresWriteSideResult.observed ∧
      (r.serveUnrecorded v).2.forget = (r'.serveUnrecorded v').2.forget := by
  have hv' : v'.invokeValidation = invokeValidation mode := h.runtime ▸ hv
  cases ho : hasNul v.signature.orderId with
  | true =>
    have ho' : hasNul v'.signature.orderId = true := h.signature ▸ ho
    rw [serveUnrecorded, if_pos ho, serveUnrecorded, if_pos ho']
    exact ⟨rfl,hr⟩
  | false =>
    have ho' : hasNul v'.signature.orderId = false := h.signature ▸ ho
    have hattempt : (r.attempt v.signature v.draw).map OrderEvent.forget =
        (r'.attempt v'.signature v'.draw).map OrderEvent.forget := by
      rw [r.attempt_forget v.signature v.draw v.draw, hr, h.signature,
        ← r'.attempt_forget v'.signature v'.draw v.draw]
    cases hleft : r.attempt v.signature v.draw with
    | error err =>
      rw [WriteInvocation.serveUnrecorded_refused ho hleft]
      cases hright : r'.attempt v'.signature v'.draw with
      | error err' =>
        rw [WriteInvocation.serveUnrecorded_refused ho' hright]
        rw [hleft, hright] at hattempt
        obtain rfl := Except.error.inj hattempt
        exact ⟨rfl,hr⟩
      | ok e' =>
        rw [hleft, hright] at hattempt
        cases hattempt
    | ok e =>
      cases hright : r'.attempt v'.signature v'.draw with
      | error err' =>
        rw [hleft, hright] at hattempt
        cases hattempt
      | ok e' =>
        rw [hleft, hright] at hattempt
        have hsame : e.forget = e'.forget := Except.ok.inj hattempt
        have hamount : e.amount = e'.amount :=
          show e.forget.amount = e'.forget.amount by rw [hsame]
        obtain ⟨c,rfl,hserve⟩ := WriteInvocation.serveUnrecorded_handled hv ho hleft
        obtain ⟨c',rfl,hserve'⟩ := WriteInvocation.serveUnrecorded_handled hv' ho' hright
        rw [hserve, hserve', hamount, h.signature]
        cases Numeric.ofDecimal c'.event.amount with
        | error err => exact ⟨rfl,hr⟩
        | ok amount =>
          refine ⟨?_,?_⟩
          · simp only [Except.map, PostgresWriteSideResult.observed, PostgresWriteSideResult.acceptedAs,
              Option.map_some, hsame]
          · rw [accept_forget, accept_forget, hr, hsame]

/-- What a command does, up to identities and times. -/
theorem serveStored_forget (hr : r.forget = r'.forget) (h : SameCommand v v')
    (hv : v.invokeValidation = invokeValidation mode) :
    (r.serveStored v).1.map PostgresWriteSideResult.observed =
        (r'.serveStored v').1.map PostgresWriteSideResult.observed ∧
      (r.serveStored v).2.forget = (r'.serveStored v').2.forget := by
  have hunrecorded := serveUnrecorded_forget hr h hv
  have hidem := congrFun (congrArg OrderRegistry.idem hr) v.signature.requestId
  simp only [forget] at hidem
  unfold serveStored
  rw [← h.signature]
  cases hasNul v.signature.requestId with
  | true =>
    simp only [if_true, true_and]
    exact hr
  | false =>
    simp only [Bool.false_eq_true, if_false]
    cases hheld : r.idem v.signature.requestId with
    | none =>
      cases hheld' : r'.idem v.signature.requestId with
      | none => exact hunrecorded
      | some held' => simp [hheld, hheld'] at hidem
    | some held =>
      cases hheld' : r'.idem v.signature.requestId with
      | none => simp [hheld, hheld'] at hidem
      | some held' =>
        have hsame : held.forget = held'.forget := by simpa [hheld, hheld'] using hidem
        have hsignature : held.signature = held'.signature :=
          show held.forget.signature = held'.forget.signature by rw [hsame]
        have hevent : held.acceptedEvent.forget = held'.acceptedEvent.forget :=
          show held.forget.acceptedEvent = held'.forget.acceptedEvent by rw [hsame]
        cases normalizeMoney v.signature.amount with
        | error err => exact ⟨rfl,hr⟩
        | ok b =>
          refine ⟨?_,hr⟩
          simp only [hsignature]
          cases held'.signature.eq v.signature.canonical with
          | true =>
            simp [Except.map, PostgresWriteSideResult.observed, PostgresWriteSideResult.decided,
              IdempotencyDecision.replay, IdempotencyDecision.forget, hevent, hsame]
          | false =>
            simp [Except.map, PostgresWriteSideResult.observed, PostgresWriteSideResult.decided,
              IdempotencyDecision.conflict, IdempotencyDecision.forget, hsame]

/-- Sequences of the same commands on the same store, up to identities and times. -/
theorem serveStored_run_forget {vs vs' : List WriteInvocation} (hr : r.forget = r'.forget)
    (h : List.Forall₂ SameCommand vs vs')
    (hv : ∀ v ∈ vs, ∃ mode, v.invokeValidation = invokeValidation mode) :
    (SequentialObject.run serveStored r vs).1.map (Except.map PostgresWriteSideResult.observed) =
        (SequentialObject.run serveStored r' vs').1.map (Except.map PostgresWriteSideResult.observed) ∧
      (SequentialObject.run serveStored r vs).2.forget =
        (SequentialObject.run serveStored r' vs').2.forget := by
  induction h generalizing r r' with
  | nil => exact ⟨rfl,hr⟩
  | @cons v v' vs vs' hsame hrest ih =>
    obtain ⟨mode,hmode⟩ := hv v (List.mem_cons_self ..)
    obtain ⟨hanswer,hnext⟩ := serveStored_forget hr hsame hmode
    obtain ⟨hanswers,hlast⟩ := ih hnext (fun u hu => hv u (List.mem_cons_of_mem _ hu))
    rw [SequentialObject.run_cons, SequentialObject.run_cons, List.map_cons, List.map_cons, hanswer, hanswers]
    exact ⟨rfl,hlast⟩

/-- Sequences of the same commands that draw the same are one sequence to the store. -/
theorem serveStored_run_congr {vs vs' : List WriteInvocation} (h : List.Forall₂ SameCommand vs vs')
    (hdraws : vs.map (fun v => v.draw) = vs'.map (fun v => v.draw)) (r : OrderRegistry) :
    SequentialObject.run serveStored r vs = SequentialObject.run serveStored r vs' := by
  induction h generalizing r with
  | nil => rfl
  | @cons v v' vs vs' hsame hrest ih =>
    rw [List.map_cons, List.map_cons, List.cons.injEq] at hdraws
    rw [SequentialObject.run_cons, SequentialObject.run_cons, serveStored_congr hsame hdraws.1,
      ih hdraws.2]

end OrderRegistry

theorem observed_ungated (rs : List (Except PyException PostgresWriteSideDelivery)) :
    (rs.map (Except.map (fun d => d.producerValue.result.ungated))).map
        (Except.map PostgresWriteSideResult.observed) =
      rs.map (Except.map (fun d => d.producerValue.result.observed)) := by
  rw [List.map_map]
  refine List.map_congr_left (fun r _ => ?_)
  cases r <;> rfl

variable {ι : Type} [DecidableEq ι] [Fintype ι] {D : Database ι} {t : Tables}

/-- The four configurations agree on every sequence of commands nobody else's interleave
with, whatever its requests are: call by call the same exception or the same result but for
the gate's own admissions, and the same events and records in the tables at the end. Under
the repository's validation they do so whatever each run draws, up to what it draws. -/
theorem configurations_agree {calls calls' : List (ι × WriteInvocation)} (ht : t.Serial)
    (h : Issued D t calls) (h' : Issued D t calls')
    (hsame : List.Forall₂ (fun call call' => SameCommand call.2 call'.2) calls calls') :
    ∃ rs u rs' u', D.serveAll calls (World.initial t) = some (rs,World.initial u) ∧
      D.serveAll calls' (World.initial t) = some (rs',World.initial u') ∧
      (calls.map (fun call => call.2.draw) = calls'.map (fun call => call.2.draw) →
        rs.map (Except.map (fun d => d.producerValue.result.ungated)) =
            rs'.map (Except.map (fun d => d.producerValue.result.ungated)) ∧
          u.durableHistory = u'.durableHistory) ∧
      ((∀ call ∈ calls, ∃ mode, call.2.invokeValidation = invokeValidation mode) →
        rs.map (Except.map (fun d => d.producerValue.result.observed)) =
            rs'.map (Except.map (fun d => d.producerValue.result.observed)) ∧
          u.durableHistoryForget = u'.durableHistoryForget) := by
  obtain ⟨rs,u,hrun,-,hstored,hrows⟩ := h.serveAll_stored ht
  obtain ⟨rs',u',hrun',-,hstored',hrows'⟩ := h'.serveAll_stored ht
  have hcommands : List.Forall₂ SameCommand (calls.map Prod.snd) (calls'.map Prod.snd) := by
    rw [List.forall₂_map_left_iff, List.forall₂_map_right_iff]
    exact hsame
  refine ⟨rs,u,rs',u',hrun,hrun',?_,?_⟩
  · intro hdraws
    have hdrawn : (calls.map Prod.snd).map (fun v => v.draw) = (calls'.map Prod.snd).map (fun v => v.draw) := by
      rw [List.map_map, List.map_map]
      exact hdraws
    have hanswers := OrderRegistry.serveStored_run_congr hcommands hdrawn t.registry
    rw [hanswers, WriteInvocation.addedBy_congr hcommands] at hrows
    rw [hanswers, ← hstored', Prod.mk.injEq] at hstored
    exact ⟨hstored.1,hrows.durableHistory_eq hrows'⟩
  · intro hruntime
    obtain ⟨hanswers,-⟩ := OrderRegistry.serveStored_run_forget (r := t.registry) rfl hcommands
      (List.forall_mem_map.mpr hruntime)
    have hdurable := hrows.durableHistoryForget_eq hrows' (WriteInvocation.addedBy_forget hcommands hanswers)
    rw [← hstored, ← hstored', observed_ungated, observed_ungated] at hanswers
    exact ⟨hanswers,hdurable⟩

namespace RefusedCommands

/-- A creation, its retry, a payment of another amount and requests that every configuration
refuses: a blank id, an order id PostgreSQL cannot hold and an amount no column holds. -/
def signatures : List RequestSignature :=
  [⟨"r",.create,"A",.int 20⟩,⟨"r",.create,"A",.decimal (.finite false 20004 (-3))⟩,
   ⟨"p",.pay,"A",.int 5⟩,⟨" ",.create,"B",.int 1⟩,⟨"q",.create,"B\x00",.int 1⟩,
   ⟨"q",.create,"B",.int (10^17)⟩]

def calls (placement : ValidationPlacement) (gate : Gate) (drawn : List Uuid) :
    List (Fin 2 × WriteInvocation) :=
  List.zipWith (fun s uuid => (0,⟨placement,gate,invokeValidation .strict,s,⟨uuid,0⟩,false,none⟩))
    signatures drawn

def before : List (Fin 2 × WriteInvocation) := calls .preTransaction .optimistic [0,1,2,3,4,5]
def within : List (Fin 2 × WriteInvocation) := calls .inTransaction .pessimistic [6,7,8,9,10,11]

end RefusedCommands

theorem configurations_agree_refused :
    ((RacingCreations.server.serveAll RefusedCommands.before (World.initial .empty)).map (fun out =>
      out.1.map (fun r => r.toOption.map (fun d => d.producerValue.result.outcome)))) =
        some [some .accepted,some .replay,none,none,none,none] ∧
    ∃ rs u rs' u', RacingCreations.server.serveAll RefusedCommands.before (World.initial .empty) =
      some (rs,World.initial u) ∧
    RacingCreations.server.serveAll RefusedCommands.within (World.initial .empty) =
      some (rs',World.initial u') ∧
    rs.map (Except.map (fun d => d.producerValue.result.observed)) =
      rs'.map (Except.map (fun d => d.producerValue.result.observed)) ∧
    u.durableHistoryForget = u'.durableHistoryForget := by
  have hbefore : Issued RacingCreations.server .empty RefusedCommands.before :=
    ⟨by decide,by decide +kernel,fun _ _ => by simp [Tables.empty]⟩
  have hwithin : Issued RacingCreations.server .empty RefusedCommands.within :=
    ⟨by decide,by decide +kernel,fun _ _ => by simp [Tables.empty]⟩
  have hsame : List.Forall₂ (fun call call' => SameCommand call.2 call'.2) RefusedCommands.before
      RefusedCommands.within :=
    .cons ⟨rfl,rfl⟩ (.cons ⟨rfl,rfl⟩ (.cons ⟨rfl,rfl⟩ (.cons ⟨rfl,rfl⟩ (.cons ⟨rfl,rfl⟩
      (.cons ⟨rfl,rfl⟩ .nil)))))
  have hruntime : ∀ call ∈ RefusedCommands.before,
      ∃ mode, call.2.invokeValidation = invokeValidation mode := by
    simp only [RefusedCommands.before, RefusedCommands.calls, RefusedCommands.signatures,
      List.zipWith_cons_cons, List.zipWith_nil_left, List.forall_mem_cons]
    exact ⟨⟨_,rfl⟩,⟨_,rfl⟩,⟨_,rfl⟩,⟨_,rfl⟩,⟨_,rfl⟩,⟨_,rfl⟩,by simp⟩
  obtain ⟨rs,u,rs',u',hrun,hrun',-,hagree⟩ := configurations_agree .empty hbefore hwithin hsame
  exact ⟨by decide +kernel,rs,u,rs',u',hrun,hrun',hagree hruntime⟩

end StreamingCompass
