import StreamingCompass.Concurrency.Acceptance

/-! # Atomicity of a write invocation

What each connection adds to the committed tables along a run. An invocation adds its
event with its record when it is accepted and nothing otherwise, and leaves its
connection idle.
-/
namespace StreamingCompass
open Interleaving

abbrev SqlEntry (ι : Type) : Type := Entry ι (World ι) Operation Operation.Answer PyException

variable {ι : Type}

/-! ## What a trace adds -/

/-- The events the steps of a trace committed, oldest first. -/
def addedEvents (trace : List (SqlEntry ι)) : List OrderEventRow :=
  trace.reverse.flatMap (fun e =>
    e.after.tables.orderEvents.drop e.before.tables.orderEvents.length)

def addedRecords (trace : List (SqlEntry ι)) : List IdempotencyRow :=
  trace.reverse.flatMap (fun e =>
    e.after.tables.idempotencyRecords.drop e.before.tables.idempotencyRecords.length)

@[simp] theorem addedEvents_nil : addedEvents ([] : List (SqlEntry ι)) = [] := rfl
@[simp] theorem addedRecords_nil : addedRecords ([] : List (SqlEntry ι)) = [] := rfl
@[simp] theorem addedEvents_cons (e : SqlEntry ι) (trace : List (SqlEntry ι)) :
    addedEvents (e :: trace) = addedEvents trace ++
      e.after.tables.orderEvents.drop e.before.tables.orderEvents.length := by
  simp [addedEvents]
@[simp] theorem addedRecords_cons (e : SqlEntry ι) (trace : List (SqlEntry ι)) :
    addedRecords (e :: trace) = addedRecords trace ++
      e.after.tables.idempotencyRecords.drop e.before.tables.idempotencyRecords.length := by
  simp [addedRecords]

theorem added_of_unchanged {trace : List (SqlEntry ι)}
    (h : ∀ e ∈ trace, e.after.tables = e.before.tables) :
    addedEvents trace = [] ∧ addedRecords trace = [] := by
  induction trace with
  | nil => exact ⟨rfl,rfl⟩
  | cons e trace ih =>
    obtain ⟨he,hr⟩ := ih (fun x hx => h x (List.mem_cons_of_mem _ hx))
    simp [he, hr, h e (List.mem_cons_self ..)]

variable [DecidableEq ι]

/-- The steps of one connection, and of all others. -/
def ownSteps (i : ι) (trace : List (SqlEntry ι)) : List (SqlEntry ι) :=
  trace.filter (fun e => e.thread = i)
def otherSteps (i : ι) (trace : List (SqlEntry ι)) : List (SqlEntry ι) :=
  trace.filter (fun e => e.thread ≠ i)

theorem added_otherSteps {i : ι} {trace : List (SqlEntry ι)}
    (h : ∀ e ∈ ownSteps i trace, e.after.tables = e.before.tables) :
    addedEvents (otherSteps i trace) = addedEvents trace ∧
      addedRecords (otherSteps i trace) = addedRecords trace := by
  induction trace with
  | nil => exact ⟨rfl,rfl⟩
  | cons e trace ih =>
    obtain ⟨he,hr⟩ := ih (fun x hx => h x (by
      rw [ownSteps, List.mem_filter] at hx ⊢
      exact ⟨List.mem_cons_of_mem _ hx.1,hx.2⟩))
    by_cases hi : e.thread = i
    · have hsame := h e (by simp [ownSteps, hi])
      have hskip : otherSteps i (e :: trace) = otherSteps i trace := by simp [otherSteps, hi]
      rw [hskip, addedEvents_cons, addedRecords_cons, he, hr, hsame]
      simp
    · have hkeep : otherSteps i (e :: trace) = e :: otherSteps i trace := by simp [otherSteps, hi]
      rw [hkeep, addedEvents_cons, addedRecords_cons, addedEvents_cons, addedRecords_cons, he, hr]
      exact ⟨rfl,rfl⟩

theorem ownLog_eq_map_ownSteps (i : ι) (trace : List (SqlEntry ι)) :
    ownLog i trace = (ownSteps i trace).map (fun e => ⟨e.op,e.reply⟩) := rfl

variable [Fintype ι] {D : Database ι} {faulty : ι → Prop} {t : Tables} {invocations : ι → Invocation}
  {c c' : System ι} {i : ι} {v : WriteInvocation}

namespace Reachable

theorem tables_added (h : Reachable D faulty t invocations c) :
    c.world.tables.orderEvents = t.orderEvents ++ addedEvents c.trace ∧
      c.world.tables.idempotencyRecords = t.idempotencyRecords ++ addedRecords c.trace := by
  refine Reaches.invariant (fun c : System ι =>
    c.world.tables.orderEvents = t.orderEvents ++ addedEvents c.trace ∧
      c.world.tables.idempotencyRecords = t.idempotencyRecords ++ addedRecords c.trace)
    ⟨(List.append_nil _).symm,(List.append_nil _).symm⟩ ?_ h
  intro c c' hr hi hs
  obtain ⟨events,hevents⟩ := (Reachable.committed hr hs).orderEvents_grow
  obtain ⟨records,hrecords⟩ := (Reachable.committed hr hs).idempotencyRecords_grow
  cases hs with
  | abandon running => exact hi
  | call running executes =>
    rw [Config.advance_world] at hevents hrecords
    simp only [Config.advance_world, Config.advance_trace, addedEvents_cons, addedRecords_cons,
      ← hevents, ← hrecords, List.drop_left, ← List.append_assoc, ← hi.1, ← hi.2, and_self]

/-- Before each operation of a write invocation nothing was committed. -/
theorem uncommitted_tail (h : Reachable D faulty t invocations c) (hv : invocations i = .write v)
    {l earlier : SqlLog} {op : Operation} {reply : SqlReply op}
    (hlog : c.log i = l ++ ⟨op,reply⟩ :: earlier) : Uncommitted earlier := by
  obtain ⟨c₁,next,w,hp,rfl⟩ := Reaches.performed h rfl hlog
  have hg := (of_performed hp).guard hp.running
  rw [hv] at hg
  cases op with
  | autocommit => exact hg
  | rollback => exact hg
  | tryAdvisoryXactLock _ _ => exact hg.2.uncommitted
  | selectCurrentVersion _ => exact hg.2.uncommitted
  | selectIdempotencyRecord _ => exact hg.2.uncommitted
  | selectHistory _ => exact hg.2.uncommitted
  | insertOrderEvent _ => exact hg.1.uncommitted
  | insertIdempotencyRecord _ =>
    obtain ⟨e,hpending,-⟩ := hg
    exact hpending.uncommitted
  | commit =>
    obtain ⟨e,p,hpending,-⟩ := hg
    exact hpending.uncommitted
  | _ => exact hg.elim

/-- Steps other than a commit leave the tables alone. -/
theorem entry_unchanged (h : Reachable D faulty t invocations c) {e : SqlEntry ι} (he : e ∈ c.trace)
    (hop : e.op ≠ .commit) : e.after.tables = e.before.tables := by
  obtain ⟨later,earlier,htrace⟩ := List.append_of_mem he
  obtain ⟨c₁,next,hp,hw,-⟩ := Reaches.performed_entry h rfl htrace
  rw [← hw]
  exact (of_performed hp).tables_eq hp.running hp.executes hop

/-- While it has committed nothing an invocation has added nothing. -/
theorem added_of_uncommitted (h : Reachable D faulty t invocations c) (hu : Uncommitted (c.log i)) :
    ∀ e ∈ ownSteps i c.trace, e.after.tables = e.before.tables := by
  intro e he
  apply h.entry_unchanged (List.mem_of_mem_filter he)
  apply hu ⟨e.op,e.reply⟩
  rw [Config.log, ownLog_eq_map_ownSteps]
  exact List.mem_map_of_mem he

theorem added_of_committed (h : Reachable D faulty t invocations c) (hv : invocations i = .write v)
    {rest : SqlLog} (hlog : c.log i = ⟨.commit,.ok ()⟩ :: rest) :
    ∃ e p row record, addedEvents (ownSteps i c.trace) = [row] ∧
      addedRecords (ownSteps i c.trace) = [record] ∧ Pending v.writeSide v.signature rest e [p] ∧
      PostgresIdempotencyStore.recordParameters v.signature e = .ok p ∧ StoredEvent e row ∧
      StoredRecord p record := by
  have hu : Uncommitted rest := h.uncommitted_tail hv (l := []) hlog
  obtain ⟨later,x,earlier,htrace,hx,hown⟩ : ∃ later x earlier, c.trace = later ++ x :: earlier ∧
      (x.thread = i ∧ x.op = .commit) ∧ ownSteps i c.trace = x :: ownSteps i earlier := by
    rw [Config.log, ownLog_eq_map_ownSteps] at hlog
    obtain ⟨x,own,hown,hx,-⟩ := List.map_eq_cons_iff.mp hlog
    obtain ⟨later,earlier,htrace,hskip,hi,hrest⟩ := List.filter_eq_cons_iff.mp hown
    exact ⟨later,x,earlier,htrace,⟨by simpa using hi,(Sigma.mk.inj hx).1⟩,by rw [hown, ← hrest]; rfl⟩
  obtain ⟨c₁,next,hp,hw,ht⟩ := Reaches.performed_entry h rfl htrace
  obtain ⟨rfl,hcommit⟩ := hx
  have hr := of_performed hp
  have hlog₁ : c₁.log x.thread = rest := by
    rw [Config.log, ht, ownLog_eq_map_ownSteps]
    rw [Config.log, ownLog_eq_map_ownSteps, hown, List.map_cons] at hlog
    exact (List.cons.inj hlog).2
  rcases x with ⟨j,op,reply,w,w'⟩
  obtain rfl : op = .commit := hcommit
  obtain ⟨rfl,hafter⟩ := SqlStep.commit_eq hp.executes
  obtain ⟨e,p,row,record,ha⟩ := hr.accepting hp.running hv
  obtain ⟨hnone,hnone'⟩ := added_of_unchanged
    (added_of_uncommitted (i := j) hr (by rw [hlog₁]; exact hu))
  rw [ht] at hnone hnone'
  have htables : w'.tables = w.tables.accept row record := by
    change c₁.world = w at hw
    change w' = c₁.world.commit j at hafter
    rw [hafter, ha.tables, hw]
  refine ⟨e,p,row,record,?_,?_,hlog₁ ▸ ha.pending,ha.parameters,ha.storedEvent,ha.storedRecord⟩
  · rw [hown, addedEvents_cons, hnone]
    simp [htables]
  · rw [hown, addedRecords_cons, hnone']
    simp [htables]

end Reachable

/-- A connection's steps added nothing: the tables are what the others made of them. -/
structure System.AddedNothing (t : Tables) (c : System ι) (i : ι) : Prop where
  events : addedEvents (ownSteps i c.trace) = []
  records : addedRecords (ownSteps i c.trace) = []
  orderEvents : c.world.tables.orderEvents = t.orderEvents ++ addedEvents (otherSteps i c.trace)
  idempotencyRecords :
    c.world.tables.idempotencyRecords = t.idempotencyRecords ++ addedRecords (otherSteps i c.trace)

/-- A connection's steps added one event and its record. -/
structure System.AddedOne (c : System ι) (i : ι) (row : OrderEventRow) (record : IdempotencyRow) :
    Prop where
  events : addedEvents (ownSteps i c.trace) = [row]
  records : addedRecords (ownSteps i c.trace) = [record]
  acceptedEventId : record.acceptedEventId = row.acceptedEventId

namespace Reachable

theorem addedNothing (h : Reachable D faulty t invocations c) (hu : Uncommitted (c.log i)) :
    c.AddedNothing t i := by
  have hsame := h.added_of_uncommitted hu
  obtain ⟨hevents,hrecords⟩ := added_of_unchanged hsame
  obtain ⟨hothers,hothers'⟩ := added_otherSteps hsame
  exact ⟨hevents,hrecords,hothers ▸ h.tables_added.1,hothers' ▸ h.tables_added.2⟩

theorem addedOne (h : Reachable D faulty t invocations c) (hv : invocations i = .write v)
    {rest : SqlLog} (hlog : c.log i = ⟨.commit,.ok ()⟩ :: rest) :
    ∃ e p row record, c.AddedOne i row record ∧ StoredEvent e row ∧
      Pending v.writeSide v.signature rest e [p] := by
  obtain ⟨e,p,row,record,hevents,hrecords,hpending,hp,hrow,hrecord⟩ := h.added_of_committed hv hlog
  refine ⟨e,p,row,record,⟨hevents,hrecords,?_⟩,hrow,hpending⟩
  obtain ⟨amount,position,-,-,-,rfl⟩ := hrow
  obtain ⟨amount',-,rfl⟩ := hrecord
  rw [PostgresIdempotencyStore.recordParameters_eq] at hp
  cases hd : normalizeMoney v.signature.amount with
  | error err => simp [hd, Except.map] at hp
  | ok d =>
    rw [hd] at hp
    obtain rfl := Except.ok.inj hp
    rfl

/-- A write invocation adds its event and record together or nothing at all, whatever
stops it; when it has returned or raised its connection is idle, and only an accepted
result has added anything. -/
theorem write_atomic (h : Reachable D faulty t invocations c) (hv : invocations i = .write v) :
    (c.AddedNothing t i ∨ ∃ row record, c.AddedOne i row record) ∧
    ∀ r, c.delivered i = some r →
      c.world.transactions i = .idle ∧
      match r with
      | .error _ => c.AddedNothing t i
      | .ok d =>
        if d.producerValue.result.outcome = .accepted then
          ∃ e row record, c.AddedOne i row record ∧ StoredEvent e row ∧
            d.producerValue.result.acceptedEvent = some e
        else c.AddedNothing t i := by
  refine ⟨?_,fun r hr => ?_⟩
  · cases hlog : c.log i with
    | nil => exact .inl (h.addedNothing (by rw [hlog]; exact .nil))
    | cons x rest =>
      rcases x with ⟨op,reply⟩
      by_cases hop : op = .commit
      · subst hop
        obtain ⟨c₁,next,w,hp,-⟩ := Reaches.performed h rfl (l := []) hlog
        obtain ⟨rfl,-⟩ := SqlStep.commit_eq hp.executes
        obtain ⟨e,p,row,record,hadded,-,-⟩ := h.addedOne hv hlog
        exact .inr ⟨row,record,hadded⟩
      · refine .inl (h.addedNothing ?_)
        rw [hlog]
        exact (h.uncommitted_tail hv (l := []) hlog).cons hop reply
  · rw [System.delivered_eq_some] at hr
    have hends := h.meets i _ hr
    have hm := h.mirrors hr
    rw [hv] at hends
    have hnothing (he : Ended (c.log i)) : c.world.transactions i = .idle ∧ c.AddedNothing t i :=
      ⟨hm.closed he.closed,h.addedNothing he.uncommitted⟩
    cases r with
    | error e => exact hnothing hends.1
    | ok d =>
      change Concluded v.writeSide v.signature (c.log i) (.ok d.producerValue.result) at hends
      by_cases ho : d.producerValue.result.outcome = .accepted
      · simp only [Concluded, ho] at hends
        obtain ⟨e,p,rest,hlog,hevent,hpending,-⟩ := hends
        obtain ⟨e',p',row,record,hadded,hrow,hpending'⟩ := h.addedOne hv hlog
        obtain rfl : e' = e := by
          have := hpending'.events.symm.trans hpending.events
          exact (List.cons.inj this).1
        refine ⟨hm.closed (by rw [hlog]; rfl),?_⟩
        simp only [ho, if_true]
        exact ⟨e',row,record,hadded,hrow,hevent⟩
      · simpa [ho] using hnothing (hends.ended ho)

theorem write_atomic_racing :
    (∃ row record, RacingCreations.final.AddedOne 1 row record) ∧
      RacingCreations.final.world.transactions 0 = .idle := by
  have hrow : addedEvents (ownSteps 1 RacingCreations.final.trace) ≠ [] := by decide +kernel
  have h0 : (RacingCreations.final.delivered 0).isSome = true := by decide +kernel
  constructor
  · rcases (write_atomic RacingCreations.reachable (i := 1) (v := RacingCreations.winner) rfl).1 with h | h
    · exact absurd h.events hrow
    · exact h
  · exact ((write_atomic RacingCreations.reachable (i := 0) (v := RacingCreations.stale) rfl).2 _
      (Option.some_get h0).symm).1

end Reachable
end StreamingCompass
