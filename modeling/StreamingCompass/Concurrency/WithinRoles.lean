import StreamingCompass.Concurrency.Projection
import StreamingCompass.Storage.RuntimeRoles
import StreamingCompass.Transactional.StoreAgreement

/-! # Running within the roles

The write side under `compass_app_writer` and the projection worker under
`compass_projection_worker`: neither sends a statement its role may not, and every commit
of theirs is a sequence of row changes the database guards let that role make.
-/
namespace StreamingCompass
open Interleaving

/-- The model's tables among the durable ones. -/
def Tables.durable (t : Tables) : DurableStore
  | .orderEvents => {r | r ∈ t.orderEvents}
  | .idempotencyRecords => {r | r ∈ t.idempotencyRecords}
  | .projectionStates => Relational.keyed (fun r => r.orderId) t.projectionStates
  | .projectionOrderProgress => Relational.keyed (fun r => r.key) t.progress
  | .projectionCheckpoints => ∅
  | .projectionSnapshots => ∅
  | .decisionReceipts => ∅

def Invocation.role : Invocation → RuntimeRole
  | .write _ => .appWriter
  | .project _ => .projectionWorker

def Operation.privileges : Operation → List (DurableTable × Relational.Privilege)
  | .selectIdempotencyRecord _ => [(.idempotencyRecords,.select),(.orderEvents,.select)]
  | .insertIdempotencyRecord _ => [(.idempotencyRecords,.insert)]
  | .selectHistory _ | .selectCurrentVersion _ => [(.orderEvents,.select)]
  | .insertOrderEvent _ => [(.orderEvents,.insert)]
  | .selectEligible _ _ _ => [(.orderEvents,.select),(.projectionOrderProgress,.select)]
  | .selectProjectionState _ => [(.projectionStates,.select)]
  | .upsertProjectionState _ => [(.projectionStates,.insert),(.projectionStates,.update),
      (.projectionStates,.select)]
  | .advanceProgress _ => [(.orderEvents,.select),(.projectionOrderProgress,.select),
      (.projectionOrderProgress,.update),(.projectionOrderProgress,.insert)]
  | .autocommit | .transactionStatus | .begin | .commit | .rollback | .tryAdvisoryXactLock _ _ => []

/-- An insert of an event draws its position as a column default. -/
def Operation.sequencePrivileges : Operation → List SequencePrivilege
  | .insertOrderEvent _ => [.usage]
  | _ => []

/-! ## Commits as row changes -/

namespace Tables
variable {t : Tables} {row : OrderEventRow} {record : IdempotencyRow} {roles : List RuntimeRole}

theorem durable_empty : Tables.empty.durable = Relational.Store.empty := by
  funext n
  cases n with
  | orderEvents => exact Set.eq_empty_of_forall_notMem (fun _ h => List.not_mem_nil h)
  | idempotencyRecords => exact Set.eq_empty_of_forall_notMem (fun _ h => List.not_mem_nil h)
  | projectionStates => exact Relational.keyed_empty (fun r : ProjectionStateRow => r.orderId)
  | projectionOrderProgress => exact Relational.keyed_empty (fun r : ProgressRow => r.key)
  | _ => rfl

theorem key_ne_of_nodup {R K : Type} {key : R → K} {rows : List R} {r : R}
    (h : ((rows ++ [r]).map key).Nodup) : ∀ a ∈ rows, key a ≠ key r := by
  rw [List.map_append, List.nodup_append] at h
  intro a ha
  exact h.2.2 _ (List.mem_map_of_mem ha) _ (List.mem_singleton_self _)

/-- The tables an accepted event leaves, one row after another. -/
theorem durable_accept : (t.accept row record).durable =
    ((t.durable.put .orderEvents (insert row (t.durable .orderEvents))).put .idempotencyRecords
      (insert record (t.durable .idempotencyRecords))) := by
  funext n
  cases n with
  | idempotencyRecords =>
    rw [Relational.Store.put_self]
    ext r
    simp [durable, or_comm]
  | orderEvents =>
    rw [Relational.Store.put_ne _ (by decide), Relational.Store.put_self]
    ext r
    simp [durable, or_comm]
  | _ =>
    rw [Relational.Store.put_ne _ (by decide), Relational.Store.put_ne _ (by decide)]
    rfl

/-- An event and its record are two inserts of the write-side role. -/
theorem accept_guarded (hids : ((t.accept row record).orderEvents.map (fun r => r.acceptedEventId)).Nodup)
    (hplaces : ((t.accept row record).orderEvents.map OrderEventRow.place).Nodup)
    (hpositions : ((t.accept row record).orderEvents.map (fun r => r.globalPosition)).Nodup)
    (hrequests : ((t.accept row record).idempotencyRecords.map (fun r => r.requestId)).Nodup)
    (hrecorded : Recorded record row) (hamount : Numeric.zero.le row.amount = true)
    (hsequence : 0 < row.sequence) :
    Relational.Reaches durableSchema (may [.appWriter]) t.durable (t.accept row record).durable := by
  have hid := key_ne_of_nodup hids
  have hplace := key_ne_of_nodup hplaces
  have hposition := key_ne_of_nodup hpositions
  have hrequest := key_ne_of_nodup hrequests
  have hfirst : Relational.Step durableSchema (may [.appWriter]) t.durable
      (t.durable.put .orderEvents (insert row (t.durable .orderEvents))) := by
    refine Relational.Step.inserts (S := durableSchema) (n := DurableTable.orderEvents) (r := row)
      ?_ ?_ ?_ ?_ ?_
    · decide
    · change ∀ c ∈ durableChecks .orderEvents row, c.2 = true
      simp [durableChecks, hamount, hsequence]
    · trivial
    · intro k hk v hv r hr hrv
      have hr' : r ∈ t.orderEvents := hr
      have heq : k.value r = k.value row := hrv.trans hv.symm
      simp only [durableSchema, durableKeys, List.mem_cons, List.not_mem_nil, or_false] at hk
      rcases hk with rfl | rfl | rfl | rfl
      · exact hid r hr' (Option.some.inj heq)
      · exact hplace r hr' (Option.some.inj heq)
      · exact hposition r hr' (Option.some.inj heq)
      · exact hid r hr' (Prod.mk.inj (Option.some.inj heq)).1
    · exact fun f hf => (List.not_mem_nil hf).elim
  have hrest : (t.durable.put .orderEvents (insert row (t.durable .orderEvents))) .idempotencyRecords =
      t.durable .idempotencyRecords := Relational.Store.put_ne _ (by decide) _
  rw [durable_accept, ← hrest]
  refine (Relation.ReflTransGen.single hfirst).tail ?_
  refine Relational.Step.inserts (S := durableSchema) (n := DurableTable.idempotencyRecords) (r := record)
    ?_ ?_ ?_ ?_ ?_
  · decide
  · change ∀ c ∈ durableChecks .idempotencyRecords record, c.2 = true
    simp [durableChecks, hrecorded.amount, hamount, hrecorded.resultSequence, hsequence,
      hrecorded.fingerprintVersion, hrecorded.semanticFingerprint,
      PostgresIdempotencyStore.fingerprintText_not_blank, fingerprintVersion]
  · trivial
  · intro k hk v hv r hr hrv
    rw [hrest] at hr
    obtain rfl := List.mem_singleton.mp hk
    exact hrequest r hr (Option.some.inj (hrv.trans hv.symm))
  · intro f hf v hv
    obtain rfl := List.mem_singleton.mp hf
    obtain rfl := Option.some.inj hv
    have hrow : row ∈ (t.durable.put .orderEvents (insert row (t.durable .orderEvents))) .orderEvents := by
      rw [Relational.Store.put_self]
      exact Set.mem_insert ..
    exact ⟨row,Relational.Store.le_put (Set.subset_insert ..) DurableTable.orderEvents hrow,
      hrecorded.acceptedEventId.symm⟩

variable {orderId : String} {k : ℕ} {state : ProjectionStateRow}

theorem ProjectedTo.progress_stands (h : t.ProjectedTo orderId k) :
    (t.progress (progressKey orderId) = none → k = 0) ∧ ∀ old, t.progress (progressKey orderId) = some old →
      old.key = progressKey orderId ∧ old.lastSequence = k := by
  cases h with
  | absent progress state => exact ⟨fun _ => rfl,fun old hold => by simp [progress] at hold⟩
  | @upTo k row stored event sequence progress state fold =>
    refine ⟨fun h => by simp [progress] at h,fun old hold => ?_⟩
    obtain rfl := Option.some.inj (progress.symm.trans hold)
    have hmem := List.mem_of_getElem? event
    rw [history, List.mem_insertionSort, List.mem_filter] at hmem
    have horder := of_decide_eq_true hmem.2
    exact ⟨by rw [progressOf, horder],sequence⟩

theorem ProjectedTo.state_stands (h : t.ProjectedTo orderId k) {old : ProjectionStateRow}
    (hold : t.projectionStates orderId = some old) : old.orderId = orderId := by
  cases h with
  | absent progress state => simp [state] at hold
  | @upTo k row stored event sequence progress state fold =>
    obtain rfl := Option.some.inj (state.symm.trans hold)
    exact (reduceHistory_version fold).1

theorem durable_project {progress : ProgressRow} : (t.project state progress).durable =
    ((t.durable.put .projectionStates (Relational.keyed (fun r : ProjectionStateRow => r.orderId)
      (Function.update t.projectionStates state.orderId (some state)))).put .projectionOrderProgress
        (Relational.keyed (fun r : ProgressRow => r.key)
          (Function.update t.progress progress.key (some progress)))) := by
  funext n
  cases n with
  | projectionOrderProgress => rw [Relational.Store.put_self]; rfl
  | projectionStates => rw [Relational.Store.put_ne _ (by decide), Relational.Store.put_self]; rfl
  | _ => rw [Relational.Store.put_ne _ (by decide), Relational.Store.put_ne _ (by decide)]; rfl

theorem unreferenced {n : DurableTable} (hn : n ≠ .orderEvents) :
    ∀ m, ∀ f ∈ durableSchema.references m, f.target ≠ n := by
  intro m f hf
  have htarget : f.target = .orderEvents := by
    cases m with
    | idempotencyRecords | projectionOrderProgress | decisionReceipts =>
      obtain rfl := List.mem_singleton.mp hf
      rfl
    | _ => exact (List.not_mem_nil hf).elim
  exact htarget ▸ hn.symm

/-- A projected event is two upserts of the projection role: progress moves by exactly one. -/
theorem project_guarded (hc : durableSchema.Consistent t.durable) (hstate : state.orderId = row.orderId)
    (hevent : row ∈ t.orderEvents) (hnamed : isBlank row.orderId = false) (hposition : 0 < row.globalPosition)
    (hchecks : ∀ c ∈ durableChecks .projectionStates state, c.2 = true)
    (hk : t.ProjectedTo row.orderId k) (hsequence : row.sequence = k+1) :
    Relational.Reaches durableSchema (may [.projectionWorker]) t.durable
      (t.project state (progressOf row)).durable := by
  have hfirst : Relational.Step durableSchema (may [.projectionWorker]) t.durable
      (t.durable.put .projectionStates (Relational.keyed (fun r : ProjectionStateRow => r.orderId)
        (Function.update t.projectionStates state.orderId (some state)))) := by
    refine Relational.Step.upsert (n := DurableTable.projectionStates)
      (fun r : ProjectionStateRow => r.orderId) t.projectionStates hc rfl ?_ (unreferenced (by decide))
      hchecks ?_ ?_ ?_
    · intro k hk r r' _ heq
      obtain rfl := List.mem_singleton.mp hk
      exact Option.some.inj heq
    · exact fun f hf => (List.not_mem_nil hf).elim
    · exact fun _ => ⟨by decide,trivial⟩
    · intro old hold
      rw [hstate] at hold ⊢
      exact ⟨hk.state_stands hold,by decide,trivial⟩
  have hname : trimNotEmpty orderStateProjectionName = true := by decide
  rw [durable_project]
  refine (Relation.ReflTransGen.single hfirst).tail ?_
  refine Relational.Step.upsert (n := DurableTable.projectionOrderProgress) (r := progressOf row)
    (fun r : ProgressRow => r.key) t.progress (hfirst.consistent hc) (Relational.Store.put_ne _ (by decide) _)
    ?_ (unreferenced (by decide)) ?_ ?_ ?_ ?_
  · intro k hk r r' _ heq
    obtain rfl := List.mem_singleton.mp hk
    exact Option.some.inj heq
  · change ∀ c ∈ durableChecks .projectionOrderProgress (progressOf row), c.2 = true
    simp [durableChecks, progressOf, progressKey, orderStateProjectionEpoch, hposition, hname,
      trimNotEmpty_of_not_blank hnamed, hsequence]
  · intro f hf v hv
    obtain rfl := List.mem_singleton.mp hf
    obtain rfl := Option.some.inj hv
    have hrow : row ∈ t.durable .orderEvents := hevent
    refine ⟨row,?_,rfl⟩
    change row ∈ Relational.Store.put t.durable .projectionStates _ DurableTable.orderEvents
    rw [Relational.Store.put_ne _ (by decide)]
    exact hrow
  · intro hnone
    exact ⟨by decide,by rw [show k = 0 from hk.progress_stands.1 hnone] at hsequence; exact hsequence⟩
  · intro old hold
    obtain ⟨hkey,hlast⟩ := hk.progress_stands.2 old hold
    exact ⟨hkey,by decide,hkey.symm,by rw [hlast]; exact hsequence⟩

end Tables

/-! ## Runs -/

theorem StoredState.checks {t : Tables} {row : OrderEventRow} {k : ℕ} {state : ProjectionStateRow}
    (ht : t.Sound) (hnamed : isBlank row.orderId = false) (h : StoredState (stateParameters
      (projectionOf row.orderId ((t.events row.orderId).take k))) state) :
    state.orderId = row.orderId ∧ ∀ c ∈ durableChecks .projectionStates state, c.2 = true := by
  have hid : (projectionOf row.orderId ((t.events row.orderId).take k)).orderId = row.orderId :=
    (reduceHistory_version ((ht.legal_events row.orderId).take k).reduce).1
  obtain ⟨total,paid,htotal,hpaid,hp0,hpt,ht0⟩ := NextEvent.storable ht row.orderId k
  obtain ⟨total',paid',htotal',hpaid',rfl⟩ := h
  obtain rfl := Except.ok.inj (htotal.symm.trans htotal')
  obtain rfl := Except.ok.inj (hpaid.symm.trans hpaid')
  have hversion : 0 ≤ (projectionOf row.orderId ((t.events row.orderId).take k)).version := by
    rw [(reduceHistory_version ((ht.legal_events row.orderId).take k).reduce).2]
    exact Int.natCast_nonneg _
  refine ⟨hid,?_⟩
  simp [durableChecks, stateParameters, hid, trimNotEmpty_of_not_blank hnamed, hp0, hpt, ht0, hversion]

namespace Reachable
variable {ι : Type} [DecidableEq ι] [Fintype ι] {D : Database ι} {faulty : ι → Prop}
  {invocations : ι → Invocation} {c c' : System ι}

theorem commits_within (h : Reachable D faulty .empty invocations c) (hs : Step (D.machine faulty) c c')
    (hc : durableSchema.Consistent c.world.tables.durable) :
    c'.world.tables = c.world.tables ∨ ∃ i,
      (∃ next, c.program i = some (.call .commit next) ∧
        c' = c.advance i .commit (.ok ()) (next (.ok ())) (c.world.commit i)) ∧
      Relational.Reaches durableSchema (may [(invocations i).role]) c.world.tables.durable
        c'.world.tables.durable := by
  cases h.committed hs with
  | nothing same => exact .inl same
  | @accepted i v e p row record hv accepting commits =>
    have hintegral := Reachable.integral (h.tail hs) .initial
    have htables := (System.tables_of_commits commits).trans accepting.tables
    obtain ⟨rows,a,hmem,hrehydrate,hbuild,-,-⟩ := accepting.pending.appending.loaded
    have hhandled := handledEvent hbuild
    have horder : e.orderId = v.signature.orderId := hhandled.orderId.trans (rehydrate_orderId hrehydrate)
    obtain ⟨hrecorded,-⟩ := Recorded.of_stored hhandled.positive hhandled.requestId horder
      hhandled.eventType accepting.storedEvent accepting.parameters accepting.storedRecord
    obtain ⟨amount,position,-,hamount,hsequence,hrow⟩ := accepting.storedEvent
    refine .inr ⟨i,commits,?_⟩
    rw [htables, hv]
    exact Tables.accept_guarded (htables ▸ hintegral.eventId.settled) (htables ▸ hintegral.place.settled)
      (htables ▸ hintegral.position.settled) (htables ▸ hintegral.request.settled) hrecorded
      (hrow ▸ hamount) (hrow ▸ hsequence)
  | @projected i workerName row st state hv hp commits =>
    have hsound := h.sound .initial .empty
    obtain ⟨k,hk⟩ := h.projectedTo row.orderId
    obtain ⟨hevent,hsequence,hfold,-⟩ := projects h (fun _ _ _ _ _ _ hp => (of_performed hp).projectedTo) hv
      hp hk
    have hcommitted := h.selected hv hp.projecting.applying
    have hnamed : isBlank row.orderId = false :=
      NextEvent.named ⟨hcommitted,hevent,hsequence,hk⟩ hsound
    have hstate := hp.storedState
    rw [((hsound.legal_events row.orderId).take (k+1)).reduce] at hfold
    obtain rfl := Except.ok.inj hfold
    obtain ⟨hid,hchecks⟩ := StoredState.checks hsound hnamed hstate
    refine .inr ⟨i,commits,?_⟩
    rw [(System.tables_of_commits commits).trans hp.tables, hv]
    exact Tables.project_guarded hc hid hcommitted hnamed
      ((h.integral .initial).positivePosition.1 row hcommitted) hchecks hk hsequence

theorem durable_run (h : Reachable D faulty .empty invocations c) :
    Relational.Reaches durableSchema (may [.appWriter,.projectionWorker]) Relational.Store.empty
      c.world.tables.durable := by
  refine Reaches.invariant (fun c : System ι => Relational.Reaches durableSchema
    (may [.appWriter,.projectionWorker]) Relational.Store.empty c.world.tables.durable) ?_ ?_ h
  · rw [← Tables.durable_empty]
    exact .refl
  · intro c c' hr hc hs
    rcases commits_within hr hs (hc.consistent .empty) with hsame | ⟨i,-,hi⟩
    · rwa [hsame]
    · refine hc.trans (hi.mono (fun n p hp => ?_))
      obtain ⟨role,hrole,hgranted⟩ := hp
      obtain rfl := List.mem_singleton.mp hrole
      refine ⟨_,?_,hgranted⟩
      cases invocations i <;> simp [Invocation.role]

/-- Every statement of a run is within its sender's role, and every step commits nothing or
rows that the committing thread's role alone may change past the guards, so no run needs more
than the grants. -/
theorem within_roles (h : Reachable D faulty .empty invocations c) :
    (∀ i op next, c.program i = some (.call op next) →
      (∀ q ∈ op.privileges, q.2 ∈ granted (invocations i).role q.1) ∧
      ∀ p ∈ op.sequencePrivileges, p ∈ sequenceGranted (invocations i).role) ∧
    (∀ c', Step (D.machine faulty) c c' → c'.world.tables = c.world.tables ∨
      ∃ i, (∃ next, c.program i = some (.call .commit next) ∧
          c' = c.advance i .commit (.ok ()) (next (.ok ())) (c.world.commit i)) ∧
        Relational.Reaches durableSchema (may [(invocations i).role]) c.world.tables.durable
          c'.world.tables.durable) ∧
    Relational.Reaches durableSchema (may [.appWriter,.projectionWorker]) Relational.Store.empty
      c.world.tables.durable := by
  refine ⟨fun i op next running => ?_,
    fun c' hs => h.commits_within hs (h.durable_run.consistent .empty),h.durable_run⟩
  have hg := h.guard running
  cases hv : invocations i with
  | write v =>
    rw [hv] at hg
    cases op <;> first
      | exact hg.elim
      | simp [Operation.privileges, Operation.sequencePrivileges, Invocation.role, granted,
          sequenceGranted]
  | project workerName =>
    rw [hv] at hg
    cases op <;> first
      | exact hg.elim
      | simp [Operation.privileges, Operation.sequencePrivileges, Invocation.role, granted]

theorem within_roles_racing : Relational.Reaches durableSchema (may [.appWriter,.projectionWorker])
    Relational.Store.empty RacingWorkers.final.world.tables.durable :=
  (within_roles RacingWorkers.reachable).2.2

end Reachable
end StreamingCompass
