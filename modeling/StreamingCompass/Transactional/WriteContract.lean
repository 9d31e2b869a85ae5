import StreamingCompass.Storage.Session
import StreamingCompass.Transactional.Observation
import StreamingCompass.Transactional.ResultShape

/-! # What a write invocation does to its connection

A contract on the exchanges of one invocation, checked along every sequence of replies
without reference to the tables: what is pending when each statement is issued, what a
commit commits, how each outcome leaves the connection, and why an invocation raises.
-/
namespace StreamingCompass
open Interleaving

def Uncommitted (log : SqlLog) : Prop := ∀ x ∈ log, x.1 ≠ .commit

theorem Uncommitted.nil : Uncommitted [] := by simp [Uncommitted]

theorem Uncommitted.cons {log : SqlLog} (h : Uncommitted log) {op : Operation} (hop : op ≠ .commit)
    (reply : SqlReply op) : Uncommitted (⟨op,reply⟩ :: log) := by
  intro x hx
  rcases List.mem_cons.mp hx with rfl | hx
  · exact hop
  · exact h x hx

structure Unwritten (log : SqlLog) : Prop where
  uncommitted : Uncommitted log
  noRows : (session log).NoRows

/-- Nothing is written and no statement has failed. -/
structure Untouched (log : SqlLog) : Prop extends Unwritten log where
  clean : (session log).dirty = false

/-- Neither committed nor left open. -/
structure Ended (log : SqlLog) : Prop where
  uncommitted : Uncommitted log
  closed : (session log).isOpen = false

/-- The candidate comes from a history the invocation loaded, whose version the append
has seen again. -/
structure Appending (W : WriteSide) (s : RequestSignature) (log : SqlLog) (e : OrderEvent) : Prop where
  loaded : ∃ rows a, (⟨.selectHistory s.orderId,.ok rows⟩ : Exchange _ _ _) ∈ log ∧
    rehydrate s.orderId (rows.map rowToOrderEvent) = .ok a ∧ W.buildCandidateEvent a = .ok e ∧
    (⟨.selectCurrentVersion e.orderId,.ok a.currentVersion⟩ : Exchange _ _ _) ∈ log ∧
    e.sequence = a.currentVersion+1
  manual : (⟨.autocommit,.ok false⟩ : Exchange _ _ _) ∈ log

/-- The event, and later its record, are all that is pending. -/
structure Pending (W : WriteSide) (s : RequestSignature) (log : SqlLog) (e : OrderEvent)
    (records : List IdempotencyParameters) : Prop where
  uncommitted : Uncommitted log
  clean : (session log).dirty = false
  events : (session log).events = [e]
  records : (session log).records = records
  states : (session log).states = []
  progress : (session log).progress = []
  appending : Appending W s log e

def writeGuard (W : WriteSide) (s : RequestSignature) (log : SqlLog) : Operation → Prop
  | .autocommit | .rollback => Uncommitted log
  | .tryAdvisoryXactLock key orderId =>
    (key = "order_events_stream" ∧ orderId = s.orderId) ∧ Untouched log
  | .selectCurrentVersion orderId =>
    (∃ c, Validated W s log c ∧ c.event.orderId = orderId) ∧ Untouched log
  | .selectIdempotencyRecord requestId => requestId = s.requestId ∧ Untouched log
  | .selectHistory orderId => orderId = s.orderId ∧ Untouched log
  | .insertOrderEvent e => Untouched log ∧ Appending W s log e
  | .insertIdempotencyRecord p =>
    ∃ e, Pending W s log e [] ∧ PostgresIdempotencyStore.recordParameters s e = .ok p
  | .commit =>
    ∃ e p, Pending W s log e [p] ∧ PostgresIdempotencyStore.recordParameters s e = .ok p
  | _ => False

/-- What a connection may rely on: its autocommit flag, that a version is not negative, and that
ending a transaction succeeds. -/
def connectionReplies (autocommit : Bool) : (op : Operation) → SqlReply op → Prop
  | .autocommit, .ok b => b = autocommit
  | .selectCurrentVersion _, .ok version => 0 ≤ version
  | .commit, r => r = .ok ()
  | .rollback, r => r = .ok ()
  | _, _ => True

def writeContract (autocommit : Bool) (W : WriteSide) (s : RequestSignature) :
    Contract Operation Operation.Answer PyException where
  allowed _ := connectionReplies autocommit
  guard := writeGuard W s

/-- Why an invocation raises. -/
inductive Raised (W : WriteSide) (s : RequestSignature) (log : SqlLog) (e : PyException) : Prop where
  | statement {op : Operation} (plain : op.isAppend = false)
    (replied : (⟨op,.error e⟩ : Exchange _ _ _) ∈ log)
  | append {op : Operation} {cause : PyException} {gateName : String} {candidate : OrderEvent}
    (appends : op.isAppend = true) (replied : (⟨op,.error cause⟩ : Exchange _ _ _) ∈ log)
    (translated : translateAppendError gateName candidate cause = .error e)
  | autocommit (replied : (⟨.autocommit,.ok true⟩ : Exchange Operation Operation.Answer PyException) ∈ log)
  | classified {row : Option (IdempotencyRow × OrderEventRow)}
    (replied : (⟨.selectIdempotencyRecord s.requestId,.ok row⟩ : Exchange _ _ _) ∈ log)
    (raised : PostgresIdempotencyStore.classify s row = .error e)
  | candidate {rows : List OrderEventRow}
    (replied : (⟨.selectHistory s.orderId,.ok rows⟩ : Exchange _ _ _) ∈ log)
    (raised : W.candidateOf s.orderId (rows.map rowToOrderEvent) = .error e)
  | parameters {event : OrderEvent}
    (raised : PostgresIdempotencyStore.recordParameters s event = .error e)

/-- A loaded history whose candidate validation does not allow. -/
def Blocked (W : WriteSide) (s : RequestSignature) (log : SqlLog) : Prop :=
  ∃ rows c, (⟨.selectHistory s.orderId,.ok rows⟩ : Exchange _ _ _) ∈ log ∧
    W.candidateOf s.orderId (rows.map rowToOrderEvent) = .ok c ∧ c.validationDecision.action ≠ .allow

/-- How an invocation ends. -/
def Concluded (W : WriteSide) (s : RequestSignature) (log : SqlLog) :
    Except PyException PostgresWriteSideResult → Prop
  | .error e => Ended log ∧ Raised W s log e
  | .ok v => match v.outcome with
    | .accepted => ∃ e p rest, log = ⟨.commit,.ok ()⟩ :: rest ∧ v.acceptedEvent = some e ∧
        Pending W s rest e [p] ∧ PostgresIdempotencyStore.recordParameters s e = .ok p
    | .replay => Ended log ∧ CheckedAs s v.idempotencyDecision log ∧
        ∃ r, v.idempotencyDecision = .replay r ∧ v.acceptedEvent = some r.acceptedEvent
    | .conflict => Ended log ∧ CheckedAs s v.idempotencyDecision log ∧
        ∃ r, v.idempotencyDecision = .conflict r
    | .validationBlocked => Ended log ∧ Blocked W s log
    | .admissionRejected => Ended log

theorem Concluded.ended {W : WriteSide} {s : RequestSignature} {log : SqlLog}
    {v : PostgresWriteSideResult} (h : Concluded W s log (.ok v)) (hv : v.outcome ≠ .accepted) :
    Ended log := by
  simp only [Concluded] at h
  cases ho : v.outcome with
  | accepted => exact absurd ho hv
  | replay => simp only [ho] at h; exact h.1
  | conflict => simp only [ho] at h; exact h.1
  | validationBlocked => simp only [ho] at h; exact h.1
  | admissionRejected => simpa only [ho] using h

/-- A log that has only grown by reads. -/
structure Reads (log log' : SqlLog) : Prop where
  suffix : log <:+ log'
  unwritten : Unwritten log'
  versions : versions log' = versions log

namespace WriteContract
variable {W : WriteSide} {s : RequestSignature} {log : SqlLog} {autocommit : Bool}

theorem Raised.cons {e : PyException} (h : Raised W s log e)
    (x : Exchange Operation Operation.Answer PyException) : Raised W s (x :: log) e := by
  cases h with
  | statement plain replied => exact .statement plain (List.mem_cons_of_mem _ replied)
  | append appends replied translated => exact .append appends (List.mem_cons_of_mem _ replied) translated
  | autocommit replied => exact .autocommit (List.mem_cons_of_mem _ replied)
  | classified replied raised => exact .classified (List.mem_cons_of_mem _ replied) raised
  | candidate replied raised => exact .candidate (List.mem_cons_of_mem _ replied) raised
  | parameters raised => exact .parameters raised

theorem Ended.rollback (hu : Uncommitted log) : Ended (⟨.rollback,.ok ()⟩ :: log) :=
  ⟨hu.cons (by simp) _,rfl⟩

theorem Reads.read {op : Operation} (hu : Unwritten log) (hop : op ≠ .commit)
    {reply : SqlReply op} (hrows : (session (⟨op,reply⟩ :: log)).NoRows)
    (hversions : StreamingCompass.versions (⟨op,reply⟩ :: log) = StreamingCompass.versions log) :
    Reads log (⟨op,reply⟩ :: log) :=
  ⟨List.suffix_cons _ _,⟨hu.uncommitted.cons hop _,hrows⟩,hversions⟩

/-! ## The stages -/

theorem meets_check {Q : Routine.Post Operation Operation.Answer PyException Unit IdempotencyDecision}
    (hu : Untouched log)
    (hraised : ∀ log' e, Reads log log' → Raised W s log' e → Q log' (.error e) ())
    (h : ∀ log' d, Reads log log' → CheckedAs s d log' → histories log' = histories log →
      (session log').dirty = false → Q log' (.ok d) ()) :
    (PostgresIdempotencyStore.check s).Meets (writeContract autocommit W s) () log Q := by
  simp only [PostgresIdempotencyStore.check, Routine.meets_bind, Routine.meets_perform]
  refine ⟨⟨rfl,hu⟩,fun reply _ => ?_⟩
  have hreads : Reads log (⟨.selectIdempotencyRecord s.requestId,reply⟩ :: log) := by
    refine Reads.read hu.toUnwritten (by simp) ?_ rfl
    cases reply <;> exact ⟨hu.noRows.events,hu.noRows.records,hu.noRows.states,hu.noRows.progress⟩
  cases reply with
  | error e => exact hraised _ _ hreads (.statement rfl (List.mem_cons_self ..))
  | ok row =>
    simp only [Routine.meets_ofExcept]
    cases hc : PostgresIdempotencyStore.classify s row with
    | error e => exact hraised _ _ hreads (.classified (List.mem_cons_self ..) hc)
    | ok d => exact h _ _ hreads ⟨row,List.mem_cons_self ..,hc⟩ rfl hu.clean

theorem meets_load {Q : Routine.Post Operation Operation.Answer PyException Unit (List OrderEvent)}
    (hu : Untouched log)
    (hraised : ∀ log' e, Reads log log' → Raised W s log' e → Q log' (.error e) ())
    (h : ∀ log' rows, Reads log log' → (⟨.selectHistory s.orderId,.ok rows⟩ : Exchange _ _ _) ∈ log' →
      histories log' = rows :: histories log → (session log').dirty = false →
      Q log' (.ok (rows.map rowToOrderEvent)) ()) :
    (PostgresEventStore.load s.orderId).Meets (writeContract autocommit W s) () log Q := by
  simp only [PostgresEventStore.load, Routine.meets_bind, Routine.meets_perform]
  refine ⟨⟨rfl,hu⟩,fun reply _ => ?_⟩
  have hreads : Reads log (⟨.selectHistory s.orderId,reply⟩ :: log) := by
    refine Reads.read hu.toUnwritten (by simp) ?_ rfl
    cases reply <;> exact ⟨hu.noRows.events,hu.noRows.records,hu.noRows.states,hu.noRows.progress⟩
  cases reply with
  | error e => exact hraised _ _ hreads (.statement rfl (List.mem_cons_self ..))
  | ok rows => exact h _ _ hreads (List.mem_cons_self ..) rfl hu.clean

theorem meets_prepare {gate : Gate}
    {Q : Routine.Post Operation Operation.Answer PyException Unit StreamAdmissionResult}
    (hu : Untouched log) (hmanual : autocommit = false)
    (hraised : ∀ log' e, Reads log log' → Raised W s log' e → Q log' (.error e) ())
    (h : ∀ log' p, Reads log log' → Prepared s log' gate p → histories log' = histories log →
      (session log').dirty = false → Q log' (.ok p) ()) :
    (WriteSide.primaryPrepare gate s.orderId).Meets (writeContract autocommit W s) () log Q := by
  cases gate with
  | optimistic => exact h _ _ ⟨List.suffix_refl _,hu.toUnwritten,rfl⟩ .notLocking rfl hu.clean
  | pessimistic =>
    simp only [WriteSide.primaryPrepare, Routine.meets_bind, Routine.meets_perform]
    refine ⟨hu.uncommitted,fun reply hreply => ?_⟩
    have hreads1 : Reads log (⟨.autocommit,reply⟩ :: log) := Reads.read hu.toUnwritten (by simp) hu.noRows rfl
    cases reply with
    | error e => exact hraised _ _ hreads1 (.statement rfl (List.mem_cons_self ..))
    | ok flag =>
      -- the connection does not autocommit, as the unit of work has checked
      obtain rfl : flag = false := by
        have hflag : flag = autocommit := hreply
        rw [hflag, hmanual]
      simp only [Bool.false_eq_true, if_false, Routine.meets_bind, Routine.meets_perform]
      refine ⟨⟨⟨rfl,rfl⟩,hreads1.unwritten,hu.clean⟩,fun reply _ => ?_⟩
      have hreads2 : Reads (⟨.autocommit,.ok false⟩ :: log)
          (⟨.tryAdvisoryXactLock "order_events_stream" s.orderId,reply⟩ ::
            ⟨.autocommit,.ok false⟩ :: log) := by
        refine Reads.read hreads1.unwritten (by simp) ?_ rfl
        cases reply <;>
          exact ⟨hu.noRows.events,hu.noRows.records,hu.noRows.states,hu.noRows.progress⟩
      have hreads : Reads log _ := ⟨hreads1.suffix.trans hreads2.suffix,hreads2.unwritten,
        hreads2.versions.trans hreads1.versions⟩
      cases reply with
      | error e =>
        exact hraised _ _ hreads (.statement rfl (List.mem_cons_self ..))
      | ok acquired =>
        cases acquired with
        | true => exact h _ _ hreads (.acquired (List.mem_cons_self ..)) rfl hu.clean
        | false => exact h _ _ hreads (.refused (List.mem_cons_self ..)) rfl hu.clean

theorem meets_append {c : Candidate} {Q : Routine.Post Operation Operation.Answer PyException Unit Unit}
    (hu : Untouched log) (hbuilt : Validated W s log c)
    (hunread : versions log = []) (hmanual : (⟨.autocommit,.ok false⟩ : Exchange _ _ _) ∈ log)
    (herror : ∀ log' e, log <:+ log' → histories log' = histories log → Uncommitted log' →
      AppendRefused W s log' c e → (∀ gateName candidate e',
        translateAppendError gateName candidate e = .error e' → Raised W s log' e') →
      Q log' (.error e) ())
    (h : ∀ log', log <:+ log' → histories log' = histories log →
      versions log' = [c.expectedCurrentVersion] → Pending W s log' c.event [] → Q log' (.ok ()) ()) :
    (PostgresEventStore.append c.event c.expectedCurrentVersion).Meets
      (writeContract autocommit W s) () log Q := by
  simp only [PostgresEventStore.append, Routine.meets_bind, Routine.meets_perform]
  refine ⟨⟨⟨c,hbuilt,rfl⟩,hu⟩,fun reply hreply => ?_⟩
  have hu1 : Uncommitted (⟨.selectCurrentVersion c.event.orderId,reply⟩ :: log) :=
    hu.uncommitted.cons (by simp) _
  have hs1 : log <:+ ⟨.selectCurrentVersion c.event.orderId,reply⟩ :: log := List.suffix_cons _ _
  cases reply with
  | error e =>
    refine herror _ _ hs1 rfl hu1 (.statement rfl (List.mem_cons_self ..) ?_)
      (fun _ _ _ ht => .append rfl (List.mem_cons_self ..) ht)
    rw [versions_read_error, hunread]
    simp
  | ok version =>
    have hv1 : versions (⟨.selectCurrentVersion c.event.orderId,.ok version⟩ :: log) = [version] := by
      rw [versions_read, hunread]
    simp only
    split
    · rename_i hne
      refine herror _ _ hs1 rfl hu1 (.moved (List.nil_append _).symm hbuilt.built hv1 hne)
        (fun gateName candidate e' ht => ?_)
      have hnew : AppendVersionMismatchEvidence.new c.expectedCurrentVersion version =
          .ok ⟨c.expectedCurrentVersion,version⟩ :=
        AppendVersionMismatchEvidence.new_eq_ok.mpr ⟨⟨hbuilt.expected_nonneg,hreply,Ne.symm hne⟩,rfl⟩
      simp only [translateAppendError, hnew, ok_bind] at ht
      cases ht
    · rename_i hversion
      rw [not_not.mp hversion] at hv1 hu1 hs1 ⊢
      split
      · rename_i hbreaks
        exact herror _ _ hs1 rfl hu1 (.discontinuous hv1 hbreaks)
          (fun gateName candidate e' ht => by cases ht)
      · rename_i hsequence
        obtain ⟨rows,hmem,hc⟩ := hbuilt.built
        obtain ⟨a,ha,he,hexp,-⟩ := WriteSide.candidateOf_eq_ok hc
        have hmem1 {x : Exchange Operation Operation.Answer PyException} (hx : x ∈ log) :
            x ∈ (⟨.selectCurrentVersion c.event.orderId,.ok c.expectedCurrentVersion⟩ :: log :
              SqlLog) := List.mem_cons_of_mem _ hx
        have happ : Appending W s
            (⟨.selectCurrentVersion c.event.orderId,.ok c.expectedCurrentVersion⟩ :: log) c.event := by
          refine ⟨⟨rows,a,hmem1 hmem,ha,he,?_,?_⟩,hmem1 hmanual⟩
          · rw [← hexp]
            exact List.mem_cons_self ..
          · rw [← hexp]
            exact not_not.mp hsequence
        simp only [Routine.meets_perform]
        refine ⟨⟨⟨⟨hu1,hu.noRows.events,hu.noRows.records,hu.noRows.states,hu.noRows.progress⟩,
          hu.clean⟩,happ⟩,fun reply _ => ?_⟩
        have hu2 : Uncommitted (⟨.insertOrderEvent c.event,reply⟩ ::
            ⟨.selectCurrentVersion c.event.orderId,.ok c.expectedCurrentVersion⟩ :: log) :=
          hu1.cons (by simp) _
        have hs2 : log <:+ ⟨.insertOrderEvent c.event,reply⟩ ::
            ⟨.selectCurrentVersion c.event.orderId,.ok c.expectedCurrentVersion⟩ :: log :=
          hs1.trans (List.suffix_cons _ _)
        cases reply with
        | error e =>
          refine herror _ _ hs2 rfl hu2 (.statement rfl (List.mem_cons_self ..) ?_)
            (fun _ _ _ ht => .append rfl (List.mem_cons_self ..) ht)
          rw [versions_cons_plain _ rfl, hv1]
          simp
        | ok _ =>
          refine h _ hs2 rfl ((versions_cons_plain _ rfl).trans hv1)
            ⟨hu2,hu.clean,?_,hu.noRows.records,hu.noRows.states,hu.noRows.progress,?_⟩
          · change (session log).events ++ [c.event] = [c.event]
            rw [hu.noRows.events]
            rfl
          · obtain ⟨⟨rows,a,h1,h2,h3,h4,h5⟩,h6⟩ := happ
            exact ⟨⟨rows,a,List.mem_cons_of_mem _ h1,h2,h3,List.mem_cons_of_mem _ h4,h5⟩,
              List.mem_cons_of_mem _ h6⟩

/-- How an append can end. -/
inductive Appended (W : WriteSide) (s : RequestSignature) (log : SqlLog) (gateName : String)
    (c : Candidate) : AdmissionResult → Prop where
  | refused {cause : PyException} {admission : AdmissionResult} (refused : AppendRefused W s log c cause)
    (translated : translateAppendError gateName c.event cause = .ok admission) :
    Appended W s log gateName c admission
  | admitted (pending : Pending W s log c.event [])
    (reads : versions log = [c.expectedCurrentVersion]) :
    Appended W s log gateName c ⟨.admitted,"Event admitted by " ++ gateName,c.event.eventId,
      some c.event.eventId,none⟩

theorem meets_appendWithTranslation {gateName : String} {c : Candidate}
    {Q : Routine.Post Operation Operation.Answer PyException Unit AdmissionResult}
    (hu : Untouched log) (hbuilt : Validated W s log c)
    (hunread : versions log = []) (hmanual : (⟨.autocommit,.ok false⟩ : Exchange _ _ _) ∈ log)
    (hraised : ∀ log' e, Uncommitted log' → Raised W s log' e → Q log' (.error e) ())
    (h : ∀ log' a, log <:+ log' → histories log' = histories log → Uncommitted log' →
      Appended W s log' gateName c a → Q log' (.ok a) ()) :
    (appendWithTranslation gateName c.event c.expectedCurrentVersion).Meets
      (writeContract autocommit W s) () log Q := by
  simp only [appendWithTranslation, Routine.meets_bind, Routine.meets_attempt]
  apply meets_append hu hbuilt hunread hmanual
  · intro log' e hs hh hu' hrefused hr
    simp only [Routine.meets_ofExcept]
    cases ht : translateAppendError gateName c.event e with
    | ok a => exact h _ _ hs hh hu' (.refused hrefused ht)
    | error e' => exact hraised _ _ hu' (hr _ _ _ ht)
  · intro log' hs hh hv hpending
    exact h _ _ hs hh hpending.uncommitted (.admitted hpending hv)

/-- How an invocation ends, with the evidence for what it returns. -/
def Finished (W : WriteSide) (s : RequestSignature) (log : SqlLog)
    (r : Except PyException PostgresWriteSideResult) : Prop :=
  Concluded W s log r ∧ ∀ v, r = .ok v → Delivered W s log v

/-- What the body of the unit of work leaves: an accepted result to be committed, any
other one concluded, or an exception before its rollback. -/
def BodyPost (W : WriteSide) (s : RequestSignature) (log : SqlLog) :
    Except PyException PostgresWriteSideResult → Prop
  | .error e => Uncommitted log ∧ Raised W s log e
  | .ok v => Delivered W s log v ∧
    if v.outcome = .accepted then ∃ e p, v.acceptedEvent = some e ∧ Pending W s log e [p] ∧
      PostgresIdempotencyStore.recordParameters s e = .ok p
    else Concluded W s log (.ok v)

theorem Finished.raised {e : PyException} (he : Ended log) (hr : Raised W s log e) :
    Finished W s log (.error e) := ⟨⟨he,hr⟩,fun _ h => nomatch h⟩

theorem Finished.ok {v : PostgresWriteSideResult} (hc : Concluded W s log (.ok v))
    (hd : Delivered W s log v) : Finished W s log (.ok v) :=
  ⟨hc,fun _ h => Except.ok.inj h ▸ hd⟩

theorem meets_primaryUnitOfWork {body : PrimaryRoutine PostgresWriteSideResult}
    (hu : Uncommitted log) (hidle : session log = .idle)
    (hbody : autocommit = false → body.Meets (writeContract autocommit W s) ()
      (⟨.autocommit,.ok false⟩ :: log) (fun log r _ => BodyPost W s log r)) :
    (primaryUnitOfWork body).Meets (writeContract autocommit W s) () log
      (fun log r _ => Finished W s log r) := by
  simp only [primaryUnitOfWork, Routine.meets_bind, Routine.meets_perform]
  refine ⟨hu,fun reply hreply => ?_⟩
  have hended : Ended (⟨.autocommit,reply⟩ :: log) := by
    refine ⟨hu.cons (by simp) _,?_⟩
    rw [session_cons, hidle]
    rfl
  cases reply with
  | error e => exact .raised hended (.statement rfl (List.mem_cons_self ..))
  | ok flag =>
    have hflag : flag = autocommit := hreply
    cases flag with
    | true => exact .raised hended (.autocommit (List.mem_cons_self ..))
    | false =>
      simp only [Bool.false_eq_true, if_false, Routine.meets_bind, Routine.meets_attempt]
      refine (hbody hflag.symm).mono (fun log2 r _ hpost => ?_)
      cases r with
      | error e =>
        simp only [Routine.meets_bind, Routine.meets_perform]
        refine ⟨hpost.1,fun reply hr => ?_⟩
        obtain rfl : reply = .ok () := hr
        exact .raised (Ended.rollback hpost.1) (Raised.cons hpost.2 _)
      | ok v =>
        obtain ⟨hdelivered,hpost⟩ := hpost
        split at hpost
        · rename_i ho
          obtain ⟨e,p,hevent,hpending,hp⟩ := hpost
          simp only [ho, if_true, Routine.meets_bind, Routine.meets_perform]
          refine ⟨⟨e,p,hpending,hp⟩,fun reply hr => ?_⟩
          obtain rfl : reply = .ok () := hr
          refine Finished.ok ?_ (hdelivered.cons rfl)
          simp only [Concluded, ho]
          exact ⟨e,p,log2,rfl,hevent,hpending,hp⟩
        · rename_i ho
          simp only [ho, if_false]
          exact .ok hpost hdelivered

theorem BodyPost.rolledBack {v : PostgresWriteSideResult} (hu : Uncommitted log)
    (hv : v.outcome ≠ .accepted) (h : Concluded W s (⟨.rollback,.ok ()⟩ :: log) (.ok v))
    (hd : Delivered W s log v) :
    (do
      sql .rollback
      pure v : PrimaryRoutine PostgresWriteSideResult).Meets (writeContract autocommit W s) () log
      (fun log r _ => BodyPost W s log r) := by
  simp only [Routine.meets_bind, Routine.meets_perform]
  refine ⟨hu,fun reply hr => ?_⟩
  obtain rfl : reply = .ok () := hr
  simp only [Routine.meets_pure, BodyPost, hv, if_false]
  exact ⟨hd.cons rfl,h⟩

/-- A decided result, once the transaction has ended. -/
theorem concluded_decided {d : IdempotencyDecision} {validation : Option Candidate}
    (hchecked : CheckedAs s d log) (hmiss : d.verdict ≠ .miss) (hended : Ended log) :
    Concluded W s log (.ok (.decided d validation)) := by
  obtain ⟨row,-,hrow⟩ := id hchecked
  rcases PostgresIdempotencyStore.classify_cases hrow with ⟨rfl,-⟩ | ⟨r,-,rfl | rfl⟩
  · exact absurd rfl hmiss
  · exact ⟨hended,hchecked,_,rfl,rfl⟩
  · exact ⟨hended,hchecked,_,rfl⟩

/-- A candidate that may be appended, in the log so far. -/
structure Admissible (W : WriteSide) (s : RequestSignature) (log : SqlLog) (c : Candidate)
    (p : StreamAdmissionResult) : Prop where
  clean : (session log).dirty = false
  manual : (⟨.autocommit,.ok false⟩ : Exchange Operation Operation.Answer PyException) ∈ log
  checked : CheckedAs s .miss log
  prepared : Prepared s log W.gate p
  admitted : p.verdict = .admitted
  validated : Validated W s log c
  allowed : c.validationDecision.action = .allow
  unread : versions log = []

theorem meets_primaryAppend {p : StreamAdmissionResult} {c : Candidate} (hu : Unwritten log)
    (ha : Admissible W s log c p) :
    (W.primaryAppend s .miss p c).Meets (writeContract autocommit W s) () log
      (fun log r _ => BodyPost W s log r) := by
  simp only [WriteSide.primaryAppend, Routine.meets_bind]
  apply meets_appendWithTranslation ⟨hu,ha.clean⟩ ha.validated ha.unread ha.manual
  · exact fun log' e hu' hr => ⟨hu',hr⟩
  · intro log2 admission hs2 hh2 hu2 happended
    have hvalidated2 := ha.validated.reads hs2 hh2
    cases happended with
    | refused hrefused htranslated =>
      have hverdict := translateAppendError_not_admitted htranslated
      simp only [ne_eq, hverdict, not_false_eq_true, if_true]
      exact BodyPost.rolledBack hu2 (by simp) (Ended.rollback hu2) (.notAppended (ha.checked.mono hs2)
        (ha.prepared.mono hs2) ha.admitted hvalidated2 ha.allowed hrefused htranslated)
    | admitted hpending hreads =>
      simp only [ne_eq, not_true_eq_false, if_false]
      simp only [PostgresIdempotencyStore.record, Routine.meets_bind, Routine.meets_ofExcept]
      cases hp : PostgresIdempotencyStore.recordParameters s c.event with
      | error e => exact ⟨hu2,.parameters hp⟩
      | ok parameters =>
        simp only [Routine.meets_perform]
        refine ⟨⟨c.event,hpending,hp⟩,fun reply _ => ?_⟩
        have hu3 : Uncommitted (⟨.insertIdempotencyRecord parameters,reply⟩ :: log2) :=
          hu2.cons (by simp) _
        cases reply with
        | error e => exact ⟨hu3,.statement rfl (List.mem_cons_self ..)⟩
        | ok _ =>
          have hdone : Pending W s (⟨.insertIdempotencyRecord parameters,.ok ()⟩ :: log2) c.event
              [parameters] := by
            refine ⟨hu3,hpending.clean,hpending.events,?_,hpending.states,hpending.progress,?_⟩
            · change (session log2).records ++ [parameters] = [parameters]
              rw [hpending.records]
              rfl
            · obtain ⟨⟨rows,a,i1,i2,i3,i4,i5⟩,i6⟩ := hpending.appending
              exact ⟨⟨rows,a,List.mem_cons_of_mem _ i1,i2,i3,List.mem_cons_of_mem _ i4,i5⟩,
                List.mem_cons_of_mem _ i6⟩
          have hdelivered := Delivered.accepted (ha.checked.mono hs2) (ha.prepared.mono hs2) ha.admitted
            hvalidated2 ha.allowed hreads
          simp only [Routine.meets_pure, BodyPost, PostgresWriteSideResult.accepted_outcome, if_true]
          exact ⟨hdelivered.cons rfl,c.event,parameters,rfl,hdone,hp⟩

theorem checkedAs_miss {d : IdempotencyDecision} (h : CheckedAs s d log) (hd : ¬d.verdict ≠ .miss) :
    d = .miss := by
  obtain ⟨row,-,hrow⟩ := h
  rcases PostgresIdempotencyStore.classify_cases hrow with ⟨rfl,-⟩ | ⟨r,-,rfl | rfl⟩
  · rfl
  · exact absurd (by simp [IdempotencyDecision.replay]) hd
  · exact absurd (by simp [IdempotencyDecision.conflict]) hd

theorem meets_primaryInTransaction (hplaced : W.placement = .inTransaction) :
    (W.primaryInTransaction s).Meets (writeContract autocommit W s) () []
      (fun log r _ => Finished W s log r) := by
  refine meets_primaryUnitOfWork .nil rfl (fun hmanual => ?_)
  have hu0 : Untouched [⟨.autocommit,.ok false⟩] :=
    ⟨⟨Uncommitted.nil.cons (by simp) _,rfl,rfl,rfl,rfl⟩,rfl⟩
  have hraised (log : SqlLog) (e : PyException) (hu : Unwritten log) (hr : Raised W s log e) :
      BodyPost W s log (.error e) := ⟨hu.uncommitted,hr⟩
  simp only [Routine.meets_bind]
  apply meets_check hu0 (fun log e hreads hr => hraised log e hreads.unwritten hr)
  intro log2 d hreads2 hchecked hh2 hclean2
  simp only
  split
  · rename_i hmiss
    exact BodyPost.rolledBack hreads2.unwritten.uncommitted PostgresWriteSideResult.decided_outcome_ne
      (concluded_decided (hchecked.cons _) hmiss (Ended.rollback hreads2.unwritten.uncommitted))
      (.decided hchecked hmiss hreads2.versions (fun _ h => by cases h))
  · rename_i hmiss
    obtain rfl := checkedAs_miss hchecked hmiss
    simp only [Routine.meets_bind]
    apply meets_prepare ⟨hreads2.unwritten,hclean2⟩ hmanual
      (fun log e hreads hr => hraised log e hreads.unwritten hr)
    intro log3 prepared hreads3 hprepared hh3 hclean3
    have hu3 := hreads3.unwritten.uncommitted
    have hv3 : versions log3 = [] := hreads3.versions.trans hreads2.versions
    simp only
    split
    · rename_i hrefused
      exact BodyPost.rolledBack hu3 (by simp) (Ended.rollback hu3)
        (.notPrepared (hchecked.mono hreads3.suffix) hprepared hrefused (by simp [hplaced]) hv3
          (fun _ h => by cases h))
    · rename_i hadmitted
      simp only [Routine.meets_bind]
      apply meets_load ⟨hreads3.unwritten,hclean3⟩ (fun log e hreads hr => hraised log e hreads.unwritten hr)
      intro log4 rows hreads4 hmem hh4 hclean4
      have hu4 := hreads4.unwritten.uncommitted
      have hv4 : versions log4 = [] := hreads4.versions.trans hv3
      have hchecked4 := (hchecked.mono hreads3.suffix).mono hreads4.suffix
      have hprepared4 := hprepared.mono hreads4.suffix
      have hrows4 : histories log4 = [rows] := by
        rw [hh4, hh3, hh2]
        rfl
      simp only [Routine.meets_ofExcept]
      cases hc : W.candidateOf s.orderId (rows.map rowToOrderEvent) with
      | error e => exact hraised log4 e hreads4.unwritten (.candidate hmem hc)
      | ok c =>
        simp only
        split
        · rename_i hblocked
          refine BodyPost.rolledBack hu4 (by simp)
            ⟨Ended.rollback hu4,rows,c,List.mem_cons_of_mem _ hmem,hc,hblocked⟩
            (.blocked hchecked4 (fun p hp => ?_) hv4 ⟨rows,hrows4,hmem,hc⟩ hblocked)
          obtain rfl := Option.some.inj hp
          exact ⟨hprepared4,not_not.mp hadmitted⟩
        · rename_i hallowed
          refine meets_primaryAppend hreads4.unwritten ⟨hclean4,?_,hchecked4,hprepared4,
            not_not.mp hadmitted,⟨rows,hrows4,hmem,hc⟩,not_not.mp hallowed,hv4⟩
          · exact hreads4.suffix.subset (hreads3.suffix.subset
              (hreads2.suffix.subset (List.mem_cons_self ..)))

/-- The reads before the unit of work end with a closed transaction. -/
theorem meets_primaryReads
    {Q : Routine.Post Operation Operation.Answer PyException Unit
      (PostgresWriteSideResult ⊕ IdempotencyDecision × List OrderEvent)}
    (hleft : ∀ log r, Finished W s log r → Q log (r.map .inl) ())
    (hright : ∀ log rows, Uncommitted log → session log = .idle → CheckedAs s .miss log →
      versions log = [] → histories log = [rows] →
      (⟨.selectHistory s.orderId,.ok rows⟩ : Exchange _ _ _) ∈ log →
      Q log (.ok (.inr (.miss,rows.map rowToOrderEvent))) ()) :
    (WriteSide.primaryReads s).Meets (writeContract autocommit W s) () [] Q := by
  have hcleanup {log : SqlLog} (hu : Uncommitted log)
      {r : Except PyException (PostgresWriteSideResult ⊕ IdempotencyDecision × List OrderEvent)}
      (h : Q (⟨.rollback,.ok ()⟩ :: log) r ()) :
      (sql .rollback : PrimaryRoutine Unit).Meets (writeContract autocommit W s) ()
        log (fun log c st => Q log (Routine.cleanedUp r c) st) := by
    refine ⟨hu,fun reply hr => ?_⟩
    obtain rfl : reply = .ok () := hr
    exact h
  have hraised (log : SqlLog) (e : PyException) (hreads : Reads [] log) (hr : Raised W s log e) :=
    hcleanup hreads.unwritten.uncommitted (hleft _ (.error e)
      (.raised (Ended.rollback hreads.unwritten.uncommitted) (Raised.cons hr _)))
  simp only [WriteSide.primaryReads, Routine.meets_tryFinally, Routine.meets_bind]
  apply meets_check ⟨⟨.nil,rfl,rfl,rfl,rfl⟩,rfl⟩ hraised
  intro log2 d hreads2 hchecked hh2 hclean2
  have hu2 := hreads2.unwritten.uncommitted
  simp only
  split
  · rename_i hmiss
    -- the result is formed before the cleanup that ends the transaction
    have hdelivered : Delivered W s log2 (.decided d none) :=
      .decided hchecked hmiss hreads2.versions (fun _ h => by cases h)
    exact hcleanup hu2 (hleft _ (.ok _) (.ok
      (concluded_decided (hchecked.cons _) hmiss (Ended.rollback hu2)) (hdelivered.cons rfl)))
  · rename_i hmiss
    obtain rfl := checkedAs_miss hchecked hmiss
    simp only [Routine.meets_bind]
    apply meets_load ⟨hreads2.unwritten,hclean2⟩ (fun log e hreads hr => hraised log e
      ⟨hreads2.suffix.trans hreads.suffix,hreads.unwritten,hreads.versions.trans hreads2.versions⟩ hr)
    intro log3 rows hreads3 hmem hh3 _
    refine hcleanup hreads3.unwritten.uncommitted (hright _ rows
      (hreads3.unwritten.uncommitted.cons (by simp) _) rfl ((hchecked.mono hreads3.suffix).cons _)
      ((versions_cons_plain _ rfl).trans (hreads3.versions.trans hreads2.versions)) ?_
      (List.mem_cons_of_mem _ hmem))
    rw [histories_cons_plain _ rfl, hh3, hh2]
    rfl

theorem meets_primaryAdmission {c : Candidate} (hu : Uncommitted log) (hidle : session log = .idle)
    (hplaced : W.placement ≠ .inTransaction) (hunread : versions log = [])
    (hvalidated : Validated W s log c) (hallowed : c.validationDecision.action = .allow) :
    (W.primaryAdmission s c).Meets (writeContract autocommit W s) () log
      (fun log r _ => Finished W s log r) := by
  refine meets_primaryUnitOfWork hu hidle (fun hmanual => ?_)
  have hu0 : Untouched (⟨.autocommit,.ok false⟩ :: log) := by
    refine ⟨⟨hu.cons (by simp) _,?_⟩,?_⟩
    · rw [session_cons, hidle]
      exact ⟨rfl,rfl,rfl,rfl⟩
    · rw [session_cons, hidle]
      rfl
  have hv0 : versions (⟨.autocommit,.ok false⟩ :: log) = [] := (versions_cons_plain _ rfl).trans hunread
  have hraised (log : SqlLog) (e : PyException) (hu : Unwritten log) (hr : Raised W s log e) :
      BodyPost W s log (.error e) := ⟨hu.uncommitted,hr⟩
  simp only [Routine.meets_bind]
  apply meets_check hu0 (fun log e hreads hr => hraised log e hreads.unwritten hr)
  intro log2 d hreads2 hchecked hh2 hclean2
  have hvalidated2 := (hvalidated.cons rfl).reads hreads2.suffix hh2
  have hv2 : versions log2 = [] := hreads2.versions.trans hv0
  simp only
  split
  · rename_i hmiss
    refine BodyPost.rolledBack hreads2.unwritten.uncommitted PostgresWriteSideResult.decided_outcome_ne
      (concluded_decided (hchecked.cons _) hmiss (Ended.rollback hreads2.unwritten.uncommitted))
      (.decided hchecked hmiss hv2 (fun c' hc => ?_))
    obtain rfl := Option.some.inj hc
    exact ⟨hvalidated2,hallowed⟩
  · rename_i hmiss
    obtain rfl := checkedAs_miss hchecked hmiss
    simp only [Routine.meets_bind]
    apply meets_prepare ⟨hreads2.unwritten,hclean2⟩ hmanual
      (fun log e hreads hr => hraised log e hreads.unwritten hr)
    intro log3 prepared hreads3 hprepared hh3 hclean3
    have hu3 := hreads3.unwritten.uncommitted
    have hv3 : versions log3 = [] := hreads3.versions.trans hv2
    have hvalidated3 := hvalidated2.reads hreads3.suffix hh3
    have hchecked3 := hchecked.mono hreads3.suffix
    simp only
    split
    · rename_i hrefused
      refine BodyPost.rolledBack hu3 (by simp) (Ended.rollback hu3)
        (.notPrepared hchecked3 hprepared hrefused (by simp [hplaced]) hv3 (fun c' hc => ?_))
      obtain rfl := Option.some.inj hc
      exact ⟨hvalidated3,hallowed⟩
    · rename_i hadmitted
      refine meets_primaryAppend hreads3.unwritten ⟨hclean3,?_,hchecked3,hprepared,
        not_not.mp hadmitted,hvalidated3,hallowed,hv3⟩
      · exact (hreads2.suffix.trans hreads3.suffix).subset (List.mem_cons_self ..)

theorem meets_primaryPreTransaction (hplaced : W.placement ≠ .inTransaction) :
    (W.primaryPreTransaction s).Meets (writeContract autocommit W s) () []
      (fun log r _ => Finished W s log r) := by
  simp only [WriteSide.primaryPreTransaction, Routine.meets_bind]
  apply meets_primaryReads
  · intro log r hfinished
    cases r with
    | error e => exact hfinished
    | ok v => exact hfinished
  · intro log rows hu hidle hchecked hunread hrows hmem
    have hended : Ended log := ⟨hu,by rw [hidle]; rfl⟩
    simp only [Routine.meets_bind, Routine.meets_ofExcept]
    cases hc : W.candidateOf s.orderId (rows.map rowToOrderEvent) with
    | error e => exact .raised hended (.candidate hmem hc)
    | ok c =>
      simp only
      split
      · rename_i hblocked
        exact .ok ⟨hended,rows,c,hmem,hc,hblocked⟩
          (.blocked hchecked (fun _ h => by cases h) hunread ⟨rows,hrows,hmem,hc⟩ hblocked)
      · rename_i hallowed
        exact meets_primaryAdmission hu hidle hplaced hunread ⟨rows,hrows,hmem,hc⟩
          (not_not.mp hallowed)

end WriteContract

namespace WriteInvocation

theorem primary_finishes (v : WriteInvocation) (autocommit : Bool) :
    v.primary.Meets (writeContract autocommit v.writeSide v.signature)
      (WriteContract.Finished v.writeSide v.signature) [] := by
  rw [primary, Program.meets_bind]
  have h : (v.writeSide.primary v.signature).Meets (writeContract autocommit v.writeSide v.signature)
      () [] (fun log r _ => WriteContract.Finished v.writeSide v.signature log r) := by
    unfold WriteSide.primary
    split
    · rename_i hplaced
      exact WriteContract.meets_primaryInTransaction hplaced
    · rename_i hplaced
      exact WriteContract.meets_primaryPreTransaction (by rw [hplaced]; decide)
  exact h

/-- Every way an invocation can go meets the write contract, and what it returns has its
evidence. -/
theorem program_finishes (v : WriteInvocation) (autocommit : Bool) :
    v.program.Meets (writeContract autocommit v.writeSide v.signature)
      (fun log r => WriteContract.Finished v.writeSide v.signature log
        (r.map (fun d => d.producerValue.result))) [] := by
  refine (v.program_primary.meets (v.primary_finishes autocommit)).mono (fun log r h => ?_)
  obtain ⟨r',rfl,hr⟩ := h
  exact hr

theorem program_meets (v : WriteInvocation) (autocommit : Bool) :
    v.program.Meets (writeContract autocommit v.writeSide v.signature)
      (fun log r => Concluded v.writeSide v.signature log
        (r.map (fun d => d.producerValue.result))) [] :=
  (v.program_finishes autocommit).mono (fun _ _ h => h.1)

end WriteInvocation
end StreamingCompass
