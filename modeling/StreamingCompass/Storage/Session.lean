import StreamingCompass.Storage.Integrity

/-! # Sessions

What a connection's exchanges since its last commit or rollback say about its
transaction. The session is read off the log alone; the server's transaction mirrors it
as long as rows are written only inside an explicit transaction.
-/
namespace StreamingCompass
open Interleaving

structure Session where
  isOpen : Bool
  /-- a statement failed -/
  dirty : Bool
  began : Bool
  events : List OrderEvent
  records : List IdempotencyParameters
  /-- latest first -/
  states : List ProjectionStateParameters
  /-- latest first -/
  progress : List ProgressRow
deriving DecidableEq

namespace Session

def idle : Session := ⟨false,false,false,[],[],[],[]⟩

def failed (s : Session) : Session := {s with isOpen := true, dirty := true}
def touched (s : Session) : Session := {s with isOpen := true}

def step (s : Session) : (op : Operation) → SqlReply op → Session
  | .commit, _ => idle
  | .rollback, _ => idle
  | .autocommit, _ => s
  | .transactionStatus, _ => s
  | .begin, .ok _ => {s with isOpen := true, began := true}
  | .begin, .error _ => s
  | .insertOrderEvent e, .ok _ => {s with isOpen := true, events := s.events ++ [e]}
  | .insertIdempotencyRecord p, .ok _ => {s with isOpen := true, records := s.records ++ [p]}
  | .upsertProjectionState p, .ok _ => {s with isOpen := true, states := p :: s.states}
  | .advanceProgress p, .ok (some _) => {s with isOpen := true, progress := p :: s.progress}
  | _, .ok _ => s.touched
  | _, .error _ => s.failed

end Session

/-- The session after a log, whose latest exchange comes first. -/
def session : SqlLog → Session
  | [] => .idle
  | x :: log => (session log).step x.1 x.2

@[simp] theorem session_nil : session [] = .idle := rfl
@[simp] theorem session_cons (op : Operation) (reply : SqlReply op) (log : SqlLog) :
    session (⟨op,reply⟩ :: log) = (session log).step op reply := rfl

/-- A pending event was inserted successfully. -/
theorem mem_of_session_events {log : SqlLog} {e : OrderEvent} (h : e ∈ (session log).events) :
    (⟨.insertOrderEvent e,.ok ()⟩ : Exchange Operation Operation.Answer PyException) ∈ log := by
  induction log with
  | nil => simp [Session.idle] at h
  | cons x log ih =>
    rcases x with ⟨op,reply⟩
    have hold (hs : ((session log).step op reply).events = (session log).events) :
        (⟨.insertOrderEvent e,.ok ()⟩ : Exchange Operation Operation.Answer PyException) ∈
          (⟨op,reply⟩ :: log : SqlLog) := by
      rw [session_cons, hs] at h
      exact List.mem_cons_of_mem _ (ih h)
    cases op with
    | insertOrderEvent e' =>
      cases reply with
      | error err => exact hold rfl
      | ok _ =>
        rw [session_cons] at h
        rcases List.mem_append.mp h with h | h
        · exact List.mem_cons_of_mem _ (ih h)
        · obtain rfl := List.mem_singleton.mp h
          exact List.mem_cons_self ..
    | commit => simp [Session.step, Session.idle] at h
    | rollback => simp [Session.step, Session.idle] at h
    | advanceProgress p =>
      cases reply with
      | error err => exact hold rfl
      | ok written => cases written <;> exact hold rfl
    | _ => cases reply <;> exact hold rfl

/-- A session that has written nothing. -/
structure Session.NoRows (s : Session) : Prop where
  events : s.events = []
  records : s.records = []
  states : s.states = []
  progress : s.progress = []

/-- A pending row and the parameters it was written with. -/
def StoredEvent (e : OrderEvent) (row : OrderEventRow) : Prop :=
  ∃ amount position, Numeric.ofDecimal e.amount = .ok amount ∧ Numeric.zero.le amount = true ∧
    0 < e.sequence ∧ row = orderEventRow e amount position
def StoredRecord (p : IdempotencyParameters) (row : IdempotencyRow) : Prop :=
  ∃ amount, Numeric.ofDecimal p.amount = .ok amount ∧ row = idempotencyRow p amount
def StoredState (p : ProjectionStateParameters) (row : ProjectionStateRow) : Prop :=
  ∃ total paid, Numeric.ofDecimal p.totalAmount = .ok total ∧ Numeric.ofDecimal p.paidAmount = .ok paid ∧
    row = ⟨p.orderId,p.status,total,paid,p.version,p.lastSequence⟩

/-- A transaction is the one its session describes. -/
structure Mirrors (s : Session) (x : Transaction) : Prop where
  closed : s.isOpen = false → x = .idle
  idle : x.isOpen = false → x = .idle
  failed : x.failed = true → s.dirty = true
  began : s.began = true → x.isOpen = true
  events : List.Forall₂ StoredEvent s.events x.orderEvents
  records : List.Forall₂ StoredRecord s.records x.idempotencyRecords
  states : List.Forall₂ StoredState s.states x.projectionStates
  progress : x.progress = s.progress

theorem Mirrors.init : Mirrors .idle .idle :=
  ⟨fun _ => rfl,fun _ => rfl,fun h => (nomatch h),fun h => (nomatch h),.nil,.nil,.nil,rfl⟩

variable {ι : Type} [DecidableEq ι] {D : Database ι} {i : ι} {w w' : World ι}

/-- A statement's effects stay in an open transaction. -/
def Explicit (D : Database ι) (w : World ι) (i : ι) : Prop :=
  D.autocommit i = false ∨ (w.transactions i).isOpen = true

theorem settle_explicit (h : Explicit D w i) (x : Transaction) :
    settle D w i x = w.put i {x with isOpen := true} := by
  unfold settle
  rcases h with h | h <;> simp [h]

theorem settle_implicit (h : ¬Explicit D w i) (x : Transaction) :
    settle D w i x = (w.put i x).commit i := by
  simp only [Explicit, not_or, Bool.not_eq_false, Bool.not_eq_true] at h
  simp [settle, h.1, h.2]

theorem settle_self_implicit (h : ¬Explicit D w i) (x : Transaction) :
    (settle D w i x).transactions i = .idle := by
  rw [settle_implicit h, World.commit_self]

namespace Mirrors
variable {s : Session} {x : Transaction}

omit [DecidableEq ι] in
/-- Without an explicit transaction nothing is pending. -/
theorem eq_idle (h : Mirrors s (w.transactions i)) (he : ¬Explicit D w i) :
    w.transactions i = .idle :=
  h.idle (by simpa using (not_or.mp he).2)

theorem settle_same (h : Mirrors s (w.transactions i)) {x : Transaction} {s' : Session}
    (ho : s'.isOpen = true) (hf : x.failed = true → s'.dirty = true)
    (hb : s'.began = true → s.began = true)
    (he : s'.events = s.events) (hr : s'.records = s.records) (hst : s'.states = s.states)
    (hp : s'.progress = s.progress)
    (same : x.orderEvents = (w.transactions i).orderEvents ∧
      x.idempotencyRecords = (w.transactions i).idempotencyRecords ∧
      x.projectionStates = (w.transactions i).projectionStates ∧
      x.progress = (w.transactions i).progress) :
    Mirrors s' ((settle D w i x).transactions i) := by
  by_cases hx : Explicit D w i
  · rw [settle_explicit hx, World.put_self]
    refine ⟨fun hc => by simp [ho] at hc,fun hc => by simp at hc,hf,fun _ => rfl,?_,?_,?_,?_⟩
    · rw [he]; exact same.1 ▸ h.events
    · rw [hr]; exact same.2.1 ▸ h.records
    · rw [hst]; exact same.2.2.1 ▸ h.states
    · rw [hp]; exact same.2.2.2.trans h.progress
  · have hidle := h.eq_idle hx
    rw [settle_self_implicit hx]
    have hi := h.events
    have hr' := h.records
    have hst' := h.states
    have hp' := h.progress
    rw [hidle] at hi hr' hst' hp'
    refine ⟨fun hc => by simp [ho] at hc,fun _ => rfl,fun hc => by simp [Transaction.idle] at hc,
      fun hc => ?_,he ▸ hi,hr ▸ hr',hst ▸ hst',hp ▸ hp'⟩
    have := h.began (hb hc)
    rw [hidle] at this
    exact this

end Mirrors

variable [Fintype ι]

theorem Mirrors.step {s : Session} {op : Operation} {reply : SqlReply op}
    (h : Mirrors s (w.transactions i)) (hs : Stepped D i w op reply w')
    (hw : op.isWrite = true → Explicit D w i) : Mirrors (s.step op reply) (w'.transactions i) := by
  cases hs with
  | flag => exact h
  | status => exact h
  | began =>
    rw [World.put_self]
    exact ⟨fun hc => by simp [Session.step] at hc,fun hc => by simp at hc,h.failed,fun _ => rfl,
      h.events,h.records,h.states,h.progress⟩
  | committed =>
    rw [World.commit_self]
    exact .init
  | rolledBack =>
    rw [World.rollback_self]
    exact .init
  | @still op e mayFail =>
    have hfail : Mirrors s.failed (w.transactions i) :=
      ⟨fun hc => by simp [Session.failed] at hc,h.idle,fun _ => rfl,h.began,h.events,h.records,
        h.states,h.progress⟩
    cases op <;> first | exact h | exact hfail | simp [Operation.mayFail] at mayFail
  | @refused op e x isStatement same =>
    have hx : x.orderEvents = (w.transactions i).orderEvents ∧
        x.idempotencyRecords = (w.transactions i).idempotencyRecords ∧
        x.projectionStates = (w.transactions i).projectionStates ∧
        x.progress = (w.transactions i).progress := by
      rcases same with rfl | rfl <;> exact ⟨rfl,rfl,rfl,rfl⟩
    have hfail : Mirrors s.failed ((settle D w i x).transactions i) :=
      h.settle_same rfl (fun _ => rfl) id rfl rfl rfl rfl hx
    cases op <;> first | exact hfail | simp [Operation.isStatement] at isStatement
  | @ran op a x position fresh isStatement encodable healthy effects =>
    cases effect_written effects with
    | read readOnly locks =>
      have htouch : Mirrors s.touched
          ((settle D w i {w.transactions i with advisoryLocks := locks}).transactions i) :=
        h.settle_same rfl h.failed id rfl rfl rfl rfl ⟨rfl,rfl,rfl,rfl⟩
      cases op <;> first | exact htouch | simp [Operation.isStatement, Operation.isWrite] at *
    | event stored nonneg positive _ _ _ _ =>
      rw [settle_explicit (hw rfl), World.put_self]
      exact ⟨fun hc => by simp [Session.step] at hc,fun hc => by simp at hc,h.failed,fun _ => rfl,
        List.rel_append h.events (.cons ⟨_,_,stored,nonneg,positive,rfl⟩ .nil),h.records,h.states,
        h.progress⟩
    | record stored _ _ _ =>
      rw [settle_explicit (hw rfl), World.put_self]
      exact ⟨fun hc => by simp [Session.step] at hc,fun hc => by simp at hc,h.failed,fun _ => rfl,
        h.events,List.rel_append h.records (.cons ⟨_,stored,rfl⟩ .nil),h.states,h.progress⟩
    | state storedTotal storedPaid _ =>
      rw [settle_explicit (hw rfl), World.put_self]
      exact ⟨fun hc => by simp [Session.step] at hc,fun hc => by simp at hc,h.failed,fun _ => rfl,
        h.events,h.records,.cons ⟨_,_,storedTotal,storedPaid,rfl⟩ h.states,h.progress⟩
    | progressed _ _ =>
      rw [settle_explicit (hw rfl), World.put_self]
      exact ⟨fun hc => by simp [Session.step] at hc,fun hc => by simp at hc,h.failed,fun _ => rfl,
        h.events,h.records,h.states,by simp [Session.step, h.progress]⟩
    | stale _ => exact h.settle_same rfl h.failed id rfl rfl rfl rfl ⟨rfl,rfl,rfl,rfl⟩

theorem Stepped.tables_eq {op : Operation} {reply : SqlReply op} (hs : Stepped D i w op reply w')
    {s : Session} (h : Mirrors s (w.transactions i)) (hne : op ≠ .commit)
    (hw : op.isWrite = true → Explicit D w i) : w'.tables = w.tables := by
  have hsame (x : Transaction)
      (same : x.orderEvents = (w.transactions i).orderEvents ∧
        x.idempotencyRecords = (w.transactions i).idempotencyRecords ∧
        x.projectionStates = (w.transactions i).projectionStates ∧
        x.progress = (w.transactions i).progress) : (settle D w i x).tables = w.tables := by
    by_cases hx : Explicit D w i
    · rw [settle_explicit hx]; rfl
    · have hidle := h.eq_idle hx
      rw [hidle] at same
      rw [settle_implicit hx]
      cases hf : ((w.put i x).transactions i).failed with
      | true => rw [World.commit_tables_of_failed _ hf]; rfl
      | false =>
        rw [World.commit_tables _ hf]
        simp only [World.visible, World.put_self, World.put_tables, Tables.apply]
        simp [same.1, same.2.1, same.2.2.1, same.2.2.2, Transaction.idle]
  cases hs with
  | flag => rfl
  | status => rfl
  | began => rfl
  | committed => exact absurd rfl hne
  | rolledBack => rfl
  | still => rfl
  | refused _ same =>
    rcases same with rfl | rfl
    · exact hsame _ ⟨rfl,rfl,rfl,rfl⟩
    · exact hsame _ ⟨rfl,rfl,rfl,rfl⟩
  | ran _ _ _ _ effects =>
    cases hwr : op.isWrite with
    | true => rw [settle_explicit (hw hwr)]; rfl
    | false =>
      cases effect_written effects with
      | read _ locks => exact hsame _ ⟨rfl,rfl,rfl,rfl⟩
      | _ => cases hwr

end StreamingCompass
