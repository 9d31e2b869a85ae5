import StreamingCompass.Concurrency.Acceptance
import StreamingCompass.Projection.Snapshot
import StreamingCompass.Relational.Cursor

/-! # The global position as a cursor

The global-position scan, called again and again at the last position it returned while the
system runs. Positions are committed in any order, so the scan loses the events that were
still in an open transaction when it passed them, and only those.
-/
namespace StreamingCompass
open Interleaving Relational

/-- `record.global_position` as the argument of the next call. -/
def recordPosition (record : ProjectionEventRecord) : ℤ := record.globalPosition

namespace Tables

def records (t : Tables) : List ProjectionEventRecord := t.orderEvents.map recordOfRow

/-- `WHERE global_position > … ORDER BY global_position ASC LIMIT …` -/
def after (t : Tables) (globalPosition limit : ℤ) : List OrderEventRow :=
  ((t.orderEvents.filter (fun row => globalPosition < row.globalPosition)).insertionSort
    (fun a b => a.globalPosition ≤ b.globalPosition)).take limit.toNat

end Tables

/-- `load_after` -/
def PostgresProjectionEventSource.loadAfter (t : Tables) (globalPosition limit : ℤ) :
    Except PyException (List ProjectionEventRecord) :=
  if globalPosition < 0 then .error (.valueError "global_position must be non-negative")
  else if limit ≤ 0 then .error (.valueError "limit must be positive")
  else .ok ((t.after globalPosition limit).map recordOfRow)

theorem Tables.after_records (t : Tables) (globalPosition limit : ℤ) :
    (t.after globalPosition limit).map recordOfRow =
      pageAfter recordPosition t.records globalPosition limit.toNat := by
  unfold after pageAfter records
  rw [List.map_take, List.filter_map]
  congr 1
  refine (List.map_insertionSort _ _ recordOfRow _ ?_).trans rfl
  intro a _ b _
  exact Int.ofNat_le.symm

open PostgresProjectionEventSource in
theorem loadAfter_eq_ok_iff {t : Tables} {globalPosition limit : ℤ}
    {records : List ProjectionEventRecord} : loadAfter t globalPosition limit = .ok records ↔
      0 ≤ globalPosition ∧ 0 < limit ∧
        records = pageAfter recordPosition t.records globalPosition limit.toNat := by
  unfold loadAfter
  split
  · constructor
    · intro h
      cases h
    · intro h
      omega
  · rename_i hnonneg
    split
    · constructor
      · intro h
        cases h
      · intro h
        omega
    · rename_i hlimit
      rw [Except.ok.injEq, Tables.after_records]
      exact ⟨fun h => ⟨not_lt.mp hnonneg,not_le.mp hlimit,h.symm⟩,fun h => h.2.2.symm⟩

variable {ι : Type}

/-- An accepted event an open transaction has not committed yet. -/
def System.InFlight (c : System ι) (record : ProjectionEventRecord) : Prop :=
  ∃ i, ∃ row ∈ (c.world.transactions i).orderEvents, recordOfRow row = record

abbrev Tailing (ι : Type) : Type := Consumption (System ι) ProjectionEventRecord ℤ

variable [DecidableEq ι] [Fintype ι]

/-- A statement of the system, or a `load_after` at the last position returned. -/
inductive Tails (D : Database ι) (faulty : ι → Prop) : Tailing ι → Tailing ι → Prop where
  | moved {m : Tailing ι} {c : System ι} (step : Step (D.machine faulty) m.source c) :
    Tails D faulty m ⟨c,m.cursor,m.delivered⟩
  | loaded {m : Tailing ι} {limit : ℤ} {records : List ProjectionEventRecord}
    (loads : PostgresProjectionEventSource.loadAfter m.source.world.tables m.cursor limit = .ok records) :
    Tails D faulty m ⟨m.source,resumeAt recordPosition m.cursor records,m.delivered ++ records⟩

/-- The invocations about to start, nothing read yet. -/
def Tailing.start (invocations : ι → Invocation) : Tailing ι :=
  ⟨System.start .empty invocations,0,[]⟩

/-- A run of the system and the scan, with the states it has left. -/
abbrev Tailed (D : Database ι) (faulty : ι → Prop) (invocations : ι → Invocation) :
    List (Tailing ι) → Tailing ι → Prop := Run (Tails D faulty) (.start invocations)

variable {D : Database ι} {faulty : ι → Prop} {invocations : ι → Invocation} {m m' : Tailing ι}
  {past : List (Tailing ι)}

/-! ## The scan as a consumer -/

abbrev System.records (c : System ι) : List ProjectionEventRecord := c.world.tables.records

theorem Tails.consumes (h : Tails D faulty m m') :
    Consumes (Step (D.machine faulty)) System.records recordPosition m m' := by
  cases h with
  | moved step => exact .moved step
  | loaded loads =>
    obtain ⟨-,hlimit,rfl⟩ := loadAfter_eq_ok_iff.mp loads
    exact .read (by omega)

theorem Tailed.consumed (h : Tailed D faulty invocations past m) :
    Consumed (Step (D.machine faulty)) System.records recordPosition (Tailing.start invocations) past m :=
  h.mono fun _ _ => Tails.consumes

omit [DecidableEq ι] [Fintype ι] in
theorem World.Integral.records_unique {w : World ι} (h : w.Integral) :
    (w.tables.records.map recordPosition).Nodup := by
  have hmap : w.tables.records.map recordPosition =
      (w.tables.orderEvents.map (fun r => r.globalPosition)).map Int.ofNat := by
    simp only [Tables.records, List.map_map]
    rfl
  rw [hmap]
  exact h.position.settled.map (fun _ _ hab => Int.ofNat.inj hab)

/-- A step makes no event visible that an open transaction did not hold. -/
theorem Reachable.released {c c' : System ι} (h : Reachable D faulty .empty invocations c)
    (hs : Step (D.machine faulty) c c') {record : ProjectionEventRecord} (hr : record ∈ c'.records) :
    record ∈ c.records ∨ c.InFlight record := by
  obtain ⟨row,hrow,rfl⟩ := List.mem_map.mp hr
  cases h.committed hs with
  | nothing same =>
    rw [same] at hrow
    exact .inl (List.mem_map_of_mem hrow)
  | @accepted i v e p row' record' hv accepting commits =>
    rw [System.tables_of_commits commits, accepting.tables, Tables.accept_orderEvents] at hrow
    rcases List.mem_append.mp hrow with hold | hnew
    · exact .inl (List.mem_map_of_mem hold)
    · obtain rfl := List.mem_singleton.mp hnew
      exact .inr ⟨i,row,by rw [accepting.pendingEvent]; exact List.mem_singleton_self _,rfl⟩
  | projected hv projected commits =>
    rw [System.tables_of_commits commits, projected.tables] at hrow
    exact .inl (List.mem_map_of_mem hrow)

theorem Reachable.records_grow (D : Database ι) (faulty : ι → Prop) (invocations : ι → Invocation) :
    Grows (Step (D.machine faulty)) System.records System.InFlight recordPosition
      (System.start .empty invocations) where
  unique _ hc := (Reachable.integral hc .initial).records_unique
  kept _ _ hc hs _ hr := ((Reachable.grows hc (.single hs)).1.map recordOfRow).subset hr
  apart := by
    rintro c hc record ⟨i,row,hrow,rfl⟩ hin
    obtain ⟨row',hrow',hsame⟩ := List.mem_map.mp hin
    have hposition : row.globalPosition = row'.globalPosition :=
      congrArg (fun r => r.globalPosition) hsame.symm
    exact (Reachable.integral hc .initial).position.apart i row hrow row' hrow' hposition
  released _ _ hc hs _ hr := Reachable.released hc hs hr

theorem Tails.drive {c c' : System ι} {schedule : List ι} {cursor : ℤ}
    {delivered : List ProjectionEventRecord} (h : c.drive D.serve schedule = some c') :
    Relation.ReflTransGen (Tails D faulty) ⟨c,cursor,delivered⟩ ⟨c',cursor,delivered⟩ := by
  have hr : Reaches (D.machine faulty) c c' :=
    Config.drive_reaches (fun _ _ _ _ _ hs => Database.serve_step _ _ _ _ _ hs) h
  exact hr.lift (fun c => (⟨c,cursor,delivered⟩ : Tailing ι)) (fun _ _ hs => .moved hs)

/-! ## What the scan loses -/

/-- However the calls and the statements interleave, no event is delivered twice or out of
order, and of the accepted events the cursor has passed those missing are the ones that, in
this run, an open transaction held when the cursor stood at or beyond their position. -/
theorem Tailed.scalar_cursor (h : Tailed D faulty invocations past m) :
    m.delivered.Pairwise (fun a b => a.globalPosition < b.globalPosition) ∧
    (∀ record ∈ m.delivered, record ∈ m.source.world.tables.records) ∧
    ∀ record ∈ m.source.world.tables.records, record.globalPosition ≤ m.cursor →
      (record ∉ m.delivered ↔
        ∃ m₁ ∈ past, record.globalPosition ≤ m₁.cursor ∧ m₁.source.InFlight record) := by
  have hgrows := Reachable.records_grow D faulty invocations
  have haccounted := h.consumed.accounted hgrows rfl
  refine ⟨haccounted.increasing.imp (fun hlt => Int.ofNat_lt.mp hlt),haccounted.visible,?_⟩
  intro record hrecord hpassed
  have hpositive : (0 : ℤ) < recordPosition record := by
    obtain ⟨row,hrow,rfl⟩ := List.mem_map.mp hrecord
    have hreach : Reachable D faulty .empty invocations m.source := h.consumed.source
    exact Int.ofNat_lt.mpr ((hreach.integral .initial).positivePosition.1 row hrow)
  exact h.consumed.not_delivered_iff hgrows rfl hrecord hpositive hpassed

namespace InvertedCommits

def server : Database (Fin 2) := ⟨fun _ => false,fun _ => 0⟩

def racers : Fin 2 → Invocation
  | 0 => .write ⟨.inTransaction,.optimistic,invokeValidation .strict,⟨"r-0",.create,"A",.int 10⟩,
      ⟨0,0⟩,false,none⟩
  | _ => .write ⟨.inTransaction,.optimistic,invokeValidation .strict,⟨"r-1",.create,"B",.int 20⟩,
      ⟨1,0⟩,false,none⟩

/-- The first has drawn its position, the second has drawn the next and committed. -/
def inverted : System (Fin 2) :=
  ((System.start .empty racers).drive server.serve [0,0,0,0,0,1,1,1,1,1,1,1]).get (by decide +kernel)

/-- The first has committed too. -/
def settled : System (Fin 2) := (inverted.drive server.serve [0,0]).get (by decide +kernel)

def page : List ProjectionEventRecord := (inverted.world.tables.after 0 10).map recordOfRow

def passing : Tailing (Fin 2) := ⟨inverted,resumeAt recordPosition 0 page,[] ++ page⟩
def passed : Tailing (Fin 2) := ⟨settled,passing.cursor,passing.delivered⟩

theorem passing_reached :
    Relation.ReflTransGen (Tails server (fun _ => False)) (.start racers) passing := by
  have hdriven : Relation.ReflTransGen (Tails server (fun _ => False)) (.start racers)
      ⟨inverted,0,[]⟩ := Tails.drive (Option.some_get _).symm
  exact hdriven.tail (.loaded (show PostgresProjectionEventSource.loadAfter _ 0 10 = .ok page from rfl))

theorem passed_reached : Relation.ReflTransGen (Tails server (fun _ => False)) passing passed :=
  Tails.drive (Option.some_get _).symm

/-- A run to the end that has left the state in which the scan passed the first position. -/
theorem passed_tailed : ∃ past, Tailed server (fun _ => False) racers past passed ∧ passing ∈ past := by
  obtain ⟨before,hbefore,-⟩ := Run.extend .start passing_reached
  obtain ⟨later,hrun,hsame | hpast⟩ := hbefore.extend passed_reached
  · have hgrown : passed.source.world.tables.orderEvents.length ≠
        passing.source.world.tables.orderEvents.length := by decide +kernel
    exact absurd (by rw [hsame]) hgrown
  · exact ⟨_,hrun,hpast⟩

end InvertedCommits

/-- The lower position commits after the scan has delivered the higher one. -/
theorem Tailed.scalar_cursor_inverted :
    ∃ record ∈ InvertedCommits.passed.source.world.tables.records,
      record.globalPosition ≤ InvertedCommits.passed.cursor ∧
        record ∉ InvertedCommits.passed.delivered := by
  obtain ⟨past,hrun,hpast⟩ := InvertedCommits.passed_tailed
  obtain ⟨-,-,hmissing⟩ := Tailed.scalar_cursor hrun
  have hheld : ∃ row ∈ (InvertedCommits.inverted.world.transactions 0).orderEvents,
      recordOfRow row ∈ InvertedCommits.passed.source.world.tables.records ∧
        (recordOfRow row).globalPosition ≤ InvertedCommits.passed.cursor := by decide +kernel
  obtain ⟨row,hrow,hrecord,hposition⟩ := hheld
  refine ⟨recordOfRow row,hrecord,hposition,(hmissing _ hrecord hposition).mpr ?_⟩
  exact ⟨InvertedCommits.passing,hpast,hposition,0,row,hrow,rfl⟩

end StreamingCompass
