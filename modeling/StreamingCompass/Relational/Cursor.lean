import Mathlib.Data.List.Sort
import Mathlib.Logic.Relation

/-! # Reading a growing table by a scalar cursor

A consumer asks for the rows above a cursor in key order and resumes at the last key it was
given, while rows become visible in any order of their keys. The rows it never gets are
those that were still held back when the cursor stood at or past their keys.
-/
namespace StreamingCompass.Relational
open Relation

variable {σ ρ κ : Type} [LinearOrder κ] {key : ρ → κ}

/-- The rows above a cursor in key order, at most `limit` of them. -/
def pageAfter (key : ρ → κ) (rows : List ρ) (cursor : κ) (limit : ℕ) : List ρ :=
  ((rows.filter (fun r => cursor < key r)).insertionSort (fun a b => key a ≤ key b)).take limit

/-- The key of the last row of a page, where the next page resumes. -/
def resumeAt (key : ρ → κ) (cursor : κ) (page : List ρ) : κ := (page.getLast?.map key).getD cursor

/-! ## One page -/

theorem mem_rows_of_mem_pageAfter {rows : List ρ} {cursor : κ} {limit : ℕ} {r : ρ}
    (h : r ∈ pageAfter key rows cursor limit) : r ∈ rows ∧ cursor < key r := by
  have hfilter := (List.mem_insertionSort _).mp (List.mem_of_mem_take h)
  simpa using hfilter

omit [LinearOrder κ] in
theorem resumeAt_append_singleton (cursor : κ) (page : List ρ) (r : ρ) :
    resumeAt key cursor (page ++ [r]) = key r := by
  simp [resumeAt]

omit [LinearOrder κ] in
theorem resumeAt_eq (key : ρ → κ) (cursor : κ) (page : List ρ) :
    resumeAt key cursor page = cursor ∨ ∃ r ∈ page, key r = resumeAt key cursor page := by
  rcases page.eq_nil_or_concat with rfl | ⟨page,r,rfl⟩
  · exact .inl rfl
  · refine .inr ⟨r,by simp,?_⟩
    rw [List.concat_eq_append, resumeAt_append_singleton]

theorem le_resumeAt {page : List ρ} (hs : page.Pairwise (fun a b => key a < key b)) (cursor : κ)
    {r : ρ} (hr : r ∈ page) : key r ≤ resumeAt key cursor page := by
  rcases page.eq_nil_or_concat with rfl | ⟨page,last,rfl⟩
  · cases hr
  · rw [List.concat_eq_append] at hs hr ⊢
    rw [resumeAt_append_singleton]
    rcases List.mem_append.mp hr with hr | hr
    · exact ((List.pairwise_append.mp hs).2.2 r hr last (by simp)).le
    · rw [List.mem_singleton.mp hr]

/-- Rows with distinct keys come in strictly increasing order. -/
theorem pairwise_sorted {rows : List ρ} (hunique : (rows.map key).Nodup) (cursor : κ) :
    ((rows.filter (fun r => cursor < key r)).insertionSort (fun a b => key a ≤ key b)).Pairwise
      (fun a b => key a < key b) := by
  have : Std.Total (fun a b : ρ => key a ≤ key b) := ⟨fun a b => le_total (key a) (key b)⟩
  have : IsTrans ρ (fun a b => key a ≤ key b) := ⟨fun _ _ _ => le_trans⟩
  have hle := List.pairwise_insertionSort (fun a b : ρ => key a ≤ key b)
    (rows.filter (fun r => cursor < key r))
  have hne : ((rows.filter (fun r => cursor < key r)).insertionSort
      (fun a b => key a ≤ key b)).Pairwise (fun a b => key a ≠ key b) := by
    rw [← List.pairwise_map (f := key) (R := fun a b => a ≠ b)]
    have hfilter : ((rows.filter (fun r => cursor < key r)).map key).Nodup :=
      hunique.sublist (List.filter_sublist.map key)
    exact (((List.perm_insertionSort (fun a b : ρ => key a ≤ key b) _).map key).nodup_iff).mpr hfilter
  exact hle.imp₂ (fun a b hab hne => lt_of_le_of_ne hab hne) hne

theorem pairwise_pageAfter {rows : List ρ} (hunique : (rows.map key).Nodup) (cursor : κ)
    (limit : ℕ) : (pageAfter key rows cursor limit).Pairwise (fun a b => key a < key b) :=
  (pairwise_sorted hunique cursor).sublist (List.take_sublist limit _)

/-- A page holds every visible row between the cursor and where it resumes. -/
theorem mem_pageAfter {rows : List ρ} (hunique : (rows.map key).Nodup) {cursor : κ} {limit : ℕ}
    {r : ρ} (hr : r ∈ rows) (habove : cursor < key r)
    (hbelow : key r ≤ resumeAt key cursor (pageAfter key rows cursor limit)) :
    r ∈ pageAfter key rows cursor limit := by
  rcases resumeAt_eq key cursor (pageAfter key rows cursor limit) with hstay | ⟨last,hlast,hkey⟩
  · -- an empty page passes nothing
    rw [hstay] at hbelow
    exact absurd hbelow (not_le.mpr habove)
  · rw [← hkey] at hbelow
    have hsorted := pairwise_sorted hunique cursor
    have hmem : r ∈ (rows.filter (fun r => cursor < key r)).insertionSort
        (fun a b => key a ≤ key b) := by
      rw [List.mem_insertionSort, List.mem_filter]
      exact ⟨hr,by simpa using habove⟩
    rw [← List.take_append_drop limit ((rows.filter _).insertionSort _)] at hsorted hmem
    rcases List.mem_append.mp hmem with htake | hdrop
    · exact htake
    · have hlt := (List.pairwise_append.mp hsorted).2.2 last hlast r hdrop
      exact absurd hbelow (not_le.mpr hlt)

/-! ## A consumer and its source -/

/-- A source, the cursor of its consumer and the rows delivered so far. -/
structure Consumption (σ ρ κ : Type) where
  source : σ
  cursor : κ
  delivered : List ρ

/-- The source moves, or the consumer takes the next page. -/
inductive Consumes (R : σ → σ → Prop) (view : σ → List ρ) (key : ρ → κ) :
    Consumption σ ρ κ → Consumption σ ρ κ → Prop where
  | moved {m : Consumption σ ρ κ} {s : σ} (moves : R m.source s) :
    Consumes R view key m ⟨s,m.cursor,m.delivered⟩
  | read {m : Consumption σ ρ κ} {limit : ℕ} (positive : 0 < limit) :
    Consumes R view key m
      ⟨m.source,resumeAt key m.cursor (pageAfter key (view m.source) m.cursor limit),
        m.delivered ++ pageAfter key (view m.source) m.cursor limit⟩

/-- A run from a first state, with the states it has left, the latest first. -/
inductive Run {τ : Type} (S : τ → τ → Prop) (first : τ) : List τ → τ → Prop where
  | start : Run S first [] first
  | step {past : List τ} {m m' : τ} (run : Run S first past m) (next : S m m') :
    Run S first (m :: past) m'

namespace Run
variable {τ : Type} {S T : τ → τ → Prop} {first m m' : τ} {past : List τ}

theorem mono (hST : ∀ m m', S m m' → T m m') (h : Run S first past m) : Run T first past m := by
  induction h with
  | start => exact .start
  | step _ next ih => exact ih.step (hST _ _ next)

/-- A state a run has left is where an earlier part of it ends. -/
theorem earlier (h : Run S first past m) {m₁ : τ} (h₁ : m₁ ∈ past) :
    ∃ before, Run S first before m₁ := by
  induction h with
  | start => cases h₁
  | step run _ ih =>
    rcases List.mem_cons.mp h₁ with rfl | h₁
    · exact ⟨_,run⟩
    · exact ih h₁

theorem extend (h : Run S first past m) (hr : ReflTransGen S m m') :
    ∃ later, Run S first (later ++ past) m' ∧ (m' = m ∨ m ∈ later ++ past) := by
  induction hr with
  | refl => exact ⟨[],h,.inl rfl⟩
  | @tail m₁ m₂ _ next ih =>
    obtain ⟨later,hrun,hpassed⟩ := ih
    refine ⟨m₁ :: later,hrun.step next,.inr ?_⟩
    rcases hpassed with rfl | hpassed
    · exact List.mem_cons_self ..
    · exact List.mem_cons_of_mem _ hpassed

end Run

abbrev Consumed (R : σ → σ → Prop) (view : σ → List ρ) (key : ρ → κ) (m₀ : Consumption σ ρ κ) :
    List (Consumption σ ρ κ) → Consumption σ ρ κ → Prop := Run (Consumes R view key) m₀

/-- Visible rows stay visible and never share a key, and a row is held back before it is visible. -/
structure Grows (R : σ → σ → Prop) (view : σ → List ρ) (held : σ → ρ → Prop) (key : ρ → κ)
    (s₀ : σ) : Prop where
  unique : ∀ s, ReflTransGen R s₀ s → ((view s).map key).Nodup
  kept : ∀ s s', ReflTransGen R s₀ s → R s s' → ∀ r ∈ view s, r ∈ view s'
  apart : ∀ s, ReflTransGen R s₀ s → ∀ r, held s r → r ∉ view s
  released : ∀ s s', ReflTransGen R s₀ s → R s s' → ∀ r ∈ view s', r ∈ view s ∨ held s r

variable {R : σ → σ → Prop} {view : σ → List ρ} {held : σ → ρ → Prop}
  {m₀ m₁ m m' : Consumption σ ρ κ} {past : List (Consumption σ ρ κ)}

theorem Consumed.source (h : Consumed R view key m₀ past m) : ReflTransGen R m₀.source m.source := by
  induction h with
  | start => exact .refl
  | step _ next ih =>
    cases next with
    | moved moves => exact ih.tail moves
    | read => exact ih

theorem Consumes.cursor_le (hs : Consumes R view key m m') : m.cursor ≤ m'.cursor := by
  cases hs with
  | moved => exact le_rfl
  | @read limit positive =>
    rcases resumeAt_eq key m.cursor (pageAfter key (view m.source) m.cursor limit) with
      h | ⟨r,hr,hkey⟩
    · exact h.ge
    · rw [← hkey]
      exact (mem_rows_of_mem_pageAfter hr).2.le

theorem Consumes.delivered_above (hs : Consumes R view key m m') :
    ∀ r ∈ m'.delivered, r ∈ m.delivered ∨ m.cursor < key r := by
  cases hs with
  | moved => exact fun r hr => .inl hr
  | read =>
    intro r hr
    rcases List.mem_append.mp hr with hr | hr
    · exact .inl hr
    · exact .inr (mem_rows_of_mem_pageAfter hr).2

/-- What is delivered after a state the run has left lies above the cursor it had. -/
theorem Consumed.delivered_above (h : Consumed R view key m₀ past m) (h₁ : m₁ ∈ past) :
    m₁.cursor ≤ m.cursor ∧ ∀ r ∈ m.delivered, r ∈ m₁.delivered ∨ m₁.cursor < key r := by
  induction h with
  | start => cases h₁
  | step _ next ih =>
    rcases List.mem_cons.mp h₁ with rfl | h₁
    · exact ⟨next.cursor_le,next.delivered_above⟩
    · obtain ⟨hle,habove⟩ := ih h₁
      refine ⟨hle.trans next.cursor_le,fun r hr => ?_⟩
      rcases next.delivered_above r hr with hold | hnew
      · exact habove r hold
      · exact .inr (lt_of_le_of_lt hle hnew)

/-- A row that was held back in a state of the run whose cursor stood at or past its key. -/
def Overtaken (held : σ → ρ → Prop) (key : ρ → κ) (past : List (Consumption σ ρ κ)) (r : ρ) : Prop :=
  ∃ m ∈ past, key r ≤ m.cursor ∧ held m.source r

theorem Overtaken.step {r : ρ} (h : Overtaken held key past r) (m : Consumption σ ρ κ) :
    Overtaken held key (m :: past) r := by
  obtain ⟨m₁,h₁,hkey,hheld⟩ := h
  exact ⟨m₁,List.mem_cons_of_mem _ h₁,hkey,hheld⟩

/-- Where a consumer stands that started with nothing delivered. -/
structure Accounted (view : σ → List ρ) (held : σ → ρ → Prop) (key : ρ → κ)
    (m₀ : Consumption σ ρ κ) (past : List (Consumption σ ρ κ)) (m : Consumption σ ρ κ) : Prop where
  increasing : m.delivered.Pairwise (fun a b => key a < key b)
  visible : ∀ r ∈ m.delivered, r ∈ view m.source
  passed : ∀ r ∈ m.delivered, key r ≤ m.cursor
  complete : ∀ r ∈ view m.source, m₀.cursor < key r → key r ≤ m.cursor →
    r ∈ m.delivered ∨ Overtaken held key past r

theorem Accounted.moved (h : Accounted view held key m₀ past m) {s : σ}
    (hkept : ∀ r ∈ view m.source, r ∈ view s)
    (hreleased : ∀ r ∈ view s, r ∈ view m.source ∨ held m.source r) :
    Accounted view held key m₀ (m :: past) ⟨s,m.cursor,m.delivered⟩ := by
  refine ⟨h.increasing,fun r hr => hkept r (h.visible r hr),h.passed,?_⟩
  intro r hr habove hbelow
  rcases hreleased r hr with hold | hheld
  · rcases h.complete r hold habove hbelow with hin | hout
    · exact .inl hin
    · exact .inr (hout.step m)
  · -- the row appears behind the cursor
    exact .inr ⟨m,List.mem_cons_self ..,hbelow,hheld⟩

theorem Accounted.read (h : Accounted view held key m₀ past m)
    (hunique : ((view m.source).map key).Nodup) {limit : ℕ} (hcursor : m.cursor ≤
      resumeAt key m.cursor (pageAfter key (view m.source) m.cursor limit)) :
    Accounted view held key m₀ (m :: past)
      ⟨m.source,resumeAt key m.cursor (pageAfter key (view m.source) m.cursor limit),
        m.delivered ++ pageAfter key (view m.source) m.cursor limit⟩ := by
  have hsorted : (pageAfter key (view m.source) m.cursor limit).Pairwise (fun a b => key a < key b) :=
    pairwise_pageAfter hunique m.cursor limit
  refine ⟨?_,?_,?_,?_⟩
  · refine List.pairwise_append.mpr ⟨h.increasing,hsorted,fun a ha b hb => ?_⟩
    exact lt_of_le_of_lt (h.passed a ha) (mem_rows_of_mem_pageAfter hb).2
  · intro r hr
    rcases List.mem_append.mp hr with hr | hr
    · exact h.visible r hr
    · exact (mem_rows_of_mem_pageAfter hr).1
  · intro r hr
    rcases List.mem_append.mp hr with hr | hr
    · exact (h.passed r hr).trans hcursor
    · exact le_resumeAt hsorted _ hr
  · intro r hr habove hbelow
    rcases le_or_gt (key r) m.cursor with hold | hnew
    · rcases h.complete r hr habove hold with hin | hout
      · exact .inl (List.mem_append_left _ hin)
      · exact .inr (hout.step m)
    · exact .inl (List.mem_append_right _ (mem_pageAfter hunique hr hnew hbelow))

/-- The invariant of every run of source and consumer. -/
theorem Consumed.accounted (h : Consumed R view key m₀ past m)
    (hg : Grows R view held key m₀.source) (hnew : m₀.delivered = []) :
    Accounted view held key m₀ past m := by
  induction h with
  | start =>
    refine ⟨by simp [hnew],by simp [hnew],by simp [hnew],?_⟩
    intro r _ habove hbelow
    exact absurd hbelow (not_le.mpr habove)
  | step run next ih =>
    have hsource := Consumed.source run
    cases next with
    | moved moves => exact ih.moved (hg.kept _ _ hsource moves) (hg.released _ _ hsource moves)
    | read positive => exact ih.read (hg.unique _ hsource) (Consumes.cursor_le (.read (R := R) positive))

/-- Of the visible rows the cursor has passed, those overtaken are the ones not delivered. -/
theorem Consumed.not_delivered_iff (h : Consumed R view key m₀ past m)
    (hg : Grows R view held key m₀.source) (hnew : m₀.delivered = []) {r : ρ} (hr : r ∈ view m.source)
    (habove : m₀.cursor < key r) (hbelow : key r ≤ m.cursor) :
    r ∉ m.delivered ↔ Overtaken held key past r := by
  constructor
  · intro hmissing
    exact ((h.accounted hg hnew).complete r hr habove hbelow).resolve_left hmissing
  · rintro ⟨m₁,h₁,hkey,hheld⟩ hin
    obtain ⟨before,hbefore⟩ := Run.earlier h h₁
    have hsource : ReflTransGen R m₀.source m₁.source := Consumed.source hbefore
    rcases (h.delivered_above h₁).2 r hin with hearly | hlate
    · exact hg.apart _ hsource r hheld ((Consumed.accounted hbefore hg hnew).visible r hearly)
    · exact absurd hkey (not_le.mpr hlate)

end StreamingCompass.Relational
