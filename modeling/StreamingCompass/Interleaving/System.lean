import StreamingCompass.Interleaving.Program
import Mathlib.Algebra.GroupWithZero.Nat
import Mathlib.Logic.Function.Basic
import Mathlib.Logic.Relation

/-! # Interleaved execution of programs on a shared world

Each thread runs one program. A transition executes the pending operation of one
thread, or abandons a thread that has not finished. The trace keeps the world
before and after every executed operation, so statements about whole runs need no
auxiliary instrumentation of the programs.
-/
namespace StreamingCompass.Interleaving

instance neZero_two : NeZero 2 := ⟨Nat.succ_ne_zero 1⟩

instance neZero_three : NeZero 3 := ⟨Nat.succ_ne_zero 2⟩

variable {ι World Op : Type} {Answer : Op → Type} {ε α : Type}

/-- The meaning of the operations on the shared world. -/
structure Machine (ι World Op : Type) (Answer : Op → Type) (ε : Type) where
  step : ι → World → (op : Op) → Reply Answer ε op → World → Prop
  abandon : ι → World → World

structure Entry (ι World Op : Type) (Answer : Op → Type) (ε : Type) where
  thread : ι
  op : Op
  reply : Reply Answer ε op
  before : World
  after : World

/-- The world, the rest of each thread's program and the trace, latest entry first. -/
structure Config (ι World Op : Type) (Answer : Op → Type) (ε α : Type) where
  world : World
  program : ι → Option (Program Op Answer ε α)
  trace : List (Entry ι World Op Answer ε)

variable [DecidableEq ι]

/-- The exchanges of one thread in a trace. -/
def ownLog (i : ι) (trace : List (Entry ι World Op Answer ε)) : Log Op Answer ε :=
  (trace.filter (fun e => e.thread = i)).map (fun e => ⟨e.op,e.reply⟩)

@[simp] theorem ownLog_nil (i : ι) : ownLog i ([] : List (Entry ι World Op Answer ε)) = [] := rfl
@[simp] theorem ownLog_cons_self (e : Entry ι World Op Answer ε)
    (trace : List (Entry ι World Op Answer ε)) :
    ownLog e.thread (e :: trace) = ⟨e.op,e.reply⟩ :: ownLog e.thread trace := by
  simp [ownLog]
theorem ownLog_cons_ne {i : ι} {e : Entry ι World Op Answer ε} (h : e.thread ≠ i)
    (trace : List (Entry ι World Op Answer ε)) : ownLog i (e :: trace) = ownLog i trace := by
  simp [ownLog,h]

theorem mem_ownLog {i : ι} {trace : List (Entry ι World Op Answer ε)} {x : Exchange Op Answer ε} :
    x ∈ ownLog i trace ↔ ∃ e ∈ trace, e.thread = i ∧ (⟨e.op,e.reply⟩ : Exchange Op Answer ε) = x := by
  simp only [ownLog, List.mem_map, List.mem_filter, decide_eq_true_eq]
  constructor
  · rintro ⟨e,⟨he,hi⟩,hx⟩
    exact ⟨e,he,hi,hx⟩
  · rintro ⟨e,he,hi,hx⟩
    exact ⟨e,⟨he,hi⟩,hx⟩

namespace Config

/-- The configuration after thread `i` got a reply. -/
def advance (c : Config ι World Op Answer ε α) (i : ι) (op : Op) (reply : Reply Answer ε op)
    (rest : Program Op Answer ε α) (w : World) : Config ι World Op Answer ε α :=
  ⟨w,Function.update c.program i (some rest),⟨i,op,reply,c.world,w⟩ :: c.trace⟩

/-- The configuration after thread `i` was given up. -/
def drop (c : Config ι World Op Answer ε α) (i : ι) (w : World) : Config ι World Op Answer ε α :=
  ⟨w,Function.update c.program i none,c.trace⟩

def log (c : Config ι World Op Answer ε α) (i : ι) : Log Op Answer ε := ownLog i c.trace

@[simp] theorem advance_world (c : Config ι World Op Answer ε α) (i : ι) (op : Op)
    (reply : Reply Answer ε op) (rest : Program Op Answer ε α) (w : World) :
    (c.advance i op reply rest w).world = w := rfl
@[simp] theorem advance_trace (c : Config ι World Op Answer ε α) (i : ι) (op : Op)
    (reply : Reply Answer ε op) (rest : Program Op Answer ε α) (w : World) :
    (c.advance i op reply rest w).trace = ⟨i,op,reply,c.world,w⟩ :: c.trace := rfl
@[simp] theorem advance_program_self (c : Config ι World Op Answer ε α) (i : ι) (op : Op)
    (reply : Reply Answer ε op) (rest : Program Op Answer ε α) (w : World) :
    (c.advance i op reply rest w).program i = some rest := by simp [advance]
theorem advance_program_ne (c : Config ι World Op Answer ε α) {i j : ι} (h : j ≠ i) (op : Op)
    (reply : Reply Answer ε op) (rest : Program Op Answer ε α) (w : World) :
    (c.advance i op reply rest w).program j = c.program j := by simp [advance,h]
@[simp] theorem advance_log_self (c : Config ι World Op Answer ε α) (i : ι) (op : Op)
    (reply : Reply Answer ε op) (rest : Program Op Answer ε α) (w : World) :
    (c.advance i op reply rest w).log i = ⟨op,reply⟩ :: c.log i := by
  exact ownLog_cons_self (⟨i,op,reply,c.world,w⟩ : Entry ι World Op Answer ε) c.trace
theorem advance_log_ne (c : Config ι World Op Answer ε α) {i j : ι} (h : j ≠ i) (op : Op)
    (reply : Reply Answer ε op) (rest : Program Op Answer ε α) (w : World) :
    (c.advance i op reply rest w).log j = c.log j := by
  exact ownLog_cons_ne (e := (⟨i,op,reply,c.world,w⟩ : Entry ι World Op Answer ε))
    (fun he => h he.symm) c.trace

/-- An exchange of a thread after a reply is the new one or an old one. -/
theorem mem_log_advance (c : Config ι World Op Answer ε α) {i j : ι} {op : Op}
    {reply : Reply Answer ε op} {rest : Program Op Answer ε α} {w : World}
    {x : Exchange Op Answer ε} :
    x ∈ (c.advance i op reply rest w).log j ↔ (j = i ∧ x = ⟨op,reply⟩) ∨ x ∈ c.log j := by
  by_cases hj : j = i
  · subst hj
    rw [advance_log_self, List.mem_cons]
    simp
  · rw [advance_log_ne c hj]
    simp [hj]

/-- An exchange of some thread after a reply is the new one or an old one. -/
theorem exists_log_advance (c : Config ι World Op Answer ε α) {i : ι} {op : Op}
    {reply : Reply Answer ε op} {rest : Program Op Answer ε α} {w : World}
    {x : Exchange Op Answer ε} :
    (∃ j, x ∈ (c.advance i op reply rest w).log j) ↔ x = ⟨op,reply⟩ ∨ ∃ j, x ∈ c.log j := by
  constructor
  · rintro ⟨j,hx⟩
    by_cases hj : j = i
    · subst hj
      rw [advance_log_self] at hx
      exact (List.mem_cons.mp hx).imp id (fun h => ⟨j,h⟩)
    · rw [advance_log_ne c hj] at hx
      exact .inr ⟨j,hx⟩
  · rintro (rfl | ⟨j,hx⟩)
    · exact ⟨i,by simp⟩
    · refine ⟨j,?_⟩
      by_cases hj : j = i
      · subst hj
        rw [advance_log_self]
        exact List.mem_cons_of_mem _ hx
      · rwa [advance_log_ne c hj]

@[simp] theorem drop_world (c : Config ι World Op Answer ε α) (i : ι) (w : World) :
    (c.drop i w).world = w := rfl
@[simp] theorem drop_trace (c : Config ι World Op Answer ε α) (i : ι) (w : World) :
    (c.drop i w).trace = c.trace := rfl
@[simp] theorem drop_log (c : Config ι World Op Answer ε α) (i j : ι) (w : World) :
    (c.drop i w).log j = c.log j := rfl
@[simp] theorem drop_program_self (c : Config ι World Op Answer ε α) (i : ι) (w : World) :
    (c.drop i w).program i = none := by simp [drop]
theorem drop_program_ne (c : Config ι World Op Answer ε α) {i j : ι} (h : j ≠ i) (w : World) :
    (c.drop i w).program j = c.program j := by simp [drop,h]

end Config

/-- One transition of the interleaved system. -/
inductive Step (M : Machine ι World Op Answer ε) :
    Config ι World Op Answer ε α → Config ι World Op Answer ε α → Prop where
  | call {c : Config ι World Op Answer ε α} {i : ι} {op : Op}
      {next : Reply Answer ε op → Program Op Answer ε α} {reply : Reply Answer ε op} {w : World}
      (running : c.program i = some (.call op next)) (executes : M.step i c.world op reply w) :
      Step M c (c.advance i op reply (next reply) w)
  | abandon {c : Config ι World Op Answer ε α} {i : ι} {op : Op}
      {next : Reply Answer ε op → Program Op Answer ε α}
      (running : c.program i = some (.call op next)) :
      Step M c (c.drop i (M.abandon i c.world))

/-- Any finite interleaving. -/
abbrev Reaches (M : Machine ι World Op Answer ε) :
    Config ι World Op Answer ε α → Config ι World Op Answer ε α → Prop :=
  Relation.ReflTransGen (Step M)

variable {M : Machine ι World Op Answer ε} {c₀ c : Config ι World Op Answer ε α}

/-- The invariant rule: what holds at the start and is kept by every transition out
of a reachable configuration holds throughout. -/
theorem Reaches.invariant (I : Config ι World Op Answer ε α → Prop) (h0 : I c₀)
    (hstep : ∀ c c', Reaches M c₀ c → I c → Step M c c' → I c') (h : Reaches M c₀ c) : I c := by
  induction h with
  | refl => exact h0
  | tail hr hs ih => exact hstep _ _ hr ih hs

/-- A thread that meets its contract keeps meeting it at its own log. -/
theorem Step.meets {C : Contract Op Answer ε} {post : Log Op Answer ε → α → Prop} {i : ι}
    {c' : Config ι World Op Answer ε α} (hs : Step M c c')
    (hallowed : ∀ op next, c.program i = some (.call op next) → C.guard (c.log i) op →
      ∀ reply w, M.step i c.world op reply w → C.allowed (c.log i) op reply)
    (h : ∀ p, c.program i = some p → p.Meets C post (c.log i)) :
    ∀ p, c'.program i = some p → p.Meets C post (c'.log i) := by
  intro p hp
  cases hs with
  | @call j op next reply w running executes =>
    by_cases hij : i = j
    · subst hij
      obtain rfl : next reply = p := by simpa using hp
      rw [Config.advance_log_self]
      exact (h _ running).2 reply (hallowed op next running (h _ running).1 reply w executes)
    · rw [Config.advance_program_ne _ hij] at hp
      rw [Config.advance_log_ne _ hij]
      exact h p hp
  | @abandon j op next running =>
    by_cases hij : i = j
    · subst hij
      simp at hp
    · rw [Config.drop_program_ne _ hij] at hp
      exact h p hp

/-- Every thread of every run meets its contract, at whatever point it stands. -/
theorem Reaches.meets {C : Contract Op Answer ε} {post : Log Op Answer ε → α → Prop} {i : ι}
    (hallowed : ∀ c, Reaches M c₀ c → ∀ op next, c.program i = some (.call op next) →
      C.guard (c.log i) op → ∀ reply w, M.step i c.world op reply w → C.allowed (c.log i) op reply)
    (h0 : ∀ p, c₀.program i = some p → p.Meets C post (c₀.log i)) (h : Reaches M c₀ c) :
    ∀ p, c.program i = some p → p.Meets C post (c.log i) :=
  Reaches.invariant (fun c => ∀ p, c.program i = some p → p.Meets C post (c.log i)) h0
    (fun c _ hr ih hs => hs.meets (hallowed c hr) ih) h

/-- A thread whose guarded operations never wait can always run to its end. -/
theorem Reaches.finishes {C : Contract Op Answer ε} {post : Log Op Answer ε → α → Prop} {i : ι}
    (hallowed : ∀ c, Reaches M c₀ c → ∀ op next, c.program i = some (.call op next) →
      C.guard (c.log i) op → ∀ reply w, M.step i c.world op reply w → C.allowed (c.log i) op reply)
    (henabled : ∀ c, Reaches M c₀ c → ∀ op, C.guard (c.log i) op →
      ∃ reply w, M.step i c.world op reply w)
    (h0 : ∀ p, c₀.program i = some p → p.Meets C post (c₀.log i)) (h : Reaches M c₀ c)
    {p : Program Op Answer ε α} (hp : c.program i = some p) :
    ∃ c' a, Reaches M c c' ∧ c'.program i = some (.done a) := by
  induction p generalizing c with
  | done a => exact ⟨c,a,.refl,hp⟩
  | call op next ih =>
    obtain ⟨reply,w,hw⟩ := henabled c h op (Reaches.meets hallowed h0 h _ hp).1
    have hs : Step M c (c.advance i op reply (next reply) w) := .call hp hw
    obtain ⟨c',a,hr,hd⟩ := ih reply (h.tail hs) (Config.advance_program_self ..)
    exact ⟨c',a,.head hs hr,hd⟩

/-- A thread whose next operation is always possible while `S` lasts runs to its end. -/
theorem Reaches.finishes_while {i : ι} (S : Config ι World Op Answer ε α → Prop)
    (hstep : ∀ c op next, Reaches M c₀ c → S c → c.program i = some (.call op next) →
      ∃ reply w, M.step i c.world op reply w ∧ S (c.advance i op reply (next reply) w))
    (h : Reaches M c₀ c) (hS : S c) {p : Program Op Answer ε α} (hp : c.program i = some p) :
    ∃ c' a, Reaches M c c' ∧ S c' ∧ c'.program i = some (.done a) := by
  induction p generalizing c with
  | done a => exact ⟨c,a,.refl,hS,hp⟩
  | call op next ih =>
    obtain ⟨reply,w,hw,hS'⟩ := hstep c op next h hS hp
    have hs : Step M c (c.advance i op reply (next reply) w) := .call hp hw
    obtain ⟨c',a,hr,hS'',hd⟩ := ih reply (h.tail hs) hS' (Config.advance_program_self ..)
    exact ⟨c',a,.head hs hr,hS'',hd⟩

/-- A thread that has performed nothing stands at its first operation, unless it was given up. -/
theorem Reaches.unstarted {i : ι} (h : Reaches M c₀ c) (hlog : c.log i = []) :
    ∀ p, c.program i = some p → c₀.program i = some p := by
  refine Reaches.invariant (fun c => c.log i = [] → ∀ p, c.program i = some p →
    c₀.program i = some p) (fun _ _ hp => hp) ?_ h hlog
  intro c c' _ ih hs hlog p hp
  cases hs with
  | @call j op next reply w running executes =>
    by_cases hij : i = j
    · subst hij
      rw [Config.advance_log_self] at hlog
      cases hlog
    · rw [Config.advance_log_ne _ hij] at hlog
      rw [Config.advance_program_ne _ hij] at hp
      exact ih hlog p hp
  | @abandon j op next running =>
    by_cases hij : i = j
    · subst hij
      simp at hp
    · rw [Config.drop_program_ne _ hij] at hp
      exact ih hlog p hp

theorem Step.done {c' : Config ι World Op Answer ε α} (hs : Step M c c') {i : ι} {a : α}
    (hp : c.program i = some (.done a)) : c'.program i = some (.done a) := by
  cases hs with
  | @call j op next reply w running executes =>
    have hij : i ≠ j := by
      rintro rfl
      rw [hp] at running
      cases running
    rw [Config.advance_program_ne _ hij, hp]
  | @abandon j op next running =>
    have hij : i ≠ j := by
      rintro rfl
      rw [hp] at running
      cases running
    rw [Config.drop_program_ne _ hij, hp]

/-- A machine that does more has the steps of one that does less. -/
theorem Step.mono {N : Machine ι World Op Answer ε} {c' : Config ι World Op Answer ε α}
    (hs : Step M c c') (hstep : ∀ i w op reply w', M.step i w op reply w' → N.step i w op reply w')
    (habandon : M.abandon = N.abandon) : Step N c c' := by
  cases hs with
  | call running executes => exact .call running (hstep _ _ _ _ _ executes)
  | abandon running => exact habandon ▸ .abandon running

theorem Step.trace_suffix {c' : Config ι World Op Answer ε α} (hs : Step M c c') :
    c.trace <:+ c'.trace := by
  cases hs with
  | call running executes => exact List.suffix_cons _ _
  | abandon running => exact List.suffix_refl _

theorem Step.log_subset {c' : Config ι World Op Answer ε α} (hs : Step M c c') (i : ι) :
    c.log i ⊆ c'.log i := by
  intro x hx
  obtain ⟨e,he,hi,hx⟩ := mem_ownLog.mp hx
  exact mem_ownLog.mpr ⟨e,hs.trace_suffix.subset he,hi,hx⟩

/-- A configuration of a run at which a thread got a reply. -/
structure Performed (M : Machine ι World Op Answer ε) (c₀ c c₁ : Config ι World Op Answer ε α) (i : ι)
    (op : Op) (next : Reply Answer ε op → Program Op Answer ε α) (reply : Reply Answer ε op)
    (w : World) : Prop where
  before : Reaches M c₀ c₁
  running : c₁.program i = some (.call op next)
  executes : M.step i c₁.world op reply w
  after : Reaches M (c₁.advance i op reply (next reply) w) c
  recorded : (⟨i,op,reply,c₁.world,w⟩ :: c₁.trace) <:+ c.trace

theorem Performed.log_suffix {c₁ : Config ι World Op Answer ε α} {i : ι} {op : Op}
    {next : Reply Answer ε op → Program Op Answer ε α} {reply : Reply Answer ε op} {w : World}
    (hp : Performed M c₀ c c₁ i op next reply w) : (⟨op,reply⟩ :: c₁.log i) <:+ c.log i := by
  have h := (hp.recorded.filter (fun e => e.thread = i)).map
    (fun e : Entry ι World Op Answer ε => (⟨e.op,e.reply⟩ : Exchange Op Answer ε))
  have hown := ownLog_cons_self (⟨i,op,reply,c₁.world,w⟩ : Entry ι World Op Answer ε) c₁.trace
  exact hown ▸ h

/-- Every entry of the trace was performed at some configuration of the run. -/
theorem Reaches.performed_entry {later earlier : List (Entry ι World Op Answer ε)}
    {e : Entry ι World Op Answer ε} (h : Reaches M c₀ c) (h0 : c₀.trace = [])
    (htrace : c.trace = later ++ e :: earlier) :
    ∃ c₁ next, Performed M c₀ c c₁ e.thread e.op next e.reply e.after ∧ c₁.world = e.before ∧
      c₁.trace = earlier := by
  induction h generalizing later with
  | refl => simp [h0] at htrace
  | @tail c c' hr hs ih =>
    have hold {later' : List (Entry ι World Op Answer ε)} (ht : c.trace = later' ++ e :: earlier) :
        ∃ c₁ next, Performed M c₀ c' c₁ e.thread e.op next e.reply e.after ∧
          c₁.world = e.before ∧ c₁.trace = earlier := by
      obtain ⟨c₁,next,hp,hw⟩ := ih ht
      exact ⟨c₁,next,⟨hp.before,hp.running,hp.executes,hp.after.tail hs,
        hp.recorded.trans hs.trace_suffix⟩,hw⟩
    cases hs with
    | @call j op next reply w running executes =>
      cases later with
      | nil =>
        obtain ⟨rfl,rfl⟩ := List.cons.inj htrace
        exact ⟨c,next,⟨hr,running,executes,.refl,List.suffix_refl _⟩,rfl,rfl⟩
      | cons y later => exact hold (List.cons.inj htrace).2
    | abandon running => exact hold htrace

/-- Every exchange of a log was performed at some configuration of the run. -/
theorem Reaches.performed {i : ι} {op : Op} {reply : Reply Answer ε op}
    {l earlier : Log Op Answer ε} (h : Reaches M c₀ c) (h0 : c₀.trace = [])
    (hlog : c.log i = l ++ ⟨op,reply⟩ :: earlier) :
    ∃ c₁ next w, Performed M c₀ c c₁ i op next reply w ∧ c₁.log i = earlier := by
  obtain ⟨own,rest,hown,-,hrest⟩ := List.map_eq_append_iff.mp hlog
  obtain ⟨e,rest',rfl,he,hearlier⟩ := List.map_eq_cons_iff.mp hrest
  obtain ⟨before,after,htrace,-,hafter⟩ := List.filter_eq_append_iff.mp hown
  obtain ⟨skipped,later',rfl,-,hi,hrest'⟩ := List.filter_eq_cons_iff.mp hafter
  have htrace' : c.trace = (before ++ skipped) ++ e :: later' := by simpa using htrace
  obtain ⟨c₁,next,hp,-,ht⟩ := h.performed_entry h0 htrace'
  rcases e with ⟨j,op',reply',w,w'⟩
  obtain rfl : j = i := by simpa using hi
  obtain ⟨rfl,hreply⟩ := Sigma.mk.inj he
  obtain rfl := eq_of_heq hreply
  refine ⟨c₁,next,w',hp,?_⟩
  rw [← hearlier, ← hrest', Config.log, ownLog, ht]

/-- A reply in a log comes from a step of the machine. -/
theorem Reaches.performed_of_mem {i : ι} {op : Op} {reply : Reply Answer ε op}
    (h : Reaches M c₀ c) (h0 : c₀.trace = [])
    (hmem : (⟨op,reply⟩ : Exchange Op Answer ε) ∈ c.log i) :
    ∃ c₁ next w, Performed M c₀ c c₁ i op next reply w ∧ (⟨op,reply⟩ :: c₁.log i) <:+ c.log i := by
  obtain ⟨later,earlier,hlog⟩ := List.append_of_mem hmem
  obtain ⟨c₁,next,w,hp,he⟩ := h.performed h0 hlog
  exact ⟨c₁,next,w,hp,later,by rw [hlog, he]⟩

/-- The invariant rule for worlds, when a step may also rely on the worlds in which
earlier replies were given. -/
theorem Reaches.invariant_past (J : World → Prop) (h0 : J c₀.world) (ht : c₀.trace = [])
    (hstep : ∀ c c', Reaches M c₀ c →
      (∀ c₁ i op next reply w, Performed M c₀ c c₁ i op next reply w → J c₁.world) →
      J c.world → Step M c c' → J c'.world) (h : Reaches M c₀ c) : J c.world := by
  have hboth : J c.world ∧ ∀ e ∈ c.trace, J e.before := by
    refine Reaches.invariant (fun c => J c.world ∧ ∀ e ∈ c.trace, J e.before)
      ⟨h0,by simp [ht]⟩ ?_ h
    intro c c' hr hi hs
    have hpast : ∀ c₁ i op next reply w, Performed M c₀ c c₁ i op next reply w → J c₁.world :=
      fun c₁ i op next reply w hp => hi.2 _ (hp.recorded.subset (List.mem_cons_self ..))
    refine ⟨hstep c c' hr hpast hi.1 hs,?_⟩
    cases hs with
    | call running executes =>
      intro e he
      rcases List.mem_cons.mp he with rfl | he
      · exact hi.1
      · exact hi.2 e he
    | abandon running => exact hi.2
  exact hboth.1

end StreamingCompass.Interleaving
