import StreamingCompass.Interleaving.System

/-! # Linearization points

A sequential object, and entries of a trace chosen as the moments at which its commands take
effect. When a chosen entry moves the abstract state as its command does and every other
entry leaves it alone, the chosen commands in trace order are a run of the object.
-/
namespace StreamingCompass.Interleaving

/-! ## Sequential objects -/

/-- The outcome of a command and the state after it. -/
abbrev SequentialObject (State Command Outcome : Type) : Type := State → Command → Outcome × State

namespace SequentialObject
variable {State Command Outcome : Type}

def run (f : SequentialObject State Command Outcome) (s : State) :
    List Command → List Outcome × State
  | [] => ([],s)
  | k :: ks =>
    let rest := f.run (f s k).2 ks
    ((f s k).1 :: rest.1,rest.2)

@[simp] theorem run_nil (f : SequentialObject State Command Outcome) (s : State) :
    f.run s [] = ([],s) := rfl
@[simp] theorem run_cons (f : SequentialObject State Command Outcome) (s : State) (k : Command)
    (ks : List Command) :
    f.run s (k :: ks) = ((f s k).1 :: (f.run (f s k).2 ks).1,(f.run (f s k).2 ks).2) := rfl

theorem run_append (f : SequentialObject State Command Outcome) (s : State) (ks ks' : List Command) :
    f.run s (ks ++ ks') =
      ((f.run s ks).1 ++ (f.run (f.run s ks).2 ks').1,(f.run (f.run s ks).2 ks').2) := by
  induction ks generalizing s with
  | nil => rfl
  | cons k ks ih => simp only [List.cons_append, run_cons, ih]

/-- A list that each command leaves or appends one element to is never shortened. -/
theorem observed_prefix {β : Type} (f : SequentialObject State Command Outcome)
    (observe : State → List β)
    (hstep : ∀ s k, observe (f s k).2 = observe s ∨ ∃ b, observe (f s k).2 = observe s ++ [b])
    (s : State) (ks : List Command) : observe s <+: observe (f.run s ks).2 := by
  induction ks generalizing s with
  | nil => exact List.prefix_refl _
  | cons k ks ih =>
    refine List.IsPrefix.trans ?_ (ih (f s k).2)
    rcases hstep s k with h | ⟨b,h⟩
    · exact ⟨[],by rw [h, List.append_nil]⟩
    · exact ⟨[b],h.symm⟩

theorem exists_served {β : Type} (f : SequentialObject State Command Outcome)
    (observe : State → List β)
    (hstep : ∀ s k, observe (f s k).2 = observe s ∨ ∃ b, observe (f s k).2 = observe s ++ [b])
    {s : State} {ks : List Command} {n : ℕ} (hstart : (observe s).length ≤ n)
    (hn : n ≤ (observe (f.run s ks).2).length) :
    ∃ served, served <+: ks ∧ observe (f.run s served).2 = (observe (f.run s ks).2).take n := by
  induction ks generalizing s with
  | nil =>
    rw [run_nil] at hn
    refine ⟨[],List.prefix_refl _,?_⟩
    rw [run_nil, List.take_of_length_le hstart]
  | cons k ks ih =>
    by_cases hlt : n < (observe (f s k).2).length
    · -- the first command takes the list past `n` elements
      refine ⟨[],List.nil_prefix,?_⟩
      obtain ⟨b,hb⟩ : ∃ b, observe (f s k).2 = observe s ++ [b] := by
        rcases hstep s k with h | h
        · rw [h] at hlt
          omega
        · exact h
      have hlength : (observe s).length = n := by
        rw [hb, List.length_append, List.length_singleton] at hlt
        omega
      have hprefix : observe s <+: observe (f.run s (k :: ks)).2 := observed_prefix f observe hstep s (k :: ks)
      rw [run_nil, ← hlength]
      exact List.prefix_iff_eq_take.mp hprefix
    · obtain ⟨served,hserved,hobserved⟩ := ih (Nat.le_of_not_lt hlt) hn
      refine ⟨k :: served,?_,hobserved⟩
      exact List.cons_prefix_cons.mpr ⟨rfl,hserved⟩

end SequentialObject

/-! ## Points of a trace -/

section Points
variable {ι World Op : Type} {Answer : Op → Type} {ε : Type}

/-- The chosen entries of a trace in the order they were performed, each with the number of
entries before it. -/
def points (chosen : ℕ → Entry ι World Op Answer ε → Bool) :
    List (Entry ι World Op Answer ε) → List (ℕ × Entry ι World Op Answer ε)
  | [] => []
  | e :: earlier => points chosen earlier ++ if chosen earlier.length e then [(earlier.length,e)] else []

variable {chosen : ℕ → Entry ι World Op Answer ε → Bool} {trace : List (Entry ι World Op Answer ε)}
  {p : ℕ × Entry ι World Op Answer ε}

theorem mem_points : p ∈ points chosen trace ↔ chosen p.1 p.2 = true ∧
    ∃ later earlier, trace = later ++ p.2 :: earlier ∧ p.1 = earlier.length := by
  induction trace with
  | nil => simp [points]
  | cons e trace ih =>
    rw [points, List.mem_append, ih]
    constructor
    · rintro (⟨hp,later,earlier,rfl,hn⟩ | hp)
      · exact ⟨hp,e :: later,earlier,rfl,hn⟩
      · split at hp
        · rename_i he
          obtain rfl := List.mem_singleton.mp hp
          exact ⟨he,[],trace,rfl,rfl⟩
        · cases hp
    · rintro ⟨hp,later,earlier,htrace,hn⟩
      cases later with
      | nil =>
        obtain ⟨rfl,rfl⟩ := List.cons.inj htrace
        right
        rw [← hn, if_pos hp]
        exact List.mem_singleton_self p
      | cons x later =>
        obtain ⟨rfl,rfl⟩ := List.cons.inj htrace
        exact .inl ⟨hp,later,earlier,rfl,hn⟩

theorem lt_length_of_mem_points (h : p ∈ points chosen trace) : p.1 < trace.length := by
  obtain ⟨-,later,earlier,rfl,hn⟩ := mem_points.mp h
  rw [hn, List.length_append, List.length_cons]
  omega

theorem points_ordered : (points chosen trace).Pairwise (fun p q => p.1 < q.1) := by
  induction trace with
  | nil => exact .nil
  | cons e trace ih =>
    rw [points, List.pairwise_append]
    refine ⟨ih,?_,?_⟩
    · split <;> simp
    · intro p hp q hq
      split at hq
      · obtain rfl := List.mem_singleton.mp hq
        exact lt_length_of_mem_points hp
      · cases hq

theorem points_sublist :
    ((points chosen trace).map (fun p => p.2)).Sublist trace.reverse := by
  induction trace with
  | nil => exact .slnil
  | cons e trace ih =>
    rw [points, List.map_append, List.reverse_cons]
    apply ih.append
    split
    · exact .refl _
    · exact List.nil_sublist _

/-- Points no two of which have one label are labelled once. -/
theorem points_nodup {κ : Type} {label : Entry ι World Op Answer ε → κ}
    (h : ∀ p ∈ points chosen trace, ∀ q ∈ points chosen trace, label p.2 = label q.2 → p.1 = q.1) :
    ((points chosen trace).map (fun p => label p.2)).Nodup := by
  rw [List.Nodup, List.pairwise_map]
  refine points_ordered.imp_of_mem (fun hp hq hlt hsame => ?_)
  have := h _ hp _ hq hsame
  omega

end Points

/-! ## The rule -/

section Rule
variable {ι World Op : Type} {Answer : Op → Type} {ε α : Type} [DecidableEq ι]
  {M : Machine ι World Op Answer ε} {c₀ c : Config ι World Op Answer ε α}
  {State Command Outcome : Type}

/-- What the object does at an entry that was chosen, or not. -/
def Places (f : SequentialObject State Command Outcome) (abs : World → State)
    (command : Entry ι World Op Answer ε → Command) (outcome : Entry ι World Op Answer ε → Outcome)
    (isChosen : Bool) (e : Entry ι World Op Answer ε) : Prop :=
  if isChosen then f (abs e.before) (command e) = (outcome e,abs e.after)
  else abs e.after = abs e.before

theorem Reaches.trace_suffix (h : Reaches M c₀ c) : c₀.trace <:+ c.trace := by
  induction h with
  | refl => exact List.suffix_refl _
  | tail _ hs ih => exact ih.trans hs.trace_suffix

omit [DecidableEq ι] in
theorem entry_eq_of_suffix {trace earlier earlier' : List (Entry ι World Op Answer ε)}
    {x y : Entry ι World Op Answer ε} (hx : (x :: earlier) <:+ trace) (hy : (y :: earlier') <:+ trace)
    (hlength : earlier.length = earlier'.length) : x = y ∧ earlier = earlier' := by
  have hsuffix : (x :: earlier) <:+ (y :: earlier') :=
    List.suffix_of_suffix_length_le hx hy (by simp [hlength])
  exact List.cons.inj (hsuffix.eq_of_length (by simp [hlength]))

theorem Reaches.log_of_done {i : ι} {a : α} (h : Reaches M c₀ c)
    (hp : c₀.program i = some (.done a)) : c.log i = c₀.log i := by
  have hboth : c.program i = some (.done a) ∧ c.log i = c₀.log i := by
    refine Reaches.invariant (fun c => c.program i = some (.done a) ∧ c.log i = c₀.log i)
      ⟨hp,rfl⟩ ?_ h
    rintro c c' - ⟨hdone,hlog⟩ hs
    refine ⟨hs.done hdone,?_⟩
    cases hs with
    | @call j op next reply w running executes =>
      have hij : i ≠ j := by
        rintro rfl
        rw [hdone] at running
        cases running
      rw [Config.advance_log_ne _ hij, hlog]
    | abandon running => exact hlog
  exact hboth.2

/-- In the run to `c` the one thread returned before the other performed anything. -/
def Precedes (M : Machine ι World Op Answer ε) (c₀ c : Config ι World Op Answer ε α) (i j : ι) : Prop :=
  ∃ c₁ a, Reaches M c₀ c₁ ∧ Reaches M c₁ c ∧ c₁.program i = some (.done a) ∧ c₁.log j = []

/-- The steps of a thread that precedes another come first. -/
theorem Precedes.lt {x y : Entry ι World Op Answer ε} {earlier earlier' : List (Entry ι World Op Answer ε)}
    (h : Precedes M c₀ c x.thread y.thread) (hx : (x :: earlier) <:+ c.trace)
    (hy : (y :: earlier') <:+ c.trace) : earlier.length < earlier'.length := by
  obtain ⟨c₁,a,-,hafter,hdone,hlog⟩ := h
  have hbefore : earlier.length < c₁.trace.length := by
    by_contra hge
    have hsuffix : c₁.trace <:+ earlier :=
      List.suffix_of_suffix_length_le hafter.trace_suffix ((List.suffix_cons _ _).trans hx)
        (Nat.le_of_not_lt hge)
    have hold : (ownLog x.thread c₁.trace).length ≤ (ownLog x.thread earlier).length :=
      ((hsuffix.filter _).map _).length_le
    have hnew : (ownLog x.thread (x :: earlier)).length ≤ (c.log x.thread).length :=
      ((hx.filter _).map _).length_le
    rw [ownLog_cons_self, List.length_cons, hafter.log_of_done hdone, Config.log] at hnew
    omega
  have hstarted : c₁.trace.length ≤ earlier'.length := by
    by_contra hlt
    have hsuffix : (y :: earlier') <:+ c₁.trace :=
      List.suffix_of_suffix_length_le hy hafter.trace_suffix (by rw [List.length_cons]; omega)
    have hmem : (⟨y.op,y.reply⟩ : Exchange Op Answer ε) ∈ c₁.log y.thread :=
      mem_ownLog.mpr ⟨y,hsuffix.subset (List.mem_cons_self ..),rfl,rfl⟩
    rw [hlog] at hmem
    cases hmem
  omega

/-- The invariant rule, when a step may also rely on where the run ends. -/
theorem Reaches.invariant_performed (I : Config ι World Op Answer ε α → Prop) (h0 : I c₀)
    (hcall : ∀ c₁ i op next reply w, Performed M c₀ c c₁ i op next reply w → I c₁ →
      I (c₁.advance i op reply (next reply) w))
    (habandon : ∀ c₁ i, Reaches M c₀ c₁ → I c₁ → I (c₁.drop i (M.abandon i c₁.world)))
    (h : Reaches M c₀ c) : I c := by
  have hall : ∀ c₁, Reaches M c₀ c₁ → Reaches M c₁ c → I c₁ := by
    intro c₁ hr
    induction hr with
    | refl => exact fun _ => h0
    | @tail c₁ c₂ hr hs ih =>
      intro hafter
      have hi := ih (.head hs hafter)
      cases hs with
      | @call i op next reply w running executes =>
        exact hcall c₁ i op next reply w ⟨hr,running,executes,hafter,hafter.trace_suffix⟩ hi
      | @abandon i op next running => exact habandon c₁ i hr hi
  exact hall c h .refl

/-- The chosen entries of a run, in the order they were performed, are a run of the object
that ends in the abstraction of the world. -/
theorem Reaches.linearizes (f : SequentialObject State Command Outcome) (abs : World → State)
    (command : Entry ι World Op Answer ε → Command) (outcome : Entry ι World Op Answer ε → Outcome)
    (chosen : ℕ → Entry ι World Op Answer ε → Bool) (ht : c₀.trace = [])
    (hcall : ∀ c₁ i op next reply w, Performed M c₀ c c₁ i op next reply w → Places f abs command outcome
      (chosen c₁.trace.length ⟨i,op,reply,c₁.world,w⟩) ⟨i,op,reply,c₁.world,w⟩)
    (habandon : ∀ c i, Reaches M c₀ c → abs (M.abandon i c.world) = abs c.world)
    (h : Reaches M c₀ c) :
    f.run (abs c₀.world) ((points chosen c.trace).map (fun p => command p.2)) =
      ((points chosen c.trace).map (fun p => outcome p.2),abs c.world) := by
  refine h.invariant_performed (fun c => f.run (abs c₀.world)
    ((points chosen c.trace).map (fun p => command p.2)) =
      ((points chosen c.trace).map (fun p => outcome p.2),abs c.world)) (by rw [ht]; rfl) ?_ ?_
  · intro c₁ i op next reply w hp ih
    have hplaces := hcall c₁ i op next reply w hp
    rw [Config.advance_trace, Config.advance_world, points]
    simp only [Places] at hplaces
    split at hplaces
    · rename_i hchosen
      rw [if_pos hchosen]
      simp only [List.map_append, List.map_cons, List.map_nil, SequentialObject.run_append, ih,
        SequentialObject.run_cons, SequentialObject.run_nil, hplaces]
    · rename_i hchosen
      rw [if_neg hchosen, List.append_nil, ih, hplaces]
  · intro c₁ i hr ih
    rw [Config.drop_trace, Config.drop_world, habandon c₁ i hr]
    exact ih

end Rule
end StreamingCompass.Interleaving
