import Mathlib.Data.Set.Insert
import Mathlib.Order.BooleanAlgebra.Set
import Mathlib.Logic.Function.Basic
import Mathlib.Logic.Relation

/-! # Guarded tables

Tables of rows with row checks, unique keys, references and row triggers, changed one row
at a time by whoever holds the privilege. What is shown holds of every sequence of changes,
whatever program issues them: tables without UPDATE and DELETE only grow, constraints stay,
and a counter that starts at one and moves by one has passed every number below it.
-/
namespace StreamingCompass.Relational

inductive Privilege where | select | insert | update | delete
deriving DecidableEq, Repr

/-- A key rows may not share; a row without a value shares it with nobody. -/
structure UniqueKey (α : Type) where
  Value : Type
  value : α → Option Value

variable {Table : Type} {Row : Table → Type}

/-- A foreign key; a row without a source refers to nothing. -/
structure Reference (Row : Table → Type) (n : Table) where
  target : Table
  Value : Type
  source : Row n → Option Value
  found : Row target → Value

structure Schema (Row : Table → Type) where
  check : ∀ n, Row n → Prop
  unique : ∀ n, List (UniqueKey (Row n))
  references : ∀ n, List (Reference Row n)
  onInsert : ∀ n, Row n → Prop
  onUpdate : ∀ n, Row n → Row n → Prop

abbrev Store (Row : Table → Type) : Type := ∀ n, Set (Row n)

def Store.empty : Store Row := fun _ => ∅

/-- Who may do what to a table. -/
abbrev Grants (Table : Type) : Type := Table → Privilege → Prop

variable {S : Schema Row} {may : Grants Table} {s s' : Store Row} {n m : Table} {r r' : Row n}

/-- No row of a set shares a key with a row. -/
def Schema.Free (S : Schema Row) (rows : Set (Row n)) (r : Row n) : Prop :=
  ∀ k ∈ S.unique n, ∀ v, k.value r = some v → ∀ r' ∈ rows, k.value r' ≠ some v

/-- What a row refers to is in the store. -/
def Schema.Refers (S : Schema Row) (s : Store Row) (r : Row n) : Prop :=
  ∀ f ∈ S.references n, ∀ v, f.source r = some v → ∃ e ∈ s f.target, f.found e = v

structure Schema.Consistent (S : Schema Row) (s : Store Row) : Prop where
  checked : ∀ n, ∀ r ∈ s n, S.check n r
  unique : ∀ n, ∀ k ∈ S.unique n, ∀ r ∈ s n, ∀ r' ∈ s n, ∀ v, k.value r = some v →
    k.value r' = some v → r = r'
  refers : ∀ n, ∀ r ∈ s n, S.Refers s r

theorem Schema.Consistent.empty : S.Consistent Store.empty :=
  ⟨fun _ _ h => h.elim,fun _ _ _ _ h => h.elim,fun _ _ h => h.elim⟩

variable [DecidableEq Table]

def Store.put (s : Store Row) (n : Table) (rows : Set (Row n)) : Store Row := Function.update s n rows

@[simp] theorem Store.put_self (s : Store Row) (n : Table) (rows : Set (Row n)) : s.put n rows n = rows :=
  Function.update_self ..
theorem Store.put_ne (s : Store Row) {n m : Table} (h : m ≠ n) (rows : Set (Row n)) :
    s.put n rows m = s m := Function.update_of_ne h ..

/-- A table after a change has the rows of the new set, any other the old ones. -/
theorem Store.put_cases {rows : Set (Row n)} {p : ∀ m, Set (Row m) → Prop} (hn : p n rows)
    (hne : ∀ m, m ≠ n → p m (s m)) (m : Table) : p m (s.put n rows m) := by
  by_cases h : m = n
  · subst h
    rwa [put_self]
  · rw [put_ne s h]
    exact hne m h

theorem Store.le_put {rows : Set (Row n)} (h : s n ⊆ rows) : ∀ m, s m ⊆ s.put n rows m :=
  put_cases (p := fun m rows => s m ⊆ rows) h (fun _ _ => subset_rfl)

/-- One row is changed, with the privilege and past the guards. -/
inductive Step (S : Schema Row) (may : Grants Table) (s : Store Row) : Store Row → Prop where
  | inserts {n : Table} {r : Row n} (granted : may n .insert) (checked : S.check n r)
    (trigger : S.onInsert n r) (free : S.Free (s n) r) (refers : S.Refers (s.put n (insert r (s n))) r) :
    Step S may s (s.put n (insert r (s n)))
  | updates {n : Table} {old new : Row n} (granted : may n .update) (present : old ∈ s n)
    (checked : S.check n new) (trigger : S.onUpdate n old new) (free : S.Free (s n \ {old}) new)
    (refers : ∀ m, ∀ r ∈ s.put n (insert new (s n \ {old})) m,
      S.Refers (s.put n (insert new (s n \ {old}))) r) :
    Step S may s (s.put n (insert new (s n \ {old})))
  | deletes {n : Table} {old : Row n} (granted : may n .delete) (present : old ∈ s n)
    (refers : ∀ m, ∀ r ∈ s.put n (s n \ {old}) m, S.Refers (s.put n (s n \ {old})) r) :
    Step S may s (s.put n (s n \ {old}))

def Reaches (S : Schema Row) (may : Grants Table) : Store Row → Store Row → Prop :=
  Relation.ReflTransGen (Step S may)

omit [DecidableEq Table] in
theorem ne_of_denied {p : Privilege} {n' : Table} (granted : may n' p) (denied : ¬may n p) : n ≠ n' := by
  rintro rfl
  exact denied granted

/-! ## Constraints -/

omit [DecidableEq Table] in
theorem Schema.Refers.mono (h : S.Refers s r) (hle : ∀ m, s m ⊆ s' m) : S.Refers s' r := by
  intro f hf v hv
  obtain ⟨e,he,hfound⟩ := h f hf v hv
  exact ⟨e,hle f.target he,hfound⟩

omit [DecidableEq Table] in
theorem Schema.Consistent.unique_insert (h : S.Consistent s) {rows : Set (Row n)} (hsub : rows ⊆ s n)
    (hfree : S.Free rows r) : ∀ k ∈ S.unique n, ∀ a ∈ insert r rows, ∀ b ∈ insert r rows, ∀ v,
      k.value a = some v → k.value b = some v → a = b := by
  rintro k hk a (rfl | ha) b (rfl | hb) v hav hbv
  · rfl
  · exact absurd hbv (hfree k hk v hav b hb)
  · exact absurd hav (hfree k hk v hbv a ha)
  · exact h.unique n k hk a (hsub ha) b (hsub hb) v hav hbv

theorem Step.consistent (hs : Step S may s s') (h : S.Consistent s) : S.Consistent s' := by
  cases hs with
  | @inserts n r granted checked trigger free refers =>
    refine ⟨?_,?_,?_⟩
    · exact Store.put_cases (p := fun m rows => ∀ r ∈ rows, S.check m r)
        (by rintro a (rfl | ha); exacts [checked,h.checked n a ha]) (fun m _ => h.checked m)
    · exact Store.put_cases (p := fun m rows => ∀ k ∈ S.unique m, ∀ a ∈ rows, ∀ b ∈ rows, ∀ v,
        k.value a = some v → k.value b = some v → a = b)
        (h.unique_insert subset_rfl free) (fun m _ => h.unique m)
    · have hle : ∀ m, s m ⊆ s.put n (insert r (s n)) m := Store.le_put (Set.subset_insert r (s n))
      refine Store.put_cases (p := fun m rows => ∀ a ∈ rows, S.Refers (s.put n (insert r (s n))) a) ?_
        (fun m _ a ha => (h.refers m a ha).mono hle)
      rintro a (rfl | ha)
      exacts [refers,(h.refers n a ha).mono hle]
  | @updates n old new granted present checked trigger free refers =>
    refine ⟨?_,?_,refers⟩
    · exact Store.put_cases (p := fun m rows => ∀ r ∈ rows, S.check m r)
        (by rintro a (rfl | ha); exacts [checked,h.checked n a ha.1]) (fun m _ => h.checked m)
    · exact Store.put_cases (p := fun m rows => ∀ k ∈ S.unique m, ∀ a ∈ rows, ∀ b ∈ rows, ∀ v,
        k.value a = some v → k.value b = some v → a = b)
        (h.unique_insert Set.sdiff_subset free) (fun m _ => h.unique m)
  | @deletes n old granted present refers =>
    refine ⟨?_,?_,refers⟩
    · exact Store.put_cases (p := fun m rows => ∀ r ∈ rows, S.check m r)
        (fun a ha => h.checked n a ha.1) (fun m _ => h.checked m)
    · exact Store.put_cases (p := fun m rows => ∀ k ∈ S.unique m, ∀ a ∈ rows, ∀ b ∈ rows, ∀ v,
        k.value a = some v → k.value b = some v → a = b)
        (fun k hk a ha b hb => h.unique n k hk a ha.1 b hb.1) (fun m _ => h.unique m)

namespace Reaches

theorem consistent (hr : Reaches S may s s') (h : S.Consistent s) : S.Consistent s' := by
  induction hr with
  | refl => exact h
  | tail _ hs ih => exact hs.consistent ih

theorem mono {may' : Grants Table} (hr : Reaches S may s s') (hle : ∀ n p, may n p → may' n p) :
    Reaches S may' s s' := by
  refine Relation.ReflTransGen.mono (fun a b hs => ?_) _ _ hr
  cases hs with
  | inserts granted checked trigger free refers =>
    exact .inserts (hle _ _ granted) checked trigger free refers
  | updates granted present checked trigger free refers =>
    exact .updates (hle _ _ granted) present checked trigger free refers
  | deletes granted present refers => exact .deletes (hle _ _ granted) present refers

/-! ## What privileges exclude -/

/-- A table nobody may update or delete from keeps its rows. -/
theorem kept (hr : Reaches S may s s') (hu : ¬may n .update) (hd : ¬may n .delete) : s n ⊆ s' n := by
  induction hr with
  | refl => exact subset_rfl
  | @tail b c _ hs ih =>
    refine ih.trans ?_
    cases hs with
    | @inserts n' r => exact Store.le_put (Set.subset_insert r (b n')) n
    | @updates n' old new granted =>
      rw [Store.put_ne b (ne_of_denied granted hu)]
    | @deletes n' old granted =>
      rw [Store.put_ne b (ne_of_denied granted hd)]

theorem untouched (hr : Reaches S may s s') (hi : ¬may n .insert) (hu : ¬may n .update)
    (hd : ¬may n .delete) : s' n = s n := by
  induction hr with
  | refl => rfl
  | @tail b c _ hs ih =>
    rw [← ih]
    cases hs with
    | inserts granted => exact Store.put_ne b (ne_of_denied granted hi) _
    | updates granted => exact Store.put_ne b (ne_of_denied granted hu) _
    | deletes granted => exact Store.put_ne b (ne_of_denied granted hd) _

end Reaches

/-! ## Tables by their key -/

section Keyed
variable {K R : Type} {key : R → K} {f : K → Option R} {a old : R}

/-- The rows a table finds by their key. -/
def keyed (key : R → K) (f : K → Option R) : Set R := {r | f (key r) = some r}

theorem keyed_empty (key : R → K) : keyed key (fun _ => none) = ∅ := by
  ext r
  simp [keyed]

theorem keyed_ne (h : ∀ old, f (key a) ≠ some old) : ∀ b ∈ keyed key f, key b ≠ key a := by
  intro b hb hkey
  exact h b (hkey ▸ hb)

variable [DecidableEq K]

theorem keyed_insert (h : f (key a) = none) :
    keyed key (Function.update f (key a) (some a)) = insert a (keyed key f) := by
  ext b
  by_cases hkey : key b = key a
  · simp [keyed, hkey, h, eq_comm]
  · have hne : b ≠ a := fun hba => hkey (hba ▸ rfl)
    simp [keyed, hkey, hne]

theorem keyed_replace (h : f (key a) = some old) (hold : key old = key a) :
    keyed key (Function.update f (key a) (some a)) = insert a (keyed key f \ {old}) := by
  ext b
  by_cases hkey : key b = key a
  · simp [keyed, hkey, h, eq_comm]
  · have hne : b ≠ a := fun hba => hkey (hba ▸ rfl)
    have hne' : b ≠ old := fun hb => hkey (hb ▸ hold)
    simp [keyed, hkey, hne, hne']

end Keyed

/-- A row is inserted under its key, or replaces the row there; nothing refers to the table. -/
theorem Step.upsert {K : Type} [DecidableEq K] (key : Row n → K) (f : K → Option (Row n))
    (hs : S.Consistent s) (hrows : s n = keyed key f)
    (hunique : ∀ k ∈ S.unique n, ∀ r r', k.value r ≠ none → k.value r = k.value r' → key r = key r')
    (hunreferenced : ∀ m, ∀ g ∈ S.references m, g.target ≠ n) (hchecked : S.check n r)
    (hrefers : S.Refers s r) (hinsert : f (key r) = none → may n .insert ∧ S.onInsert n r)
    (hupdate : ∀ old, f (key r) = some old → key old = key r ∧ may n .update ∧ S.onUpdate n old r) :
    Step S may s (s.put n (keyed key (Function.update f (key r) (some r)))) := by
  have hfree {rows : Set (Row n)} (hne : ∀ b ∈ rows, key b ≠ key r) : S.Free rows r := by
    intro k hk v hv b hb hbv
    exact hne b hb (hunique k hk b r (by simp [hbv]) (hbv.trans hv.symm))
  have hsame {rows : Set (Row n)} {m : Table} {b : Row m} (hb : S.Refers s b) :
      S.Refers (s.put n rows) b := by
    intro g hg v hv
    rw [Store.put_ne s (hunreferenced m g hg)]
    exact hb g hg v hv
  cases hf : f (key r) with
  | none =>
    obtain ⟨hmay,htrigger⟩ := hinsert hf
    rw [keyed_insert hf, ← hrows]
    exact .inserts hmay hchecked htrigger (hfree (by rw [hrows]; exact keyed_ne (by simp [hf])))
      (hsame hrefers)
  | some old =>
    obtain ⟨hkey,hmay,htrigger⟩ := hupdate old hf
    rw [keyed_replace hf hkey, ← hrows]
    have hpresent : old ∈ s n := by
      rw [hrows]
      change f (key old) = some old
      rw [hkey, hf]
    refine .updates hmay hpresent hchecked htrigger (hfree fun b hb hbkey => ?_) (fun m => ?_)
    · have hb' : b ∈ keyed key f := by
        rw [← hrows]
        exact hb.1
      change f (key b) = some b at hb'
      rw [hbkey, hf] at hb'
      exact hb.2 (Option.some.inj hb').symm
    · refine Store.put_cases (p := fun m rows => ∀ b ∈ rows, S.Refers _ b) ?_
        (fun m _ b hb => hsame (hs.refers m b hb)) m
      rintro b (rfl | hb)
      exacts [hsame hrefers,hsame (hs.refers n b hb.1)]

/-! ## Counters -/

/-- Rows that count places of a stream of events, one after another. -/
structure Counter (S : Schema Row) (n m : Table) (I J : Type) where
  ident : Row n → I
  stream : I → J
  count : Row n → ℤ
  place : Row m → J × ℤ
  first : ∀ r, S.onInsert n r → count r = 1
  next : ∀ old new, S.onUpdate n old new → ident new = ident old ∧ count new = count old+1
  counted : ∀ s : Store Row, ∀ r : Row n, S.Refers s r → ∃ e ∈ s m, place e = (stream (ident r),count r)

namespace Counter
variable {I J : Type} (C : Counter S n m I J)

/-- Every place up to a count is taken by an event. -/
def Complete (s : Store Row) : Prop :=
  ∀ r ∈ s n, ∀ k, 0 < k → k ≤ C.count r → ∃ e ∈ s m, C.place e = (C.stream (C.ident r),k)

omit [DecidableEq Table] in
/-- A row counting one more than the places known to be taken. -/
theorem complete_next {e : Row m} {k : ℤ}
    (h : ∀ j, 0 < j → j ≤ k → ∃ e ∈ s m, C.place e = (C.stream (C.ident r),j))
    (hcount : C.count r = k+1) (he : e ∈ s m) (hplace : C.place e = (C.stream (C.ident r),C.count r)) :
    ∀ j, 0 < j → j ≤ C.count r → ∃ e ∈ s m, C.place e = (C.stream (C.ident r),j) := by
  intro j hpos hj
  by_cases hlast : j = C.count r
  · subst hlast
    exact ⟨e,he,hplace⟩
  · exact h j hpos (by omega)

theorem complete_step (hs : Step S may s s') (hu : ¬may m .update) (hd : ¬may m .delete)
    (h : C.Complete s) : C.Complete s' := by
  have hm : s m ⊆ s' m := Reaches.kept (.single hs) hu hd
  have hsame (r : Row n) (hr : r ∈ s n) (k : ℤ) (hpos : 0 < k) (hk : k ≤ C.count r) :
      ∃ e ∈ s' m, C.place e = (C.stream (C.ident r),k) := by
    obtain ⟨e,he,hplace⟩ := h r hr k hpos hk
    exact ⟨e,hm he,hplace⟩
  cases hs with
  | @inserts n' r granted checked trigger free refers =>
    by_cases hn : n = n'
    · subst hn
      obtain ⟨e,he,hplace⟩ := C.counted _ r refers
      intro a ha
      rw [Store.put_self] at ha
      rcases ha with rfl | ha
      · exact C.complete_next (fun j hpos (hj : j ≤ 0) => absurd hj (not_le.mpr hpos))
          (C.first a trigger) he hplace
      · exact hsame a ha
    · intro a ha
      rw [Store.put_ne s hn] at ha
      exact hsame a ha
  | @updates n' old new granted present checked trigger free refers =>
    by_cases hn : n = n'
    · subst hn
      have hnew := refers n new (by rw [Store.put_self]; exact Set.mem_insert ..)
      obtain ⟨e,he,hplace⟩ := C.counted _ new hnew
      obtain ⟨hident,hcount⟩ := C.next old new trigger
      intro a ha
      rw [Store.put_self] at ha
      rcases ha with rfl | ha
      · exact C.complete_next (hident ▸ hsame old present) hcount he hplace
      · exact hsame a ha.1
    · intro a ha
      rw [Store.put_ne s hn] at ha
      exact hsame a ha
  | @deletes n' old granted present refers =>
    intro a ha
    refine hsame a ?_
    revert a
    exact Store.put_cases (p := fun k rows => rows ⊆ s k) Set.sdiff_subset (fun _ _ => subset_rfl) n

/-- Whatever is done, a count never runs ahead of the events it counts. -/
theorem complete (hr : Reaches S may s s') (hu : ¬may m .update) (hd : ¬may m .delete)
    (h : C.Complete s) : C.Complete s' := by
  induction hr with
  | refl => exact h
  | tail _ hs ih => exact C.complete_step hs hu hd ih

/-- Counts that nobody may delete never go back. -/
theorem advances (hr : Reaches S may s s') (hd : ¬may n .delete) :
    ∀ r ∈ s n, ∃ r' ∈ s' n, C.ident r' = C.ident r ∧ C.count r ≤ C.count r' := by
  induction hr with
  | refl => exact fun r hr => ⟨r,hr,rfl,le_rfl⟩
  | @tail b c _ hs ih =>
    intro r hr
    obtain ⟨a,ha,hident,hcount⟩ := ih r hr
    cases hs with
    | @inserts n' new => exact ⟨a,Store.le_put (Set.subset_insert new (b n')) n ha,hident,hcount⟩
    | @updates n' old new granted present checked trigger free refers =>
      by_cases hn : n = n'
      · subst hn
        rw [Store.put_self]
        by_cases hold : a = old
        · subst hold
          obtain ⟨hident',hcount'⟩ := C.next a new trigger
          exact ⟨new,Set.mem_insert ..,hident'.trans hident,by omega⟩
        · exact ⟨a,Set.mem_insert_of_mem _ ⟨ha,hold⟩,hident,hcount⟩
      · rw [Store.put_ne b hn]
        exact ⟨a,ha,hident,hcount⟩
    | @deletes n' old granted =>
      rw [Store.put_ne b (ne_of_denied granted hd)]
      exact ⟨a,ha,hident,hcount⟩

end Counter
end StreamingCompass.Relational
