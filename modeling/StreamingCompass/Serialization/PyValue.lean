import Mathlib.Data.List.Nodup
import StreamingCompass.Core.Python

/-! # Python values

The values a caller's mapping can hold, as far as `isinstance` and `type(value) is` tell
them apart. An `exact` value has the built-in class itself, any other an own subclass of it.
-/
namespace StreamingCompass.Serialization

structure PyStr where
  text : String
  exact : Bool
deriving DecidableEq, Repr

structure PyInt where
  value : ℤ
  exact : Bool
deriving DecidableEq, Repr

/-- The decimal that `repr` prints for a finite float: every float has one, and no two
floats share one. -/
structure Decimal where
  negative : Bool
  digits : ℕ
  exponent : ℤ
  normal : digits % 10 ≠ 0 ∨ digits = 0 ∧ exponent = 0
deriving DecidableEq

inductive PyFloat where
  | finite (x : Decimal)
  | infinite (negative : Bool)
  | nan
deriving DecidableEq

/-- `math.isfinite` -/
def PyFloat.isFinite : PyFloat → Bool
  | .finite _ => true
  | _ => false

/-- `x == y` of two floats; the zeros are equal. -/
def PyFloat.eq : PyFloat → PyFloat → Bool
  | .finite x, .finite y =>
    x.digits == y.digits && x.exponent == y.exponent && (x.negative == y.negative || x.digits == 0)
  | .infinite a, .infinite b => a == b
  | _, _ => false

inductive PyKey where
  | str (s : PyStr)
  /-- any other hashable value -/
  | other (identity : ℕ)
deriving DecidableEq, Repr

/-- What decides equality of keys: an instance of `str` counts by its text. -/
def PyKey.identity : PyKey → String ⊕ ℕ
  | .str s => .inl s.text
  | .other n => .inr n

inductive SequenceType where | list | tuple
deriving DecidableEq, Repr

inductive PyValue where
  | none
  | bool (b : Bool)
  | str (s : PyStr)
  | int (n : PyInt)
  | float (x : PyFloat) (exact : Bool)
  | sequence (type : SequenceType) (items : List PyValue)
  | mapping (items : List (PyKey × PyValue))
  /-- a value of any other class -/
  | object

abbrev PyItems : Type := List (PyKey × PyValue)

def PyStr.ofText (text : String) : PyStr := ⟨text,true⟩
def PyKey.ofText (text : String) : PyKey := .str (.ofText text)

@[simp] theorem PyKey.identity_ofText (text : String) : (PyKey.ofText text).identity = .inl text := rfl

/-- A dictionary display with literal keys. -/
def dict (fields : List (String × PyValue)) : PyItems := fields.map (fun f => (.ofText f.1,f.2))

/-- `mapping.get(key)` -/
def PyItems.get (items : PyItems) (key : String ⊕ ℕ) : Option PyValue :=
  (items.find? (fun item => item.1.identity = key)).map Prod.snd

/-! ## Induction and predicates on every node -/

/-- Induction with the hypothesis for every item of a container. -/
@[elab_as_elim] theorem PyValue.induction {P : PyValue → Prop} (none : P .none)
    (bool : ∀ b, P (.bool b)) (str : ∀ s, P (.str s)) (int : ∀ n, P (.int n))
    (float : ∀ x exact, P (.float x exact))
    (sequence : ∀ type items, (∀ v ∈ items, P v) → P (.sequence type items))
    (mapping : ∀ items : PyItems, (∀ item ∈ items, P item.2) → P (.mapping items))
    (object : P .object) (v : PyValue) : P v :=
  PyValue.rec (motive_1 := P) (motive_2 := fun items => ∀ v ∈ items, P v)
    (motive_3 := fun items => ∀ item ∈ items, P item.2) (motive_4 := fun item => P item.2)
    none bool str int float sequence mapping object
    (fun _ h => absurd h List.not_mem_nil)
    (fun _ _ hv hvs => List.forall_mem_cons.mpr ⟨hv,hvs⟩)
    (fun _ h => absurd h List.not_mem_nil)
    (fun _ _ hv hvs => List.forall_mem_cons.mpr ⟨hv,hvs⟩)
    (fun _ _ hv => hv) v

mutual
/-- Every node of the value satisfies `P`. -/
def PyValue.All (P : PyValue → Prop) : PyValue → Prop
  | .sequence type items => P (.sequence type items) ∧ AllItems P items
  | .mapping items => P (.mapping items) ∧ AllFields P items
  | v => P v
def AllItems (P : PyValue → Prop) : List PyValue → Prop
  | [] => True
  | v :: vs => v.All P ∧ AllItems P vs
def AllFields (P : PyValue → Prop) : List (PyKey × PyValue) → Prop
  | [] => True
  | (_,v) :: rest => v.All P ∧ AllFields P rest
end

mutual
def PyValue.decidableAll (P : PyValue → Prop) [DecidablePred P] : (v : PyValue) → Decidable (v.All P)
  | .sequence type items =>
    have := decidableAllItems P items
    inferInstanceAs (Decidable (P (.sequence type items) ∧ AllItems P items))
  | .mapping items =>
    have := decidableAllFields P items
    inferInstanceAs (Decidable (P (.mapping items) ∧ AllFields P items))
  | .none => inferInstanceAs (Decidable (P .none))
  | .bool b => inferInstanceAs (Decidable (P (.bool b)))
  | .str s => inferInstanceAs (Decidable (P (.str s)))
  | .int n => inferInstanceAs (Decidable (P (.int n)))
  | .float x exact => inferInstanceAs (Decidable (P (.float x exact)))
  | .object => inferInstanceAs (Decidable (P .object))
def decidableAllItems (P : PyValue → Prop) [DecidablePred P] :
    (items : List PyValue) → Decidable (AllItems P items)
  | [] => isTrue trivial
  | v :: vs =>
    have := v.decidableAll P
    have := decidableAllItems P vs
    inferInstanceAs (Decidable (v.All P ∧ AllItems P vs))
def decidableAllFields (P : PyValue → Prop) [DecidablePred P] :
    (items : List (PyKey × PyValue)) → Decidable (AllFields P items)
  | [] => isTrue trivial
  | (_,v) :: rest =>
    have := v.decidableAll P
    have := decidableAllFields P rest
    inferInstanceAs (Decidable (v.All P ∧ AllFields P rest))
end

instance (P : PyValue → Prop) [DecidablePred P] (v : PyValue) : Decidable (v.All P) :=
  v.decidableAll P

section All
variable {P Q : PyValue → Prop}

theorem allItems_iff (items : List PyValue) : AllItems P items ↔ ∀ v ∈ items, v.All P := by
  induction items with
  | nil => exact iff_of_true trivial (List.forall_mem_nil _)
  | cons v vs ih => exact (and_congr_right fun _ => ih).trans List.forall_mem_cons.symm

theorem allFields_iff (items : PyItems) : AllFields P items ↔ ∀ item ∈ items, item.2.All P := by
  induction items with
  | nil => exact iff_of_true trivial (List.forall_mem_nil _)
  | cons item rest ih =>
    rw [List.forall_mem_cons, ← ih]
    exact Iff.rfl

@[simp] theorem PyValue.all_sequence (type : SequenceType) (items : List PyValue) :
    (PyValue.sequence type items).All P ↔ P (.sequence type items) ∧ ∀ v ∈ items, v.All P :=
  and_congr_right fun _ => allItems_iff items

@[simp] theorem PyValue.all_mapping (items : PyItems) :
    (PyValue.mapping items).All P ↔ P (.mapping items) ∧ ∀ item ∈ items, item.2.All P :=
  and_congr_right fun _ => allFields_iff items

@[simp] theorem PyValue.all_none : PyValue.none.All P ↔ P .none := Iff.rfl
@[simp] theorem PyValue.all_bool (b : Bool) : (PyValue.bool b).All P ↔ P (.bool b) := Iff.rfl
@[simp] theorem PyValue.all_str (s : PyStr) : (PyValue.str s).All P ↔ P (.str s) := Iff.rfl
@[simp] theorem PyValue.all_int (n : PyInt) : (PyValue.int n).All P ↔ P (.int n) := Iff.rfl
@[simp] theorem PyValue.all_float (x : PyFloat) (exact : Bool) :
    (PyValue.float x exact).All P ↔ P (.float x exact) := Iff.rfl
@[simp] theorem PyValue.all_object : PyValue.object.All P ↔ P .object := Iff.rfl

theorem PyValue.All.root {v : PyValue} (h : v.All P) : P v := by
  cases v with
  | sequence type items => exact (all_sequence type items |>.mp h).1
  | mapping items => exact (all_mapping items |>.mp h).1
  | _ => exact h

theorem PyValue.All.mono (hPQ : ∀ v, P v → Q v) {v : PyValue} (h : v.All P) : v.All Q := by
  induction v using PyValue.induction with
  | sequence type items ih =>
    rw [all_sequence] at h ⊢
    exact ⟨hPQ _ h.1,fun v hv => ih v hv (h.2 v hv)⟩
  | mapping items ih =>
    rw [all_mapping] at h ⊢
    exact ⟨hPQ _ h.1,fun item hi => ih item hi (h.2 item hi)⟩
  | _ => exact hPQ _ h

theorem PyValue.All.and {v : PyValue} (hp : v.All P) (hq : v.All Q) :
    v.All (fun w => P w ∧ Q w) := by
  induction v using PyValue.induction with
  | sequence type items ih =>
    rw [all_sequence] at hp hq ⊢
    exact ⟨⟨hp.1,hq.1⟩,fun v hv => ih v hv (hp.2 v hv) (hq.2 v hv)⟩
  | mapping items ih =>
    rw [all_mapping] at hp hq ⊢
    exact ⟨⟨hp.1,hq.1⟩,fun item hi => ih item hi (hp.2 item hi) (hq.2 item hi)⟩
  | _ => exact ⟨hp,hq⟩

end All

/-! ## Rebuilding the sequences -/

mutual
/-- The value with every sequence in it of one type. -/
def PyValue.withSequences (type : SequenceType) : PyValue → PyValue
  | .sequence _ items => .sequence type (itemsWithSequences type items)
  | .mapping items => .mapping (fieldsWithSequences type items)
  | v => v
def itemsWithSequences (type : SequenceType) : List PyValue → List PyValue
  | [] => []
  | v :: vs => v.withSequences type :: itemsWithSequences type vs
def fieldsWithSequences (type : SequenceType) : List (PyKey × PyValue) → List (PyKey × PyValue)
  | [] => []
  | (key,v) :: rest => (key,v.withSequences type) :: fieldsWithSequences type rest
end

section WithSequences
variable (type : SequenceType)

theorem itemsWithSequences_eq_map (items : List PyValue) :
    itemsWithSequences type items = items.map (PyValue.withSequences type) := by
  induction items with
  | nil => rfl
  | cons v vs ih => exact congrArg (v.withSequences type :: ·) ih

theorem fieldsWithSequences_eq_map (items : PyItems) :
    fieldsWithSequences type items = items.map (fun item => (item.1,item.2.withSequences type)) := by
  induction items with
  | nil => rfl
  | cons item rest ih => exact congrArg ((item.1,item.2.withSequences type) :: ·) ih

@[simp] theorem PyValue.withSequences_sequence (other : SequenceType) (items : List PyValue) :
    (PyValue.sequence other items).withSequences type =
      .sequence type (items.map (PyValue.withSequences type)) :=
  congrArg (PyValue.sequence type) (itemsWithSequences_eq_map type items)

@[simp] theorem PyValue.withSequences_mapping (items : PyItems) :
    (PyValue.mapping items).withSequences type =
      .mapping (items.map (fun item => (item.1,item.2.withSequences type))) :=
  congrArg PyValue.mapping (fieldsWithSequences_eq_map type items)

/-- The last rebuilding decides. -/
@[simp] theorem PyValue.withSequences_withSequences (other : SequenceType) (v : PyValue) :
    (v.withSequences other).withSequences type = v.withSequences type := by
  induction v using PyValue.induction with
  | sequence _ items ih =>
    simp only [withSequences_sequence, List.map_map, sequence.injEq, true_and]
    exact List.map_congr_left ih
  | mapping items ih =>
    simp only [withSequences_mapping, List.map_map, mapping.injEq]
    exact List.map_congr_left (fun item hi => by simp [ih item hi])
  | _ => rfl

@[simp] theorem fieldsWithSequences_fieldsWithSequences (other : SequenceType) (items : PyItems) :
    fieldsWithSequences type (fieldsWithSequences other items) = fieldsWithSequences type items := by
  simp [fieldsWithSequences_eq_map]

/-- A predicate on nodes that no rebuilding changes holds of the rebuilt value's nodes. -/
theorem PyValue.all_withSequences {P : PyValue → Prop}
    (hP : ∀ v : PyValue, P (v.withSequences type) ↔ P v) (v : PyValue) :
    (v.withSequences type).All P ↔ v.All P := by
  induction v using PyValue.induction with
  | sequence other items ih =>
    have hroot := hP (.sequence other items)
    rw [withSequences_sequence] at hroot
    simp only [withSequences_sequence, all_sequence, hroot, List.forall_mem_map]
    exact and_congr_right (fun _ => forall₂_congr ih)
  | mapping items ih =>
    have hroot := hP (.mapping items)
    rw [withSequences_mapping] at hroot
    simp only [withSequences_mapping, all_mapping, hroot, List.forall_mem_map]
    exact and_congr_right (fun _ => forall₂_congr ih)
  | _ => exact Iff.rfl

omit type in
theorem map_eq_self_iff {α : Type} {f : α → α} {l : List α} : l.map f = l ↔ ∀ a ∈ l, f a = a := by
  conv_lhs => rhs; rw [← List.map_id l]
  exact List.map_inj_left

theorem PyValue.withSequences_eq_self_iff (v : PyValue) : v.withSequences type = v ↔
    v.All (fun w => ∀ other items, w = .sequence other items → other = type) := by
  induction v using PyValue.induction with
  | sequence other items ih =>
    simp only [withSequences_sequence, sequence.injEq, map_eq_self_iff, all_sequence]
    constructor
    · rintro ⟨htype,h⟩
      refine ⟨?_,fun v hv => (ih v hv).mp (h v hv)⟩
      rintro _ _ ⟨rfl,-⟩
      exact htype.symm
    · exact fun h => ⟨(h.1 other items ⟨rfl,rfl⟩).symm,fun v hv => (ih v hv).mpr (h.2 v hv)⟩
  | mapping items ih =>
    simp only [withSequences_mapping, mapping.injEq, map_eq_self_iff, all_mapping]
    constructor
    · exact fun h => ⟨nofun,fun item hi => (ih item hi).mp (congrArg Prod.snd (h item hi))⟩
    · exact fun h item hi => Prod.ext rfl ((ih item hi).mpr (h.2 item hi))
  | _ => simp [withSequences]

def OnlyLists (v : PyValue) : Prop :=
  v.All (fun w => ∀ type items, w = .sequence type items → type = .list)

end WithSequences

/-! ## Depth -/

mutual
/-- No node lies deeper than `limit`, the root lying at `depth`. -/
def PyValue.Within (limit : ℕ) : ℕ → PyValue → Prop
  | depth, .sequence _ items => depth ≤ limit ∧ ItemsWithin limit (depth+1) items
  | depth, .mapping items => depth ≤ limit ∧ FieldsWithin limit (depth+1) items
  | depth, _ => depth ≤ limit
def ItemsWithin (limit : ℕ) : ℕ → List PyValue → Prop
  | _, [] => True
  | depth, v :: vs => v.Within limit depth ∧ ItemsWithin limit depth vs
def FieldsWithin (limit : ℕ) : ℕ → List (PyKey × PyValue) → Prop
  | _, [] => True
  | depth, (_,v) :: rest => v.Within limit depth ∧ FieldsWithin limit depth rest
end

section Within
variable {limit depth : ℕ}

theorem itemsWithin_iff (items : List PyValue) :
    ItemsWithin limit depth items ↔ ∀ v ∈ items, v.Within limit depth := by
  induction items with
  | nil => exact iff_of_true trivial (List.forall_mem_nil _)
  | cons v vs ih => exact (and_congr_right fun _ => ih).trans List.forall_mem_cons.symm

theorem fieldsWithin_iff (items : PyItems) :
    FieldsWithin limit depth items ↔ ∀ item ∈ items, item.2.Within limit depth := by
  induction items with
  | nil => exact iff_of_true trivial (List.forall_mem_nil _)
  | cons item rest ih =>
    rw [List.forall_mem_cons, ← ih]
    exact Iff.rfl

@[simp] theorem PyValue.within_sequence (type : SequenceType) (items : List PyValue) :
    (PyValue.sequence type items).Within limit depth ↔
      depth ≤ limit ∧ ∀ v ∈ items, v.Within limit (depth+1) :=
  and_congr_right fun _ => itemsWithin_iff items

@[simp] theorem PyValue.within_mapping (items : PyItems) :
    (PyValue.mapping items).Within limit depth ↔
      depth ≤ limit ∧ ∀ item ∈ items, item.2.Within limit (depth+1) :=
  and_congr_right fun _ => fieldsWithin_iff items

theorem PyValue.Within.le {v : PyValue} (h : v.Within limit depth) : depth ≤ limit := by
  cases v with
  | sequence type items => exact ((within_sequence type items).mp h).1
  | mapping items => exact ((within_mapping items).mp h).1
  | _ => exact h

@[simp] theorem PyValue.within_withSequences (type : SequenceType) (v : PyValue) :
    (v.withSequences type).Within limit depth ↔ v.Within limit depth := by
  induction v using PyValue.induction generalizing depth with
  | sequence other items ih =>
    simp only [withSequences_sequence, within_sequence, List.forall_mem_map]
    exact and_congr_right (fun _ => forall₂_congr (fun v hv => ih v hv))
  | mapping items ih =>
    simp only [withSequences_mapping, within_mapping, List.forall_mem_map]
    exact and_congr_right (fun _ => forall₂_congr (fun item hi => ih item hi))
  | _ => exact Iff.rfl

end Within

/-! ## Mappings -/

namespace PyItems

theorem get_cons (item : PyKey × PyValue) (rest : PyItems) (key : String ⊕ ℕ) :
    PyItems.get (item :: rest) key =
      if item.1.identity = key then some item.2 else rest.get key := by
  by_cases h : item.1.identity = key <;> simp [PyItems.get, h]

theorem get_eq_none_iff {items : PyItems} {key : String ⊕ ℕ} :
    items.get key = none ↔ key ∉ items.map (fun item => item.1.identity) := by
  simp [PyItems.get, List.find?_eq_none]

theorem mem_of_get {items : PyItems} {key : String ⊕ ℕ} {v : PyValue} (h : items.get key = some v) :
    ∃ k, (k,v) ∈ items ∧ k.identity = key := by
  obtain ⟨item,hfind,rfl⟩ := Option.map_eq_some_iff.mp h
  have hkey := List.find?_some hfind
  exact ⟨item.1,List.mem_of_find?_eq_some hfind,by simpa using hkey⟩

/-- Under distinct keys every item is found under its key. -/
theorem get_of_mem {items : PyItems} (h : (items.map (fun item => item.1.identity)).Nodup)
    {item : PyKey × PyValue} (hi : item ∈ items) : items.get item.1.identity = some item.2 := by
  induction items with
  | nil => cases hi
  | cons head rest ih =>
    obtain ⟨hhead,hrest⟩ := List.nodup_cons.mp h
    rw [get_cons]
    rcases List.mem_cons.mp hi with rfl | hi
    · rw [if_pos rfl]
    · have hne : head.1.identity ≠ item.1.identity := by
        intro heq
        exact hhead (List.mem_map.mpr ⟨item,hi,heq.symm⟩)
      rw [if_neg hne, ih hrest hi]

end PyItems

/-- The keys of a mapping are distinct, as in every mapping of Python. -/
def PyValue.DistinctKeys : PyValue → Prop
  | .mapping items => (items.map (fun item => item.1.identity)).Nodup
  | _ => True

instance : DecidablePred PyValue.DistinctKeys
  | .mapping items => inferInstanceAs (Decidable (items.map (fun item => item.1.identity)).Nodup)
  | .none | .bool _ | .str _ | .int _ | .float _ _ | .sequence _ _ | .object => isTrue trivial

@[simp] theorem PyValue.distinctKeys_withSequences (type : SequenceType) (v : PyValue) :
    (v.withSequences type).All DistinctKeys ↔ v.All DistinctKeys := by
  refine all_withSequences type (fun v => ?_) v
  cases v with
  | mapping items =>
    simp only [withSequences_mapping, DistinctKeys, List.map_map]
    exact Iff.rfl
  | sequence _ items =>
    simp only [withSequences_sequence, DistinctKeys]
  | _ => exact Iff.rfl

/-! ## Equality -/

mutual
/-- `v == w` where also the types agree: items of mappings are compared by key. -/
def PyValue.same : PyValue → PyValue → Bool
  | .none, .none => true
  | .bool b, .bool c => b == c
  | .str s, .str t => s == t
  | .int n, .int m => n == m
  | .float x exact, .float y exact' => x.eq y && exact == exact'
  | .sequence type items, .sequence type' items' => type == type' && sameItems items items'
  | .mapping items, .mapping items' => items.length == items'.length && sameFields items items'
  | _, _ => false
def sameItems : List PyValue → List PyValue → Bool
  | [], [] => true
  | v :: vs, w :: ws => v.same w && sameItems vs ws
  | _, _ => false
def sameFields : List (PyKey × PyValue) → List (PyKey × PyValue) → Bool
  | [], _ => true
  | (key,v) :: rest, items =>
    (match PyItems.get items key.identity with
      | some w => v.same w
      | none => false) && sameFields rest items
end

@[simp] theorem PyValue.same_none : PyValue.none.same .none = true := rfl
@[simp] theorem PyValue.same_bool (b c : Bool) : (PyValue.bool b).same (.bool c) = (b == c) := rfl
@[simp] theorem PyValue.same_str (s t : PyStr) : (PyValue.str s).same (.str t) = (s == t) := rfl
@[simp] theorem PyValue.same_int (n m : PyInt) : (PyValue.int n).same (.int m) = (n == m) := rfl

theorem sameFields_iff (fields : PyItems) (items : PyItems) : sameFields fields items = true ↔
    ∀ item ∈ fields, ∃ w, items.get item.1.identity = some w ∧ item.2.same w = true := by
  induction fields with
  | nil => simp [sameFields]
  | cons item rest ih =>
    obtain ⟨key,v⟩ := item
    simp only [sameFields, Bool.and_eq_true, ih, List.forall_mem_cons]
    refine and_congr_left (fun _ => ?_)
    cases items.get key.identity <;> simp

theorem sameItems_map_iff (f : PyValue → PyValue) (items : List PyValue) :
    sameItems (items.map f) items = true ↔ ∀ v ∈ items, (f v).same v = true := by
  induction items with
  | nil => simp [sameItems]
  | cons v vs ih => simp [sameItems, ih]

/-- A value that `==` finds equal to itself. -/
def PyValue.Comparable : PyValue → Prop
  | .float x _ => x.isFinite = true
  | .object => False
  | _ => True

@[simp] theorem PyFloat.eq_self {x : PyFloat} (h : x.isFinite = true) : x.eq x = true := by
  cases x with
  | finite x => simp [PyFloat.eq]
  | _ => cases h

/-- Rebuilding the sequences keeps a value equal just if they have the type already. -/
theorem PyValue.same_withSequences_iff (type : SequenceType) {v : PyValue} (hw : v.All DistinctKeys)
    (hc : v.All Comparable) : (v.withSequences type).same v = true ↔ v.withSequences type = v := by
  induction v using PyValue.induction with
  | sequence other items ih =>
    rw [all_sequence] at hw hc
    simp only [withSequences_sequence, same, Bool.and_eq_true, beq_iff_eq, sameItems_map_iff,
      sequence.injEq, map_eq_self_iff]
    exact and_congr_right (fun _ => forall₂_congr (fun v hv => ih v hv (hw.2 v hv) (hc.2 v hv)))
  | mapping items ih =>
    rw [all_mapping] at hw hc
    simp only [withSequences_mapping, same, List.length_map, beq_self_eq_true, Bool.true_and,
      sameFields_iff, List.forall_mem_map, mapping.injEq, map_eq_self_iff]
    refine forall₂_congr (fun item hi => ?_)
    rw [PyItems.get_of_mem hw.1 hi]
    simp [ih item hi (hw.2 item hi) (hc.2 item hi), Prod.ext_iff]
  | float x exact =>
    have hx : x.isFinite = true := hc.root
    simp [withSequences, same, hx]
  | object => exact hc.root.elim
  | _ => simp [withSequences]

end StreamingCompass.Serialization
