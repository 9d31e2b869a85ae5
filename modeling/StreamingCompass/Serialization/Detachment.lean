import StreamingCompass.Serialization.Codec

/-! # Detached JSON

What `_detach_json_object` accepts beyond `ensure_json_object`, and the copy it returns:
lists for the tuples of the frozen value, everything else as it is.
-/
namespace StreamingCompass.Serialization
open PyValue

/-- A node with a portable representation. -/
def Portable : PyValue → Prop
  | .str s => s.exact = true
  | .int n => n.exact = true ∧ SIGNED_64_BIT_MIN ≤ n.value ∧ n.value ≤ SIGNED_64_BIT_MAX
  | .float _ exact => exact = true
  | .object => False
  | _ => True

@[simp] theorem all_portable_withSequences (type : SequenceType) (v : PyValue) :
    (v.withSequences type).All Portable ↔ v.All Portable := by
  refine all_withSequences type (fun v => ?_) v
  cases v with
  | mapping items => simp only [withSequences_mapping, Portable]
  | sequence _ items => simp only [withSequences_sequence, Portable]
  | _ => exact Iff.rfl

theorem requireInt64_eq_ok {value : PyValue} {fieldName : String} {n : PyInt} :
    requireInt64 value fieldName = .ok n ↔ value = .int n ∧ Portable (.int n) := by
  unfold requireInt64
  split
  · rename_i m
    by_cases h : m < SIGNED_64_BIT_MIN ∨ m > SIGNED_64_BIT_MAX
    · rw [if_pos h]
      refine ⟨nofun,?_⟩
      rintro ⟨⟨⟩,-,hmin,hmax⟩
      dsimp only at hmin hmax
      omega
    · rw [if_neg h, Except.ok.injEq, PyValue.int.injEq]
      refine ⟨?_,fun h => h.1⟩
      rintro rfl
      obtain ⟨hmin,hmax⟩ := not_or.mp h
      exact ⟨rfl,rfl,Int.not_lt.mp hmin,Int.not_lt.mp hmax⟩
  · rename_i hne
    refine ⟨nofun,?_⟩
    rintro ⟨rfl,hexact,-⟩
    obtain ⟨m,exact⟩ := n
    cases hexact
    exact (hne m rfl).elim

theorem detachJsonItems_eq_ok {items detached : List PyValue}
    (h : ∀ v ∈ items, ∀ fieldName w, detachJsonValue fieldName (v.withSequences .tuple) = .ok w ↔
      v.All Portable ∧ w = v.withSequences .list) {fieldName : String} {index : ℕ} :
    detachJsonItems fieldName index (items.map (PyValue.withSequences .tuple)) = .ok detached ↔
      (∀ v ∈ items, v.All Portable) ∧ detached = items.map (PyValue.withSequences .list) := by
  induction items generalizing index detached with
  | nil => simp [detachJsonItems, eq_comm]
  | cons v vs ih =>
    obtain ⟨hv,hvs⟩ := List.forall_mem_cons.mp h
    simp only [List.map_cons, detachJsonItems, bind_eq_ok, hv, ih hvs, Except.ok.injEq,
      List.forall_mem_cons]
    constructor
    · rintro ⟨_,⟨hhead,rfl⟩,_,⟨hrest,rfl⟩,rfl⟩
      exact ⟨⟨hhead,hrest⟩,rfl⟩
    · rintro ⟨⟨hhead,hrest⟩,rfl⟩
      exact ⟨_,⟨hhead,rfl⟩,_,⟨hrest,rfl⟩,rfl⟩

theorem detachJsonFields_eq_ok {items detached : PyItems}
    (h : ∀ item ∈ items, ∀ fieldName w,
      detachJsonValue fieldName (item.2.withSequences .tuple) = .ok w ↔
        item.2.All Portable ∧ w = item.2.withSequences .list) {fieldName : String} :
    detachJsonFields fieldName (fieldsWithSequences .tuple items) = .ok detached ↔
      (∀ item ∈ items, item.2.All Portable) ∧ detached = fieldsWithSequences .list items := by
  induction items generalizing detached with
  | nil => simp [detachJsonFields, fieldsWithSequences, eq_comm]
  | cons item rest ih =>
    obtain ⟨hv,hrest⟩ := List.forall_mem_cons.mp h
    simp only [fieldsWithSequences, detachJsonFields, bind_eq_ok, hv, ih hrest, Except.ok.injEq,
      List.forall_mem_cons]
    constructor
    · rintro ⟨_,⟨hhead,rfl⟩,_,⟨htail,rfl⟩,rfl⟩
      exact ⟨⟨hhead,htail⟩,rfl⟩
    · rintro ⟨⟨hhead,htail⟩,rfl⟩
      exact ⟨_,⟨hhead,rfl⟩,_,⟨htail,rfl⟩,rfl⟩

/-- A frozen value is detached just if every node is portable. -/
theorem detachJsonValue_eq_ok (v : PyValue) {fieldName : String} {w : PyValue} :
    detachJsonValue fieldName (v.withSequences .tuple) = .ok w ↔
      v.All Portable ∧ w = v.withSequences .list := by
  induction v using PyValue.induction generalizing fieldName w with
  | sequence type items ih =>
    simp only [withSequences_sequence, detachJsonValue, bind_eq_ok, Except.ok.injEq,
      detachJsonItems_eq_ok (fun v hv fieldName w => ih v hv), all_sequence, Portable, true_and]
    constructor
    · rintro ⟨_,⟨hitems,rfl⟩,rfl⟩
      exact ⟨hitems,rfl⟩
    · rintro ⟨hitems,rfl⟩
      exact ⟨_,⟨hitems,rfl⟩,rfl⟩
  | mapping items ih =>
    simp only [PyValue.withSequences, detachJsonValue, bind_eq_ok, Except.ok.injEq,
      detachJsonFields_eq_ok (fun item hi fieldName w => ih item hi), all_mapping, Portable,
      true_and]
    constructor
    · rintro ⟨_,⟨hitems,rfl⟩,rfl⟩
      exact ⟨hitems,rfl⟩
    · rintro ⟨hitems,rfl⟩
      exact ⟨_,⟨hitems,rfl⟩,rfl⟩
  | str s =>
    obtain ⟨text,exact⟩ := s
    cases exact <;> simp [detachJsonValue, PyValue.withSequences, Portable, eq_comm (a := w)]
  | int n =>
    obtain ⟨m,exact⟩ := n
    cases exact with
    | false => simp [detachJsonValue, PyValue.withSequences, Portable]
    | true =>
      simp only [PyValue.withSequences, detachJsonValue, bind_eq_ok, requireInt64_eq_ok,
        Except.ok.injEq, all_int]
      constructor
      · rintro ⟨_,⟨⟨⟩,h⟩,rfl⟩
        exact ⟨h,rfl⟩
      · rintro ⟨h,rfl⟩
        exact ⟨_,⟨rfl,h⟩,rfl⟩
  | float x exact =>
    cases exact <;> simp [detachJsonValue, PyValue.withSequences, Portable, eq_comm (a := w)]
  | _ => simp [detachJsonValue, PyValue.withSequences, Portable, eq_comm (a := w)]

/-- A mapping `_detach_json_object` accepts. -/
structure Detachable (items : PyItems) : Prop where
  safe : JsonSafe items
  portable : (PyValue.mapping items).All Portable

theorem detachJsonObject_eq_ok {value : PyValue} {fieldName : String} {detached : PyItems} :
    detachJsonObject value fieldName = .ok detached ↔ ∃ items, value = .mapping items ∧
      Detachable items ∧ detached = fieldsWithSequences .list items := by
  simp only [detachJsonObject, bind_eq_ok, ensureJsonObject_eq_ok]
  constructor
  · rintro ⟨_,⟨items,rfl,hsafe,rfl⟩,hdetach⟩
    obtain ⟨hportable,rfl⟩ :=
      (detachJsonFields_eq_ok (fun item _ _ _ => detachJsonValue_eq_ok item.2)).mp hdetach
    exact ⟨items,rfl,⟨hsafe,(all_mapping items).mpr ⟨trivial,hportable⟩⟩,rfl⟩
  · rintro ⟨items,rfl,h,rfl⟩
    refine ⟨_,⟨items,rfl,h.safe,rfl⟩,?_⟩
    exact (detachJsonFields_eq_ok (fun item _ _ _ => detachJsonValue_eq_ok item.2)).mpr
      ⟨((all_mapping items).mp h.portable).2,rfl⟩

@[simp] theorem detachable_withSequences (type : SequenceType) (items : PyItems) :
    Detachable (fieldsWithSequences type items) ↔ Detachable items := by
  have hportable := all_portable_withSequences type (.mapping items)
  rw [PyValue.withSequences] at hportable
  exact ⟨fun h => ⟨(jsonSafe_withSequences type items).mp h.safe,hportable.mp h.portable⟩,
    fun h => ⟨(jsonSafe_withSequences type items).mpr h.safe,hportable.mpr h.portable⟩⟩

end StreamingCompass.Serialization
