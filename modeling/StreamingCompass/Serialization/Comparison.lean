import StreamingCompass.Serialization.Canonical
import StreamingCompass.Serialization.ReceiptStore

/-! # The store's comparison

`_same_serialized_json_value` on a value that was read from the database: every node has a
built-in type, and the comparison is equality with the types.
-/
namespace StreamingCompass.Serialization

def ExactKeys : PyValue → Prop
  | .mapping items => ∀ item ∈ items, item.1.isExact = true
  | _ => True

theorem sameSerializedItems_eq {left right : List PyValue}
    (h : ∀ v ∈ left, ∀ w ∈ right, sameSerializedJsonValue v w = .ok (v.same w))
    (hlength : left.length = right.length) :
    sameSerializedItems left right = .ok (sameItems left right) := by
  induction left generalizing right with
  | nil =>
    obtain rfl := List.length_eq_zero_iff.mp hlength.symm
    rfl
  | cons v vs ih =>
    cases right with
    | nil => cases hlength
    | cons w ws =>
      have hhead := h v (by simp) w (by simp)
      have htail := ih (fun v hv w hw => h v (List.mem_cons_of_mem _ hv) w
        (List.mem_cons_of_mem _ hw)) (Nat.succ.inj hlength)
      rw [sameSerializedItems, hhead, ok_bind, sameItems]
      cases v.same w <;> simp [htail]

theorem sameItems_eq_false {left right : List PyValue} (h : left.length ≠ right.length) :
    sameItems left right = false := by
  induction left generalizing right with
  | nil =>
    cases right with
    | nil => exact (h rfl).elim
    | cons w ws => rfl
  | cons v vs ih =>
    cases right with
    | nil => rfl
    | cons w ws => rw [sameItems, ih (fun heq => h (congrArg Nat.succ heq)), Bool.and_false]

theorem sameSerializedFields_eq {left right : PyItems}
    (h : ∀ item ∈ left, ∀ w, right.get item.1.identity = some w →
      sameSerializedJsonValue item.2 w = .ok (item.2.same w))
    (hkeys : ∀ item ∈ left, right.get item.1.identity ≠ none) :
    sameSerializedFields left right = .ok (sameFields left right) := by
  induction left with
  | nil => rfl
  | cons item rest ih =>
    obtain ⟨key,v⟩ := item
    have htail := ih (fun item hi => h item (List.mem_cons_of_mem _ hi))
      (fun item hi => hkeys item (List.mem_cons_of_mem _ hi))
    rw [sameSerializedFields, sameFields]
    cases hget : right.get key.identity with
    | none => exact (hkeys (key,v) (by simp) hget).elim
    | some w =>
      have hhead := h (key,v) (by simp) w hget
      simp only [hhead, ok_bind]
      cases v.same w <;> simp [htail]

/-- Mappings with distinct keys that all occur in each other are of one size. -/
theorem length_eq_of_keys {left right : PyItems}
    (hl : (left.map (fun item => item.1.identity)).Nodup)
    (hr : (right.map (fun item => item.1.identity)).Nodup)
    (hleft : ∀ item ∈ left, right.get item.1.identity ≠ none)
    (hright : ∀ item ∈ right, left.get item.1.identity ≠ none) : left.length = right.length := by
  have hmem : ∀ key, key ∈ left.map (fun item => item.1.identity) ↔
      key ∈ right.map (fun item => item.1.identity) := by
    intro key
    constructor
    · intro h
      obtain ⟨item,hi,rfl⟩ := List.mem_map.mp h
      by_contra hnot
      exact hleft item hi (PyItems.get_eq_none_iff.mpr hnot)
    · intro h
      obtain ⟨item,hi,rfl⟩ := List.mem_map.mp h
      by_contra hnot
      exact hright item hi (PyItems.get_eq_none_iff.mpr hnot)
  simpa using ((List.perm_ext_iff_of_nodup hl hr).mpr hmem).length_eq

/-- Mappings of one size with distinct keys have the same keys if one's are among the other's. -/
theorem keys_of_length {left right : PyItems}
    (hl : (left.map (fun item => item.1.identity)).Nodup) (hlength : left.length = right.length)
    (hleft : ∀ item ∈ left, right.get item.1.identity ≠ none) :
    ∀ item ∈ right, left.get item.1.identity ≠ none := by
  have hsubset : left.map (fun item => item.1.identity) ⊆ right.map (fun item => item.1.identity) := by
    intro key h
    obtain ⟨item,hi,rfl⟩ := List.mem_map.mp h
    by_contra hnot
    exact hleft item hi (PyItems.get_eq_none_iff.mpr hnot)
  have hperm := (List.subperm_of_subset hl hsubset).perm_of_length_le (by simp [hlength])
  intro item hi hnone
  exact PyItems.get_eq_none_iff.mp hnone (hperm.mem_iff.mpr (List.mem_map_of_mem hi))

/-- Mappings whose items are compared as they should be are themselves. -/
theorem sameSerializedMapping_eq {left right : PyItems}
    (hl : (left.map (fun item => item.1.identity)).Nodup)
    (hr : (right.map (fun item => item.1.identity)).Nodup)
    (hk : ∀ item ∈ left, item.1.isExact = true)
    (h : ∀ item ∈ left, ∀ w, right.get item.1.identity = some w →
      sameSerializedJsonValue item.2 w = .ok (item.2.same w)) :
    sameSerializedJsonValue (.mapping left) (.mapping right) =
      .ok ((PyValue.mapping left).same (.mapping right)) := by
  have hexact : left.any (fun item => !item.1.isExact) = false := by
    rw [List.any_eq_false]
    intro item hi
    simp [hk item hi]
  have hguard : ((left.any (fun item => (right.get item.1.identity).isNone) ||
      right.any (fun item => (left.get item.1.identity).isNone)) = true) ↔
      ¬((∀ item ∈ left, right.get item.1.identity ≠ none) ∧
        ∀ item ∈ right, left.get item.1.identity ≠ none) := by
    simp only [Bool.or_eq_true, List.any_eq_true, Option.isNone_iff_eq_none, not_and_or, not_forall,
      ne_eq, not_not, exists_prop]
  rw [sameSerializedJsonValue, PyValue.same, hexact]
  by_cases hleft : ∀ item ∈ left, right.get item.1.identity ≠ none
  · by_cases hright : ∀ item ∈ right, left.get item.1.identity ≠ none
    · rw [if_neg (fun h => hguard.mp h ⟨hleft,hright⟩), if_neg Bool.false_ne_true,
        sameSerializedFields_eq h hleft, length_eq_of_keys hl hr hleft hright, beq_self_eq_true,
        Bool.true_and]
    · have hlength : left.length ≠ right.length :=
        fun hlength => hright (keys_of_length hl hlength hleft)
      rw [if_pos (hguard.mpr (fun h => hright h.2)), beq_eq_false_iff_ne.mpr hlength,
        Bool.false_and]
  · have hsame : sameFields left right = false := by
      refine Bool.eq_false_iff.mpr (fun h => hleft (fun item hi => ?_))
      obtain ⟨w,hw,-⟩ := (sameFields_iff left right).mp h item hi
      simp [hw]
    rw [if_pos (hguard.mpr (fun h => hleft h.1)), hsame, Bool.and_false]

theorem builtinType_eq_of_same {v w : PyValue} (h : v.same w = true) :
    v.builtinType = w.builtinType := by
  cases v <;> cases w <;> try cases h
  case str s t =>
    obtain rfl : s = t := by simpa using h
    rfl
  case int n m =>
    obtain rfl : n = m := by simpa using h
    rfl
  case float x exact y exact' =>
    obtain ⟨-,rfl⟩ : _ ∧ exact = exact' := by simpa [PyValue.same] using h
    rfl
  case sequence type items type' items' =>
    obtain ⟨rfl,-⟩ : type = type' ∧ _ := by simpa [PyValue.same] using h
    cases type <;> rfl
  all_goals rfl

section BuiltinTypes
variable {v : PyValue}

theorem builtinType_noneType (h : v.builtinType = some .noneType) : v = .none := by
  cases v with
  | none => rfl
  | sequence type items => cases type <;> cases h
  | str s => simp [PyValue.builtinType] at h
  | int n => simp [PyValue.builtinType] at h
  | float x exact => simp [PyValue.builtinType] at h
  | _ => cases h

theorem builtinType_bool (h : v.builtinType = some .bool) : ∃ b, v = .bool b := by
  cases v with
  | bool b => exact ⟨b,rfl⟩
  | sequence type items => cases type <;> cases h
  | str s => simp [PyValue.builtinType] at h
  | int n => simp [PyValue.builtinType] at h
  | float x exact => simp [PyValue.builtinType] at h
  | _ => cases h

theorem builtinType_str (h : v.builtinType = some .str) : ∃ s, v = .str s := by
  cases v with
  | str s => exact ⟨s,rfl⟩
  | sequence type items => cases type <;> cases h
  | int n => simp [PyValue.builtinType] at h
  | float x exact => simp [PyValue.builtinType] at h
  | _ => cases h

theorem builtinType_int (h : v.builtinType = some .int) : ∃ n, v = .int n := by
  cases v with
  | int n => exact ⟨n,rfl⟩
  | sequence type items => cases type <;> cases h
  | str s => simp [PyValue.builtinType] at h
  | float x exact => simp [PyValue.builtinType] at h
  | _ => cases h

theorem builtinType_float (h : v.builtinType = some .float) : ∃ x exact, v = .float x exact := by
  cases v with
  | float x exact => exact ⟨x,exact,rfl⟩
  | sequence type items => cases type <;> cases h
  | str s => simp [PyValue.builtinType] at h
  | int n => simp [PyValue.builtinType] at h
  | _ => cases h

end BuiltinTypes

/-- The value is no container. -/
def Scalar : PyValue → Prop
  | .sequence _ _ | .mapping _ => False
  | _ => True

/-- A scalar that is read is compared as it should be. -/
theorem sameSerializedScalar_eq {v : PyValue} (hp : Portable v) (hs : Scalar v) (w : PyValue) :
    sameSerializedScalar v w = .ok (v.same w) := by
  unfold sameSerializedScalar
  by_cases htype : v.builtinType = w.builtinType
  · cases v with
    | none =>
      obtain rfl := builtinType_noneType htype.symm
      rfl
    | bool b =>
      obtain ⟨c,rfl⟩ := builtinType_bool htype.symm
      simp [PyValue.builtinType]
    | str s =>
      have hexact : (PyValue.str s).builtinType = some .str := if_pos hp
      obtain ⟨t,rfl⟩ := builtinType_str (htype.symm.trans hexact)
      simp [← htype, hexact]
    | int n =>
      have hexact : (PyValue.int n).builtinType = some .int := if_pos hp.1
      obtain ⟨m,rfl⟩ := builtinType_int (htype.symm.trans hexact)
      simp [← htype, hexact]
    | float x exact =>
      have hexact : (PyValue.float x exact).builtinType = some .float := if_pos hp
      obtain ⟨y,exact',rfl⟩ := builtinType_float (htype.symm.trans hexact)
      simp [← htype, hexact]
    | object => exact hp.elim
    | sequence type items => exact hs.elim
    | mapping items => exact hs.elim
  · have hfalse : v.same w = false := by
      cases h : v.same w with
      | false => rfl
      | true => exact (htype (builtinType_eq_of_same h)).elim
    rw [hfalse]
    split
    · simp [htype]
    · rfl

/-- A node of a value read from the database. -/
structure ReadNode (v : PyValue) : Prop where
  distinct : v.DistinctKeys
  portable : Portable v
  list : ∀ type items, v = .sequence type items → type = .list
  keys : ExactKeys v

/-- On a value read from the database the store's comparison is equality. -/
theorem sameSerialized_eq_same {v w : PyValue} (hv : v.All ReadNode)
    (hw : w.All PyValue.DistinctKeys) : sameSerializedJsonValue v w = .ok (v.same w) := by
  induction v using PyValue.induction generalizing w with
  | sequence type items ih =>
    obtain ⟨hroot,hitems⟩ := (PyValue.all_sequence _ _).mp hv
    obtain rfl := hroot.list type items rfl
    cases w with
    | sequence type' right =>
      obtain ⟨-,hright⟩ := (PyValue.all_sequence _ _).mp hw
      cases type' with
      | tuple => rfl
      | list =>
        rw [sameSerializedJsonValue, PyValue.same, beq_self_eq_true, Bool.true_and]
        split
        · rename_i hne
          rw [sameItems_eq_false hne]
        · rename_i hlength
          exact sameSerializedItems_eq (fun v hv w hmem => ih v hv (hitems v hv) (hright w hmem))
            (not_not.mp hlength)
    | _ => rfl
  | mapping items ih =>
    obtain ⟨hroot,hitems⟩ := (PyValue.all_mapping _).mp hv
    cases w with
    | mapping right =>
      exact sameSerializedMapping_eq hroot.distinct hw.root hroot.keys
        (fun item hi w hget => ih item hi (hitems item hi) (all_of_get hw hget))
    | _ => rfl
  | str s => exact sameSerializedScalar_eq hv.root.portable trivial w
  | int n => exact sameSerializedScalar_eq hv.root.portable trivial w
  | float x exact => exact sameSerializedScalar_eq hv.root.portable trivial w
  | bool b => exact sameSerializedScalar_eq hv.root.portable trivial w
  | none => exact sameSerializedScalar_eq hv.root.portable trivial w
  | object => exact sameSerializedScalar_eq hv.root.portable trivial w

end StreamingCompass.Serialization
