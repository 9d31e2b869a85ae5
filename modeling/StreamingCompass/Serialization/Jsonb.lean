import StreamingCompass.Serialization.JsonText
import StreamingCompass.Storage.Database

/-! # Values in jsonb columns

`json.dumps` of a detached value, the `jsonb` value of that text, and `json.loads` of the text
the column is read as. `jsonb` orders the keys of an object and keeps numbers exactly.
-/
namespace StreamingCompass.Serialization
open PyValue

/-- A JSON text, or a `jsonb` value, by its kind of numbers. -/
inductive Json (N : Type) where
  | null
  | bool (b : Bool)
  | string (s : String)
  | number (n : N)
  | array (items : List (Json N))
  | object (fields : List (String × Json N))

def invalidJson : PyException := .databaseError "22P02" "invalid input syntax for type json"

mutual
/-- `json.dumps`, with the error PostgreSQL has for the tokens that are not JSON. -/
def dumps : PyValue → Except PyException (Json JsonNumber)
  | .none => .ok .null
  | .bool b => .ok (.bool b)
  | .str s => .ok (.string s.text)
  | .int n => .ok (.number n.token)
  | .float (.finite x) _ => .ok (.number x.token)
  | .float _ _ => .error invalidJson
  | .sequence _ items => do .ok (.array (← dumpsItems items))
  | .mapping items => do .ok (.object (← dumpsFields items))
  | .object => .error (.typeError "Object is not JSON serializable")
def dumpsItems : List PyValue → Except PyException (List (Json JsonNumber))
  | [] => .ok []
  | v :: vs => do .ok ((← dumps v) :: (← dumpsItems vs))
def dumpsFields : List (PyKey × PyValue) → Except PyException (List (String × Json JsonNumber))
  | [] => .ok []
  | (.str s,v) :: rest => do .ok ((s.text,← dumps v) :: (← dumpsFields rest))
  | (.other _,_) :: _ => .error (.typeError "keys must be str, int, float, bool or None")
end

/-- The order of the keys of an object: shorter keys first. -/
def keyBefore (a b : String) : Prop :=
  a.utf8ByteSize < b.utf8ByteSize ∨ a.utf8ByteSize = b.utf8ByteSize ∧ a ≤ b

instance (a b : String) : Decidable (keyBefore a b) := inferInstanceAs (Decidable (_ ∨ _))

mutual
/-- The `jsonb` value of a text whose objects have distinct keys. -/
def Json.toJsonb : Json JsonNumber → Json JsonNumeric
  | .null => .null
  | .bool b => .bool b
  | .string s => .string s
  | .number t => .number (.ofToken t)
  | .array items => .array (itemsToJsonb items)
  | .object fields => .object ((fieldsToJsonb fields).insertionSort (fun a b => keyBefore a.1 b.1))
def itemsToJsonb : List (Json JsonNumber) → List (Json JsonNumeric)
  | [] => []
  | j :: js => j.toJsonb :: itemsToJsonb js
def fieldsToJsonb : List (String × Json JsonNumber) → List (String × Json JsonNumeric)
  | [] => []
  | (key,j) :: rest => (key,j.toJsonb) :: fieldsToJsonb rest
end

mutual
/-- `json.loads` of the text a `jsonb` value is printed as. -/
def Json.loads : Json JsonNumeric → PyValue
  | .null => .none
  | .bool b => .bool b
  | .string s => .str (.ofText s)
  | .number n => n.token.value
  | .array items => .sequence .list (loadsItems items)
  | .object fields => .mapping (loadsFields fields)
def loadsItems : List (Json JsonNumeric) → List PyValue
  | [] => []
  | j :: js => j.loads :: loadsItems js
def loadsFields : List (String × Json JsonNumeric) → List (PyKey × PyValue)
  | [] => []
  | (key,j) :: rest => (.ofText key,j.loads) :: loadsFields rest
end

/-- A node whose strings `jsonb` can store. -/
def NulFree : PyValue → Prop
  | .str s => hasNul s.text = false
  | .mapping items => ∀ item ∈ items, hasNul item.1.text = false
  | _ => True

instance : DecidablePred NulFree
  | .str s => inferInstanceAs (Decidable (hasNul s.text = false))
  | .mapping items => inferInstanceAs (Decidable (∀ item ∈ items, hasNul item.1.text = false))
  | .none | .bool _ | .int _ | .float _ _ | .sequence _ _ | .object => isTrue trivial

/-! ## What comes back -/

/-- The keys are exact strings, as in everything that is read. -/
def sortItems (items : PyItems) : PyItems :=
  items.insertionSort (fun a b => keyBefore a.1.text b.1.text)

mutual
/-- The value a detached value comes back as. -/
def PyValue.reloaded : PyValue → PyValue
  | .str s => .str (.ofText s.text)
  | .int n => .int ⟨n.value,true⟩
  | .float (.finite x) _ => x.reloaded
  | .sequence _ items => .sequence .list (itemsReloaded items)
  | .mapping items => .mapping (sortItems (fieldsReloaded items))
  | v => v
def itemsReloaded : List PyValue → List PyValue
  | [] => []
  | v :: vs => v.reloaded :: itemsReloaded vs
def fieldsReloaded : List (PyKey × PyValue) → List (PyKey × PyValue)
  | [] => []
  | (key,v) :: rest => (.ofText key.text,v.reloaded) :: fieldsReloaded rest
end

theorem itemsReloaded_eq_map (items : List PyValue) :
    itemsReloaded items = items.map PyValue.reloaded := by
  induction items with
  | nil => rfl
  | cons v vs ih => rw [itemsReloaded, ih, List.map_cons]

theorem fieldsReloaded_eq_map (items : PyItems) :
    fieldsReloaded items = items.map (fun item => (.ofText item.1.text,item.2.reloaded)) := by
  induction items with
  | nil => rfl
  | cons item rest ih => rw [fieldsReloaded, ih, List.map_cons]

@[simp] theorem PyValue.reloaded_sequence (type : SequenceType) (items : List PyValue) :
    (PyValue.sequence type items).reloaded = .sequence .list (items.map PyValue.reloaded) := by
  rw [reloaded, itemsReloaded_eq_map]

@[simp] theorem PyValue.reloaded_mapping (items : PyItems) :
    (PyValue.mapping items).reloaded = .mapping (sortItems (fieldsReloaded items)) := by
  rw [reloaded]

theorem mem_sortItems {items : PyItems} {item : PyKey × PyValue} :
    item ∈ sortItems items ↔ item ∈ items := List.mem_insertionSort _

theorem forall_mem_reloaded {items : PyItems} {P : PyKey × PyValue → Prop} :
    (∀ item ∈ sortItems (fieldsReloaded items), P item) ↔
      ∀ item ∈ items, P (.ofText item.1.text,item.2.reloaded) := by
  simp only [mem_sortItems, fieldsReloaded_eq_map, List.forall_mem_map]

theorem dumpsItems_loads {items : List PyValue}
    (h : ∀ v ∈ items, ∃ j, dumps v = .ok j ∧ j.toJsonb.loads = v.reloaded) :
    ∃ js, dumpsItems items = .ok js ∧ loadsItems (itemsToJsonb js) = items.map PyValue.reloaded := by
  induction items with
  | nil => exact ⟨[],rfl,rfl⟩
  | cons v vs ih =>
    obtain ⟨⟨j,hj,hload⟩,hvs⟩ := List.forall_mem_cons.mp h
    obtain ⟨js,hjs,hloads⟩ := ih hvs
    exact ⟨j :: js,by rw [dumpsItems, hj, hjs]; rfl,
      by rw [itemsToJsonb, loadsItems, hload, hloads, List.map_cons]⟩

theorem dumpsFields_loads {items : PyItems} (hk : ∀ item ∈ items, JsonKey item.1)
    (h : ∀ item ∈ items, ∃ j, dumps item.2 = .ok j ∧ j.toJsonb.loads = item.2.reloaded) :
    ∃ fields, dumpsFields items = .ok fields ∧
      loadsFields (fieldsToJsonb fields) = fieldsReloaded items := by
  induction items with
  | nil => exact ⟨[],rfl,rfl⟩
  | cons item rest ih =>
    obtain ⟨⟨j,hj,hload⟩,hrest⟩ := List.forall_mem_cons.mp h
    obtain ⟨hkey,hkeys⟩ := List.forall_mem_cons.mp hk
    obtain ⟨fields,hfields,hloads⟩ := ih hkeys hrest
    obtain ⟨key,v⟩ := item
    cases key with
    | other n => exact hkey.elim
    | str s =>
      exact ⟨(s.text,j) :: fields,by rw [dumpsFields, hj, hfields]; rfl,
        by rw [fieldsToJsonb, loadsFields, hload, hloads]; rfl⟩

theorem loadsFields_eq_map (fields : List (String × Json JsonNumeric)) :
    loadsFields fields = fields.map (fun field => (.ofText field.1,field.2.loads)) := by
  induction fields with
  | nil => rfl
  | cons field rest ih => rw [loadsFields, ih, List.map_cons]

/-- Sorting the keys and reading the values commute. -/
theorem loadsFields_sorted (fields : List (String × Json JsonNumeric)) :
    loadsFields (fields.insertionSort (fun a b => keyBefore a.1 b.1)) =
      sortItems (loadsFields fields) := by
  rw [loadsFields_eq_map, loadsFields_eq_map, sortItems]
  exact List.map_insertionSort _ _ _ _ (fun a _ b _ => Iff.rfl)

/-- A detached value is written, and comes back as its reloaded form. -/
theorem dumps_loads {v : PyValue} (hn : v.All JsonNode) :
    ∃ j, dumps v = .ok j ∧ j.toJsonb.loads = v.reloaded := by
  induction v using PyValue.induction with
  | sequence type items ih =>
    rw [all_sequence] at hn
    obtain ⟨js,hjs,hload⟩ := dumpsItems_loads (fun v hv => ih v hv (hn.2 v hv))
    refine ⟨.array js,by rw [dumps, hjs]; rfl,?_⟩
    rw [Json.toJsonb, Json.loads, hload, reloaded_sequence]
  | mapping items ih =>
    rw [all_mapping] at hn
    obtain ⟨fields,hfields,hload⟩ :=
      dumpsFields_loads hn.1 (fun item hi => ih item hi (hn.2 item hi))
    refine ⟨.object fields,by rw [dumps, hfields]; rfl,?_⟩
    rw [Json.toJsonb, Json.loads, loadsFields_sorted, hload, reloaded_mapping]
  | int n => exact ⟨_,rfl,PyInt.reloaded n⟩
  | float x exact =>
    cases x with
    | finite x => exact ⟨_,rfl,rfl⟩
    | _ => cases hn.root
  | object => exact hn.root.elim
  | _ => exact ⟨_,rfl,rfl⟩

/-! ## Properties of what comes back -/

theorem Decimal.reloaded_cases (x : Decimal) :
    (∃ n, x.reloaded = .int ⟨n,true⟩) ∨ ∃ y, x.reloaded = .float (.finite y) true := by
  by_cases h : x.Large
  · exact .inl (reloaded_large h)
  · obtain ⟨y,hy,-⟩ := reloaded_small h
    exact .inr ⟨y,hy⟩

theorem Decimal.all_reloaded {P : PyValue → Prop} (x : Decimal) :
    x.reloaded.All P ↔ P x.reloaded := by
  obtain ⟨n,hn⟩ | ⟨y,hy⟩ := x.reloaded_cases
  · rw [hn, all_int]
  · rw [hy, all_float]

theorem PyValue.all_reloaded {P Q : PyValue → Prop} (h : ∀ v, Q v → P v.reloaded) {v : PyValue}
    (hv : v.All Q) : v.reloaded.All P := by
  induction v using PyValue.induction with
  | sequence type items ih =>
    rw [all_sequence] at hv
    have hroot := h _ hv.1
    rw [reloaded_sequence] at hroot ⊢
    exact (all_sequence _ _).mpr
      ⟨hroot,List.forall_mem_map.mpr (fun v hmem => ih v hmem (hv.2 v hmem))⟩
  | mapping items ih =>
    rw [all_mapping] at hv
    have hroot := h _ hv.1
    rw [reloaded_mapping] at hroot ⊢
    exact (all_mapping _).mpr
      ⟨hroot,forall_mem_reloaded.mpr (fun item hi => ih item hi (hv.2 item hi))⟩
  | float x exact =>
    have hroot := h _ hv.root
    cases x with
    | finite x => exact x.all_reloaded.mpr hroot
    | _ => simpa [PyValue.reloaded] using hroot
  | _ => simpa [PyValue.reloaded] using h _ hv.root

theorem jsonNode_reloaded {v : PyValue} (h : JsonNode v) : JsonNode v.reloaded := by
  cases v with
  | sequence type items => simp [JsonNode]
  | mapping items =>
    rw [PyValue.reloaded_mapping, JsonNode, forall_mem_reloaded]
    intro item hi
    have hkey := h item hi
    cases hk : item.1 with
    | str s => simpa [hk, JsonKey, PyKey.text, PyKey.ofText, PyStr.ofText] using hkey
    | other n => simp [hk, JsonKey] at hkey
  | float x exact =>
    cases x with
    | finite x =>
      obtain ⟨n,hn⟩ | ⟨y,hy⟩ := x.reloaded_cases
      · simp [PyValue.reloaded, hn, JsonNode]
      · simp [PyValue.reloaded, hy, JsonNode, PyFloat.isFinite]
    | _ => cases h
  | object => exact h.elim
  | _ => trivial

theorem JsonKey.identity_eq {key : PyKey} (h : JsonKey key) : key.identity = .inl key.text := by
  cases key with
  | str s => rfl
  | other n => exact h.elim

theorem distinctKeys_reloaded {v : PyValue} (hd : v.DistinctKeys) (hn : JsonNode v) :
    v.reloaded.DistinctKeys := by
  cases v with
  | mapping items =>
    rw [reloaded_mapping, DistinctKeys]
    have hperm := (List.perm_insertionSort (fun a b => keyBefore a.1.text b.1.text)
      (fieldsReloaded items)).map (fun item : PyKey × PyValue => item.1.identity)
    refine hperm.nodup_iff.mpr ?_
    rw [fieldsReloaded_eq_map, List.map_map]
    have hsame : items.map (fun item => item.1.identity) = items.map
        ((fun item : PyKey × PyValue => item.1.identity) ∘
          fun item => (PyKey.ofText item.1.text,item.2.reloaded)) :=
      List.map_congr_left (fun item hi => (hn item hi).identity_eq)
    exact hsame ▸ hd
  | float x exact =>
    cases x with
    | finite x =>
      obtain ⟨n,hn⟩ | ⟨y,hy⟩ := x.reloaded_cases
      · simp [PyValue.reloaded, hn, DistinctKeys]
      · simp [PyValue.reloaded, hy, DistinctKeys]
    | _ => trivial
  | _ => trivial

/-- The node is not a float of at least 10^16. -/
def SmallFloat : PyValue → Prop
  | .float (.finite x) _ => ¬x.Large
  | _ => True

instance : DecidablePred SmallFloat
  | .float (.finite x) _ => inferInstanceAs (Decidable (¬x.Large))
  | .float (.infinite _) _ | .float .nan _ => isTrue trivial
  | .none | .bool _ | .str _ | .int _ | .sequence _ _ | .mapping _ | .object => isTrue trivial

theorem portable_reloaded {v : PyValue} (hp : Portable v) (hs : SmallFloat v) :
    Portable v.reloaded := by
  cases v with
  | float x exact =>
    cases x with
    | finite x =>
      obtain ⟨y,hy,-⟩ := Decimal.reloaded_small hs
      simp [PyValue.reloaded, hy, Portable]
    | _ => exact hp
  | int n => exact ⟨rfl,hp.2⟩
  | object => exact hp.elim
  | _ => trivial

theorem PyValue.within_reloaded {limit depth : ℕ} {v : PyValue} (h : v.Within limit depth) :
    v.reloaded.Within limit depth := by
  induction v using PyValue.induction generalizing depth with
  | sequence type items ih =>
    rw [within_sequence] at h
    rw [reloaded_sequence, within_sequence]
    exact ⟨h.1,List.forall_mem_map.mpr (fun v hv => ih v hv (h.2 v hv))⟩
  | mapping items ih =>
    rw [within_mapping] at h
    rw [reloaded_mapping, within_mapping]
    exact ⟨h.1,forall_mem_reloaded.mpr (fun item hi => ih item hi (h.2 item hi))⟩
  | float x exact =>
    cases x with
    | finite x =>
      obtain ⟨n,hn⟩ | ⟨y,hy⟩ := x.reloaded_cases
      · simpa [PyValue.reloaded, hn, Within] using h.le
      · simpa [PyValue.reloaded, hy, Within] using h.le
    | _ => exact h
  | _ => exact h

/-- A detached value comes back equal just if it has no large float. -/
theorem same_reloaded_iff {v : PyValue} (hd : v.All DistinctKeys) (hn : v.All JsonNode)
    (hp : v.All Portable) (hl : OnlyLists v) :
    v.reloaded.same v = true ↔ v.All SmallFloat := by
  unfold OnlyLists at hl
  induction v using PyValue.induction with
  | sequence type items ih =>
    rw [all_sequence] at hd hn hp hl
    obtain rfl := hl.1 type items rfl
    simp only [reloaded_sequence, same, beq_self_eq_true, Bool.true_and, sameItems_map_iff,
      all_sequence, SmallFloat, true_and]
    exact forall₂_congr
      (fun v hv => ih v hv (hd.2 v hv) (hn.2 v hv) (hp.2 v hv) (hl.2 v hv))
  | mapping items ih =>
    rw [all_mapping] at hd hn hp hl
    have hlength : (sortItems (fieldsReloaded items)).length = items.length := by
      rw [sortItems, List.length_insertionSort, fieldsReloaded_eq_map, List.length_map]
    simp only [reloaded_mapping, same, hlength, beq_self_eq_true, Bool.true_and, sameFields_iff,
      forall_mem_reloaded, all_mapping, SmallFloat, true_and]
    refine forall₂_congr (fun item hi => ?_)
    rw [PyKey.identity_ofText, ← (hn.1 item hi).identity_eq, PyItems.get_of_mem hd.1 hi]
    simp [ih item hi (hd.2 item hi) (hn.2 item hi) (hp.2 item hi) (hl.2 item hi)]
  | str s =>
    obtain ⟨text,exact⟩ := s
    obtain rfl : exact = true := hp.root
    simp [PyValue.reloaded, PyStr.ofText, SmallFloat]
  | int n =>
    obtain ⟨m,exact⟩ := n
    obtain ⟨rfl,-⟩ := hp.root
    simp [PyValue.reloaded, SmallFloat]
  | float x exact =>
    obtain rfl : exact = true := hp.root
    cases x with
    | finite x =>
      by_cases h : x.Large
      · obtain ⟨n,hr⟩ := Decimal.reloaded_large h
        simp [PyValue.reloaded, hr, same, SmallFloat, h]
      · obtain ⟨y,hr,heq⟩ := Decimal.reloaded_small h
        simp [PyValue.reloaded, hr, same, heq, SmallFloat, h]
    | _ => cases hn.root
  | object => exact hn.root.elim
  | _ => simp [PyValue.reloaded, SmallFloat]

end StreamingCompass.Serialization
