import StreamingCompass.Serialization.PyValue

/-! # JSON-safe values

`compass/runtime/json_types.py`: what `ensure_json_object` accepts and the frozen copy it
returns. Acceptance is a bound on the depth and a predicate on every node.
-/
namespace StreamingCompass.Serialization
open PyValue

def MAX_JSON_DEPTH : ℕ := 32

def requireJsonDepth (depth : ℕ) (fieldName : String) : Except PyException Unit :=
  if depth > MAX_JSON_DEPTH then
    .error (.valueError (fieldName ++ " exceeds maximum JSON depth of " ++ toString MAX_JSON_DEPTH))
  else .ok ()

/-- `_ensure_json_key`, with the text of the key. -/
def ensureJsonKey (key : PyKey) (fieldName : String) : Except PyException String :=
  match key with
  | .other _ => .error (.typeError (fieldName ++ " keys must be strings"))
  | .str s =>
    if s.text.isEmpty then .error (.valueError (fieldName ++ " keys must be non-empty strings"))
    else .ok s.text

mutual
def ensureJsonValue (fieldName : String) (depth : ℕ) : PyValue → Except PyException PyValue
  | .none => do
    requireJsonDepth depth fieldName
    .ok .none
  | .str s => do
    requireJsonDepth depth fieldName
    .ok (.str s)
  | .bool b => do
    requireJsonDepth depth fieldName
    .ok (.bool b)
  | .int n => do
    requireJsonDepth depth fieldName
    .ok (.int n)
  | .float x exact => do
    requireJsonDepth depth fieldName
    if x.isFinite then .ok (.float x exact)
    else .error (.valueError (fieldName ++ " must be a finite JSON number"))
  | .mapping items => do
    requireJsonDepth depth fieldName
    -- `ensure_json_object` checks the same depth again
    requireJsonDepth depth fieldName
    .ok (.mapping (← ensureJsonFields fieldName (depth+1) items))
  | .sequence _ items => do
    requireJsonDepth depth fieldName
    .ok (.sequence .tuple (← ensureJsonItems fieldName 0 (depth+1) items))
  | .object => do
    requireJsonDepth depth fieldName
    .error (.typeError (fieldName ++ " must be JSON-safe"))
def ensureJsonItems (fieldName : String) (index depth : ℕ) :
    List PyValue → Except PyException (List PyValue)
  | [] => .ok []
  | v :: vs => do
    let frozen ← ensureJsonValue (fieldName ++ "[" ++ toString index ++ "]") depth v
    .ok (frozen :: (← ensureJsonItems fieldName (index+1) depth vs))
def ensureJsonFields (fieldName : String) (depth : ℕ) :
    List (PyKey × PyValue) → Except PyException (List (PyKey × PyValue))
  | [] => .ok []
  | (key,v) :: rest => do
    let text ← ensureJsonKey key fieldName
    let frozen ← ensureJsonValue (fieldName ++ "." ++ text) depth v
    .ok ((key,frozen) :: (← ensureJsonFields fieldName depth rest))
end

def ensureJsonObject (value : PyValue) (fieldName : String) : Except PyException PyItems := do
  requireJsonDepth 0 fieldName
  match value with
  | .mapping items => ensureJsonFields fieldName 1 items
  | _ => .error (.typeError (fieldName ++ " must be a mapping"))

/-! ## What is accepted -/

/-- The keys `_ensure_json_key` accepts. -/
def JsonKey : PyKey → Prop
  | .str s => s.text.isEmpty = false
  | .other _ => False

theorem JsonKey.identity {key : PyKey} (h : JsonKey key) : ∃ text, key.identity = .inl text := by
  cases key with
  | str s => exact ⟨s.text,rfl⟩
  | other n => exact h.elim

/-- A node `ensure_json_value` accepts, its depth and its items apart. -/
def JsonNode : PyValue → Prop
  | .float x _ => x.isFinite = true
  | .mapping items => ∀ item ∈ items, JsonKey item.1
  | .object => False
  | _ => True

theorem JsonNode.comparable {v : PyValue} (h : JsonNode v) : v.Comparable := by
  cases v with
  | float x exact => exact h
  | object => exact h
  | _ => trivial

@[simp] theorem all_jsonNode_withSequences (type : SequenceType) (v : PyValue) :
    (v.withSequences type).All JsonNode ↔ v.All JsonNode := by
  refine all_withSequences type (fun v => ?_) v
  cases v with
  | mapping items => simp only [withSequences_mapping, JsonNode, List.forall_mem_map]
  | sequence _ items => simp only [withSequences_sequence, JsonNode]
  | _ => exact Iff.rfl

theorem requireJsonDepth_eq_ok {depth : ℕ} {fieldName : String} {u : Unit} :
    requireJsonDepth depth fieldName = .ok u ↔ depth ≤ MAX_JSON_DEPTH := by
  unfold requireJsonDepth
  by_cases h : depth > MAX_JSON_DEPTH
  · simp [h, Nat.not_le_of_gt h]
  · simp [h, Nat.le_of_not_lt h]

theorem ensureJsonKey_eq_ok {key : PyKey} {fieldName text : String} :
    ensureJsonKey key fieldName = .ok text ↔ JsonKey key ∧ key.identity = .inl text := by
  cases key with
  | other n => simp [ensureJsonKey, JsonKey]
  | str s => cases h : s.text.isEmpty <;> simp [ensureJsonKey, JsonKey, PyKey.identity, h]

/-- The value of every item is accepted, and the copy has the frozen values. -/
theorem ensureJsonItems_eq_ok {items frozen : List PyValue} {depth : ℕ}
    (h : ∀ v ∈ items, ∀ fieldName w, ensureJsonValue fieldName depth v = .ok w ↔
      (v.Within MAX_JSON_DEPTH depth ∧ v.All JsonNode) ∧ w = v.withSequences .tuple)
    {fieldName : String} {index : ℕ} : ensureJsonItems fieldName index depth items = .ok frozen ↔
      (∀ v ∈ items, v.Within MAX_JSON_DEPTH depth ∧ v.All JsonNode) ∧
        frozen = items.map (PyValue.withSequences .tuple) := by
  induction items generalizing index frozen with
  | nil => simp [ensureJsonItems, eq_comm]
  | cons v vs ih =>
    obtain ⟨hv,hvs⟩ := List.forall_mem_cons.mp h
    simp only [ensureJsonItems, bind_eq_ok, hv, ih hvs, Except.ok.injEq, List.forall_mem_cons,
      List.map_cons]
    constructor
    · rintro ⟨_,⟨hhead,rfl⟩,_,⟨hrest,rfl⟩,rfl⟩
      exact ⟨⟨hhead,hrest⟩,rfl⟩
    · rintro ⟨⟨hhead,hrest⟩,rfl⟩
      exact ⟨_,⟨hhead,rfl⟩,_,⟨hrest,rfl⟩,rfl⟩

theorem ensureJsonFields_eq_ok {items frozen : PyItems} {depth : ℕ}
    (h : ∀ item ∈ items, ∀ fieldName w, ensureJsonValue fieldName depth item.2 = .ok w ↔
      (item.2.Within MAX_JSON_DEPTH depth ∧ item.2.All JsonNode) ∧ w = item.2.withSequences .tuple)
    {fieldName : String} : ensureJsonFields fieldName depth items = .ok frozen ↔
      (∀ item ∈ items, JsonKey item.1 ∧ item.2.Within MAX_JSON_DEPTH depth ∧ item.2.All JsonNode) ∧
        frozen = fieldsWithSequences .tuple items := by
  induction items generalizing frozen with
  | nil => simp [ensureJsonFields, fieldsWithSequences, eq_comm]
  | cons item rest ih =>
    obtain ⟨hv,hrest⟩ := List.forall_mem_cons.mp h
    simp only [ensureJsonFields, bind_eq_ok, ensureJsonKey_eq_ok, hv, ih hrest, Except.ok.injEq,
      List.forall_mem_cons, fieldsWithSequences]
    constructor
    · rintro ⟨_,⟨hkey,-⟩,_,⟨hhead,rfl⟩,_,⟨htail,rfl⟩,rfl⟩
      exact ⟨⟨⟨hkey,hhead⟩,htail⟩,rfl⟩
    · rintro ⟨⟨⟨hkey,hhead⟩,htail⟩,rfl⟩
      obtain ⟨text,ht⟩ := hkey.identity
      exact ⟨text,⟨hkey,ht⟩,_,⟨hhead,rfl⟩,_,⟨htail,rfl⟩,rfl⟩

theorem ensureJsonValue_eq_ok (v : PyValue) {fieldName : String} {depth : ℕ} {w : PyValue} :
    ensureJsonValue fieldName depth v = .ok w ↔
      (v.Within MAX_JSON_DEPTH depth ∧ v.All JsonNode) ∧ w = v.withSequences .tuple := by
  induction v using PyValue.induction generalizing fieldName depth w with
  | sequence type items ih =>
    simp only [ensureJsonValue, bind_eq_ok, requireJsonDepth_eq_ok, exists_const, Except.ok.injEq,
      ensureJsonItems_eq_ok (fun v hv fieldName w => ih v hv), within_sequence, all_sequence,
      withSequences_sequence]
    constructor
    · rintro ⟨hd,_,⟨hitems,rfl⟩,rfl⟩
      exact ⟨⟨⟨hd,fun v hv => (hitems v hv).1⟩,trivial,fun v hv => (hitems v hv).2⟩,rfl⟩
    · rintro ⟨⟨⟨hd,hw⟩,-,ha⟩,rfl⟩
      exact ⟨hd,_,⟨fun v hv => ⟨hw v hv,ha v hv⟩,rfl⟩,rfl⟩
  | mapping items ih =>
    simp only [ensureJsonValue, bind_eq_ok, requireJsonDepth_eq_ok, exists_const, Except.ok.injEq,
      ensureJsonFields_eq_ok (fun item hi fieldName w => ih item hi), within_mapping, all_mapping,
      PyValue.withSequences]
    constructor
    · rintro ⟨hd,-,_,⟨hitems,rfl⟩,rfl⟩
      exact ⟨⟨⟨hd,fun item hi => (hitems item hi).2.1⟩,fun item hi => (hitems item hi).1,
        fun item hi => (hitems item hi).2.2⟩,rfl⟩
    · rintro ⟨⟨⟨hd,hw⟩,hk,ha⟩,rfl⟩
      exact ⟨hd,hd,_,⟨fun item hi => ⟨hk item hi,hw item hi,ha item hi⟩,rfl⟩,rfl⟩
  | float x exact =>
    cases hx : x.isFinite <;> simp [ensureJsonValue, bind_eq_ok, requireJsonDepth_eq_ok, Within,
      JsonNode, PyValue.withSequences, hx, eq_comm (a := w)]
  | object => simp [ensureJsonValue, bind_eq_ok, JsonNode]
  | _ => simp [ensureJsonValue, bind_eq_ok, requireJsonDepth_eq_ok, Within, JsonNode,
      PyValue.withSequences, eq_comm (a := w)]

/-- A mapping `ensure_json_object` accepts. -/
structure JsonSafe (items : PyItems) : Prop where
  within : (PyValue.mapping items).Within MAX_JSON_DEPTH 0
  nodes : (PyValue.mapping items).All JsonNode

theorem ensureJsonObject_eq_ok {value : PyValue} {fieldName : String} {frozen : PyItems} :
    ensureJsonObject value fieldName = .ok frozen ↔ ∃ items, value = .mapping items ∧
      JsonSafe items ∧ frozen = fieldsWithSequences .tuple items := by
  have hzero : 0 ≤ MAX_JSON_DEPTH := Nat.zero_le _
  cases value with
  | mapping items =>
    simp only [ensureJsonObject, bind_eq_ok, requireJsonDepth_eq_ok, exists_const, hzero, true_and, mapping.injEq,
      exists_eq_left', ensureJsonFields_eq_ok (fun item _ _ _ => ensureJsonValue_eq_ok item.2)]
    refine and_congr_left (fun _ => ⟨fun h => ?_,fun h item hi => ?_⟩)
    · exact ⟨(within_mapping items).mpr ⟨hzero,fun item hi => (h item hi).2.1⟩,
        (all_mapping items).mpr ⟨fun item hi => (h item hi).1,fun item hi => (h item hi).2.2⟩⟩
    · have hw := (within_mapping items).mp h.within
      have ha := (all_mapping items).mp h.nodes
      exact ⟨ha.1 item hi,hw.2 item hi,ha.2 item hi⟩
  | _ => simp [ensureJsonObject, bind_eq_ok, requireJsonDepth_eq_ok]

@[simp] theorem jsonSafe_withSequences (type : SequenceType) (items : PyItems) :
    JsonSafe (fieldsWithSequences type items) ↔ JsonSafe items := by
  have hw : ((mapping items).withSequences type).Within MAX_JSON_DEPTH 0 ↔
      (mapping items).Within MAX_JSON_DEPTH 0 := within_withSequences type (.mapping items)
  have ha := all_jsonNode_withSequences type (.mapping items)
  rw [PyValue.withSequences] at hw ha
  exact ⟨fun h => ⟨hw.mp h.within,ha.mp h.nodes⟩,fun h => ⟨hw.mpr h.within,ha.mpr h.nodes⟩⟩

/-- The immutable mapping `ensure_json_object` returns: its sequences are tuples. -/
structure JsonObject where
  items : PyItems
  safe : JsonSafe items
  tuples : fieldsWithSequences .tuple items = items

@[ext] theorem JsonObject.ext {a b : JsonObject} (h : a.items = b.items) : a = b := by
  cases a
  cases b
  cases h
  rfl

theorem ensureJsonObject_frozen {value : PyValue} {fieldName : String} {frozen : PyItems}
    (h : ensureJsonObject value fieldName = .ok frozen) :
    JsonSafe frozen ∧ fieldsWithSequences .tuple frozen = frozen := by
  obtain ⟨items,-,hsafe,rfl⟩ := ensureJsonObject_eq_ok.mp h
  exact ⟨(jsonSafe_withSequences .tuple items).mpr hsafe,
    fieldsWithSequences_fieldsWithSequences .tuple .tuple items⟩

/-- A mapping that is its own frozen copy. -/
def JsonObject.ofFrozen (items : PyItems) (fieldName : String)
    (h : ensureJsonObject (.mapping items) fieldName = .ok items) : JsonObject :=
  ⟨items,(ensureJsonObject_frozen h).1,(ensureJsonObject_frozen h).2⟩

/-- `ensure_json_object` with the type of its result. -/
def frozenJsonObject (value : PyValue) (fieldName : String) : Except PyException JsonObject :=
  match h : ensureJsonObject value fieldName with
  | .error e => .error e
  | .ok frozen => .ok ⟨frozen,(ensureJsonObject_frozen h).1,(ensureJsonObject_frozen h).2⟩

theorem frozenJsonObject_eq_ok {value : PyValue} {fieldName : String} {o : JsonObject} :
    frozenJsonObject value fieldName = .ok o ↔ ensureJsonObject value fieldName = .ok o.items := by
  unfold frozenJsonObject
  split
  · rename_i e h
    simp [h]
  · rename_i frozen h
    simp [h, JsonObject.ext_iff]

end StreamingCompass.Serialization
