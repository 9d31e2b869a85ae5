import Mathlib.Data.List.Perm.Lattice
import StreamingCompass.Serialization.RoundTrip

/-! # Encoding a decoded payload

An accepted payload is the one its receipt is encoded as, just if its UUIDs are in canonical
spelling and its nested JSON holds lists where it holds sequences: `UUID(text)` reads other
spellings too, and tuples are accepted beside lists.
-/
namespace StreamingCompass.Serialization

/-- The item under a key is equal to a value. -/
def HasSame (items : PyItems) (key : String) (v : PyValue) : Prop :=
  ∃ w, items.get (.inl key) = some w ∧ v.same w = true

theorem hasSame_of_get {items : PyItems} {key : String} {v w : PyValue}
    (h : items.get (.inl key) = some w) : HasSame items key v ↔ v.same w = true := by
  simp [HasSame, h]

theorem exactKeys_identity {fieldName : String} {items : PyItems} {keys : List String}
    (h : exactKeys fieldName items = .ok keys) :
    items.map (fun item => item.1.identity) = keys.map .inl := by
  induction items generalizing keys with
  | nil =>
    cases h
    rfl
  | cons item rest ih =>
    obtain ⟨key,v⟩ := item
    unfold exactKeys at h
    split at h
    · cases ‹_ = []›
    · rename_i heq
      cases heq
      obtain ⟨tail,htail,h⟩ := bind_eq_ok.mp h
      cases h
      rw [List.map_cons, ih htail, List.map_cons]
      rfl
    · cases h

/-- An object with exactly the given keys has as many items. -/
theorem length_of_exactKeys {items : PyItems} {expectedKeys : List String} {fieldName : String}
    (h : requireExactKeys items expectedKeys fieldName = .ok ()) (hn : expectedKeys.Nodup)
    (hd : (items.map (fun item => item.1.identity)).Nodup) : items.length = expectedKeys.length := by
  obtain ⟨keys,hkeys,hmem⟩ := requireExactKeys_eq_ok.mp h
  have hidentity := exactKeys_identity hkeys
  rw [hidentity] at hd
  have hperm : keys.Perm expectedKeys := (List.perm_ext_iff_of_nodup hd.of_map hn).mpr hmem
  rw [← hperm.length_eq, ← List.length_map (f := fun item : PyKey × PyValue => item.1.identity),
    hidentity, List.length_map]

/-- A written object is the read one if every field is. -/
theorem same_dict_iff {fields : List (String × PyValue)} {items : PyItems}
    {expectedKeys : List String} {fieldName : String}
    (h : requireExactKeys items expectedKeys fieldName = .ok ()) (hn : expectedKeys.Nodup)
    (hf : fields.map Prod.fst = expectedKeys)
    (hd : (PyValue.mapping items).All PyValue.DistinctKeys) :
    (PyValue.mapping (dict fields)).same (.mapping items) = true ↔
      ∀ field ∈ fields, HasSame items field.1 field.2 := by
  have hlength := length_of_exactKeys h hn hd.root
  rw [← hf, List.length_map] at hlength
  simp only [PyValue.same, Bool.and_eq_true, beq_iff_eq, dict, List.length_map, hlength, true_and,
    sameFields_iff, List.forall_mem_map, PyKey.identity_ofText, HasSame]

/-! ## Leaves -/

section Leaves
variable {body : PyItems} {key fieldName : String}

theorem hasSame_enum {α : Type} [PyEnum α] {a : α}
    (h : Reads body key (deserializeEnum · fieldName) a) : HasSame body key (serializeEnum a) := by
  obtain ⟨v,hget,hv⟩ := h
  obtain rfl := deserializeEnum_eq_ok.mp hv
  exact ⟨_,hget,by simp [serializeEnum]⟩

theorem hasSame_bool {b : Bool} (h : Reads body key (requireBool · fieldName) b) :
    HasSame body key (.bool b) := by
  obtain ⟨v,hget,hv⟩ := h
  obtain rfl := requireBool_eq_ok.mp hv
  exact ⟨_,hget,by simp⟩

theorem hasSame_string {s : PyStr} (h : Reads body key (requireString · fieldName) s) :
    HasSame body key (serializeString s) := by
  obtain ⟨v,hget,hv⟩ := h
  obtain ⟨rfl,-⟩ := requireString_eq_ok.mp hv
  exact ⟨_,hget,by simp [serializeString]⟩

theorem deserializeOptional_eq_ok {α : Type} {decode : PyValue → String → Except PyException α}
    {v : PyValue} {a : Option α} (h : deserializeOptional decode v fieldName = .ok a) :
    v = .none ∧ a = none ∨ ∃ b, a = some b ∧ decode v fieldName = .ok b := by
  unfold deserializeOptional at h
  split at h
  · cases h
    exact .inl ⟨rfl,rfl⟩
  · obtain ⟨b,hb,h⟩ := bind_eq_ok.mp h
    cases h
    exact .inr ⟨b,rfl,hb⟩

/-- An optional item is written as it was read if its value is. -/
theorem hasSame_optional {α : Type} {decode : PyValue → String → Except PyException α}
    {encode : α → PyValue} {a : Option α}
    (h : Reads body key (deserializeOptional decode · fieldName) a)
    (hsame : ∀ b, Reads body key (decode · fieldName) b → HasSame body key (encode b)) :
    HasSame body key (serializeOptional encode a) := by
  obtain ⟨v,hget,hv⟩ := h
  rcases deserializeOptional_eq_ok hv with ⟨rfl,rfl⟩ | ⟨b,rfl,hb⟩
  · exact ⟨_,hget,by simp [serializeOptional]⟩
  · exact hsame b ⟨v,hget,hb⟩

theorem hasSame_optionalInt {n : Option PyInt}
    (h : Reads body key (deserializeOptionalInt64 · fieldName) n) :
    HasSame body key (optionalInt n) ∧ PortableInt n := by
  constructor
  · refine hasSame_optional h (fun m hm => ?_)
    obtain ⟨v,hget,hv⟩ := hm
    obtain ⟨rfl,-⟩ := requireInt64_eq_ok.mp hv
    exact ⟨_,hget,by simp⟩
  · rintro m rfl
    obtain ⟨v,-,hv⟩ := h
    obtain ⟨_,hm,hv⟩ | ⟨b,⟨⟩,hb⟩ := deserializeOptional_eq_ok hv
    exact (requireInt64_eq_ok.mp hb).2

/-- A text that is the canonical spelling of a UUID, where it is one. -/
def CanonicalUuid (v : PyValue) : Prop := ∀ s, v = .str s → ∃ u : Uuid, s.text = u.str

theorem hasSame_uuid_iff {u : Uuid} (h : Reads body key (deserializeUuid · fieldName) u) :
    HasSame body key (serializeUuid u) ↔ ∀ v, body.get (.inl key) = some v → CanonicalUuid v := by
  obtain ⟨v,hget,hv⟩ := h
  obtain ⟨text,rfl,hparse⟩ := deserializeUuid_eq_ok.mp hv
  simp only [hasSame_of_get hget, hget, Option.some.injEq, forall_eq', serializeUuid, PyStr.ofText,
    PyValue.same_str, beq_iff_eq, PyStr.mk.injEq, and_true, CanonicalUuid, PyValue.str.injEq]
  constructor
  · exact fun htext => ⟨u,htext.symm⟩
  · rintro ⟨w,rfl⟩
    rw [Uuid.parse_str] at hparse
    rw [Option.some.inj hparse]

theorem hasSame_optionalUuid_iff {u : Option Uuid}
    (h : Reads body key (deserializeOptionalUuid · fieldName) u) :
    HasSame body key (serializeOptional serializeUuid u) ↔
      ∀ v, body.get (.inl key) = some v → CanonicalUuid v := by
  obtain ⟨v,hget,hv⟩ := h
  rcases deserializeOptional_eq_ok hv with ⟨rfl,rfl⟩ | ⟨b,rfl,hb⟩
  · simp [hasSame_of_get hget, hget, serializeOptional, CanonicalUuid]
  · exact hasSame_uuid_iff ⟨v,hget,hb⟩

theorem hasSame_json_iff {o : JsonObject} {path : String}
    (h : Reads body key (decodeJson · path fieldName) o)
    (hd : (PyValue.mapping body).All PyValue.DistinctKeys) :
    (HasSame body key (.mapping (fieldsWithSequences .list o.items)) ↔
      ∀ v, body.get (.inl key) = some v → OnlyLists v) ∧ Detachable o.items := by
  obtain ⟨v,hget,hv⟩ := h
  obtain ⟨items,rfl,hdetach,ho⟩ := decodeJson_eq_ok.mp hv
  obtain ⟨k,hmem,-⟩ := PyItems.mem_of_get hget
  have hdistinct : (PyValue.mapping items).All PyValue.DistinctKeys := ((PyValue.all_mapping body).mp hd).2 _ hmem
  have hcomparable : (PyValue.mapping items).All PyValue.Comparable :=
    PyValue.All.mono (fun _ => JsonNode.comparable) hdetach.safe.nodes
  have hsame := PyValue.same_withSequences_iff .list hdistinct hcomparable
  rw [PyValue.withSequences_eq_self_iff, PyValue.withSequences] at hsame
  refine ⟨?_,by rwa [ho, detachable_withSequences]⟩
  rw [hasSame_of_get hget, ho, fieldsWithSequences_fieldsWithSequences, hsame]
  simp [hget, OnlyLists]

end Leaves

/-! ## The objects of a payload -/

section Objects
variable {nested : PyItems} {fieldName : String}

theorem same_subject {s : DecisionReceiptSubject}
    (hk : requireExactKeys nested SUBJECT_KEYS fieldName = .ok ())
    (hd : (PyValue.mapping nested).All PyValue.DistinctKeys)
    (h : deserializeSubject nested = .ok s) :
    (PyValue.mapping (serializeSubject s)).same (.mapping nested) = true := by
  obtain ⟨htype,hid⟩ := deserializeSubject_eq_ok.mp h
  refine (same_dict_iff hk (by decide) rfl hd).mpr ?_
  simp only [List.forall_mem_cons, List.not_mem_nil, false_implies, implies_true, and_true]
  exact ⟨hasSame_enum htype,hasSame_optional hid (fun _ => hasSame_string)⟩

theorem same_actor {s : DecisionReceiptActor}
    (hk : requireExactKeys nested ACTOR_KEYS fieldName = .ok ())
    (hd : (PyValue.mapping nested).All PyValue.DistinctKeys)
    (h : deserializeActor nested = .ok s) :
    (PyValue.mapping (serializeActor s)).same (.mapping nested) = true := by
  obtain ⟨hid,hrole,hruntime⟩ := deserializeActor_eq_ok.mp h
  refine (same_dict_iff hk (by decide) rfl hd).mpr ?_
  simp only [List.forall_mem_cons, List.not_mem_nil, false_implies, implies_true, and_true]
  exact ⟨hasSame_optional hid (fun _ => hasSame_string),
    hasSame_optional hrole (fun _ => hasSame_string),
    hasSame_optional hruntime (fun _ => hasSame_string)⟩

theorem same_flags {s : DecisionReceiptFlags}
    (hk : requireExactKeys nested FLAGS_KEYS fieldName = .ok ())
    (hd : (PyValue.mapping nested).All PyValue.DistinctKeys)
    (h : deserializeFlags nested = .ok s) :
    (PyValue.mapping (serializeFlags s)).same (.mapping nested) = true := by
  obtain ⟨hfallback,hrebuild,hreview,hretry⟩ := deserializeFlags_eq_ok.mp h
  refine (same_dict_iff hk (by decide) rfl hd).mpr ?_
  simp only [List.forall_mem_cons, List.not_mem_nil, false_implies, implies_true, and_true]
  exact ⟨hasSame_enum hfallback,hasSame_enum hrebuild,hasSame_enum hreview,hasSame_enum hretry⟩

theorem same_costSummary {s : DecisionReceiptCostSummary}
    (hk : requireExactKeys nested COST_SUMMARY_KEYS fieldName = .ok ())
    (hd : (PyValue.mapping nested).All PyValue.DistinctKeys)
    (h : deserializeCostSummary nested = .ok s) :
    (PyValue.mapping (costSummaryFields s)).same (.mapping nested) = true ∧ PortableCosts s := by
  obtain ⟨h1,h2,h3,h4,h5⟩ := deserializeCostSummary_eq_ok.mp h
  obtain ⟨s1,p1⟩ := hasSame_optionalInt h1
  obtain ⟨s2,p2⟩ := hasSame_optionalInt h2
  obtain ⟨s3,p3⟩ := hasSame_optionalInt h3
  obtain ⟨s4,p4⟩ := hasSame_optionalInt h4
  obtain ⟨s5,p5⟩ := hasSame_optionalInt h5
  refine ⟨(same_dict_iff hk (by decide) rfl hd).mpr ?_,p1,p2,p3,p4,p5⟩
  simp only [List.forall_mem_cons, List.not_mem_nil, false_implies, implies_true, and_true]
  exact ⟨s1,s2,s3,s4,s5⟩

/-- The item under a key is spelled canonically, if it is a UUID. -/
def CanonicalAt (items : PyItems) (key : String) : Prop :=
  ∀ v, items.get (.inl key) = some v → CanonicalUuid v

theorem same_correlation_iff {s : DecisionReceiptCorrelation}
    (hk : requireExactKeys nested CORRELATION_KEYS fieldName = .ok ())
    (hd : (PyValue.mapping nested).All PyValue.DistinctKeys)
    (h : deserializeCorrelation nested = .ok s) :
    ((PyValue.mapping (correlationFields s)).same (.mapping nested) = true ↔
      CanonicalAt nested "candidate_event_id" ∧ CanonicalAt nested "accepted_event_id" ∧
        CanonicalAt nested "snapshot_id") ∧ PortableInt s.sourceGlobalPosition := by
  obtain ⟨horder,hrequest,hcandidate,haccepted,hsnapshot,hposition,hsource⟩ :=
    deserializeCorrelation_eq_ok.mp h
  obtain ⟨hposition,hportable⟩ := hasSame_optionalInt hposition
  have horder := hasSame_optional horder (fun _ => hasSame_string)
  have hrequest := hasSame_optional hrequest (fun _ => hasSame_string)
  refine ⟨(same_dict_iff hk (by decide) rfl hd).trans ?_,hportable⟩
  simp only [List.forall_mem_cons, List.not_mem_nil, false_implies, implies_true, and_true, horder,
    hrequest, hposition, hasSame_enum hsource, hasSame_optionalUuid_iff hcandidate,
    hasSame_optionalUuid_iff haccepted, hasSame_optionalUuid_iff hsnapshot, true_and, CanonicalAt]

theorem hasSame_admissionEvidence {body : PyItems} {key : String}
    {d : Option EventAdmissionDisposition} (hd : (PyValue.mapping body).All PyValue.DistinctKeys)
    (h : Reads body key (deserializeOptional deserializeAdmissionEvidence · fieldName) d) :
    HasSame body key (serializeOptional serializeAdmissionEvidence d) := by
  refine hasSame_optional h (fun disposition hread => ?_)
  obtain ⟨v,hget,hv⟩ := hread
  obtain ⟨items,rfl,hkeys,hdisposition⟩ := deserializeAdmissionEvidence_eq_ok.mp hv
  obtain ⟨k,hmem,-⟩ := PyItems.mem_of_get hget
  refine ⟨_,hget,(same_dict_iff hkeys (by decide) rfl
    (((PyValue.all_mapping body).mp hd).2 _ hmem)).mpr ?_⟩
  simp only [List.forall_mem_cons, List.not_mem_nil, false_implies, implies_true, and_true]
  exact hasSame_enum hdisposition

end Objects

/-! ## The whole payload -/

def valueAt : List String → PyValue → Option PyValue
  | [], v => some v
  | key :: path, .mapping items => (PyItems.get items (.inl key)).bind (valueAt path)
  | _ :: _, _ => none

@[simp] theorem valueAt_key (key : String) (items : PyItems) :
    valueAt [key] (.mapping items) = items.get (.inl key) := by
  rw [valueAt]
  cases items.get (.inl key) <;> rfl

theorem valueAt_cons {key : String} {path : List String} {items : PyItems} {v : PyValue}
    (h : items.get (.inl key) = some v) : valueAt (key :: path) (.mapping items) = valueAt path v := by
  rw [valueAt, h, Option.bind_some]

def UUID_PATHS : List (List String) :=
  [["receipt","receipt_id"],["receipt","outcome_id"],["receipt","correlation","candidate_event_id"],
   ["receipt","correlation","accepted_event_id"],["receipt","correlation","snapshot_id"]]

def JSON_PATHS : List (List String) := [["receipt","evidence_summary"],["receipt","metadata"]]

/-- UUIDs are in canonical spelling, and the sequences of evidence and metadata are lists. -/
structure CanonicalPayload (payload : PyValue) : Prop where
  uuids : ∀ path ∈ UUID_PATHS, ∀ v, valueAt path payload = some v → CanonicalUuid v
  lists : ∀ path ∈ JSON_PATHS, ∀ v, valueAt path payload = some v → OnlyLists v

theorem all_of_get {items : PyItems} {P : PyValue → Prop} (h : (PyValue.mapping items).All P)
    {key : String ⊕ ℕ} {v : PyValue} (hv : items.get key = some v) : v.All P := by
  obtain ⟨k,hmem,-⟩ := PyItems.mem_of_get hv
  exact ((PyValue.all_mapping items).mp h).2 _ hmem

theorem canonicalPayload_iff {outer body correlation : PyItems}
    (hbody : outer.get (.inl "receipt") = some (.mapping body))
    (hcorrelation : body.get (.inl "correlation") = some (.mapping correlation)) :
    CanonicalPayload (.mapping outer) ↔
      CanonicalAt body "receipt_id" ∧ CanonicalAt body "outcome_id" ∧
      (CanonicalAt correlation "candidate_event_id" ∧ CanonicalAt correlation "accepted_event_id" ∧
        CanonicalAt correlation "snapshot_id") ∧
      (∀ v, body.get (.inl "evidence_summary") = some v → OnlyLists v) ∧
      ∀ v, body.get (.inl "metadata") = some v → OnlyLists v := by
  have hpath (path : List String) : valueAt ("receipt" :: path) (.mapping outer) =
      valueAt path (.mapping body) := valueAt_cons hbody
  have hnested (key : String) : valueAt ["receipt","correlation",key] (.mapping outer) =
      correlation.get (.inl key) := by
    rw [hpath, valueAt_cons hcorrelation, valueAt_key]
  constructor
  · rintro ⟨huuids,hlists⟩
    simp only [UUID_PATHS, JSON_PATHS, List.forall_mem_cons, hnested, hpath, valueAt_key] at huuids hlists
    obtain ⟨hreceipt,houtcome,hcandidate,haccepted,hsnapshot,-⟩ := huuids
    exact ⟨hreceipt,houtcome,⟨hcandidate,haccepted,hsnapshot⟩,hlists.1,hlists.2.1⟩
  · rintro ⟨hreceipt,houtcome,⟨hcandidate,haccepted,hsnapshot⟩,hevidence,hmetadata⟩
    constructor
    · simp only [UUID_PATHS, List.forall_mem_cons, hnested, hpath, valueAt_key]
      exact ⟨hreceipt,houtcome,hcandidate,haccepted,hsnapshot,nofun⟩
    · simp only [JSON_PATHS, List.forall_mem_cons, hpath, valueAt_key]
      exact ⟨hevidence,hmetadata,nofun⟩

/-- The body that is written for a decoded receipt, and that it can be written. -/
theorem same_body_iff {body correlation : PyItems} {r : DecisionReceipt}
    (hd : (PyValue.mapping body).All PyValue.DistinctKeys) (h : DecodesBody body r)
    (hcorrelation : body.get (.inl "correlation") = some (.mapping correlation)) :
    ((PyValue.mapping r.body).same (.mapping body) = true ↔
      CanonicalAt body "receipt_id" ∧ CanonicalAt body "outcome_id" ∧
      (CanonicalAt correlation "candidate_event_id" ∧ CanonicalAt correlation "accepted_event_id" ∧
        CanonicalAt correlation "snapshot_id") ∧
      (∀ v, body.get (.inl "evidence_summary") = some v → OnlyLists v) ∧
      ∀ v, body.get (.inl "metadata") = some v → OnlyLists v) ∧ PortableReceipt r := by
  obtain ⟨_,hsubject,hsubjectKeys,hs⟩ := h.subject
  obtain ⟨_,hget,hcorrelationKeys,hc⟩ := h.correlation
  obtain ⟨_,hactor,hactorKeys,ha⟩ := h.actor
  obtain ⟨_,hcostSummary,hcostSummaryKeys,hcost⟩ := h.costSummary
  obtain ⟨_,hflags,hflagsKeys,hf⟩ := h.flags
  obtain rfl := PyValue.mapping.inj (Option.some.inj (hget.symm.trans hcorrelation))
  obtain ⟨hsameCorrelation,hposition⟩ :=
    same_correlation_iff hcorrelationKeys (all_of_get hd hcorrelation) hc
  obtain ⟨hsameCosts,hcosts⟩ := same_costSummary hcostSummaryKeys (all_of_get hd hcostSummary) hcost
  obtain ⟨hevidence,hdetachEvidence⟩ := hasSame_json_iff h.evidenceSummary hd
  obtain ⟨hmetadata,hdetachMetadata⟩ := hasSame_json_iff h.metadata hd
  refine ⟨(same_dict_iff h.keys (by decide) rfl hd).trans ?_,
    hposition,hcosts,hdetachEvidence,hdetachMetadata⟩
  simp only [List.forall_mem_cons, List.not_mem_nil, false_implies, implies_true, and_true,
    hasSame_uuid_iff h.receiptId, hasSame_uuid_iff h.outcomeId, hasSame_bool h.ok,
    hasSame_enum h.boundary, hasSame_enum h.category, hasSame_enum h.semanticCode,
    hasSame_enum h.severity, hasSame_enum h.riskLevel, hasSame_enum h.reversibility,
    hasSame_string h.reason, hasSame_enum h.evidenceSource, hasSame_of_get hsubject,
    same_subject hsubjectKeys (all_of_get hd hsubject) hs, hasSame_of_get hget, hsameCorrelation,
    hasSame_of_get hactor, same_actor hactorKeys (all_of_get hd hactor) ha,
    hasSame_of_get hcostSummary, hsameCosts, hasSame_of_get hflags,
    same_flags hflagsKeys (all_of_get hd hflags) hf,
    hasSame_admissionEvidence hd h.admissionEvidence, hevidence, hmetadata, true_and, CanonicalAt]

/-- An accepted payload always has a receipt that can be encoded; the encoding is the payload
again just if the payload is canonical. -/
theorem encode_undoes_decode {payload : PyValue} {r : DecisionReceipt}
    (hd : payload.All PyValue.DistinctKeys) (h : deserializeDecisionReceipt payload = .ok r) :
    ∃ encoded, serializeDecisionReceipt r = .ok encoded ∧
      ((PyValue.mapping encoded).same payload = true ↔ CanonicalPayload payload) := by
  obtain ⟨outer,body,rfl,hkeys,hversion,hbody,hdecodes⟩ := deserializeDecisionReceipt_eq_ok.mp h
  obtain ⟨correlation,hcorrelation,-,-⟩ := hdecodes.correlation
  obtain ⟨hsame,hportable⟩ := same_body_iff (all_of_get hd hbody) hdecodes hcorrelation
  refine ⟨r.payload,serializeDecisionReceipt_eq_ok.mpr ⟨hportable,rfl⟩,?_⟩
  rw [canonicalPayload_iff hbody hcorrelation, ← hsame]
  refine (same_dict_iff hkeys (by decide) rfl hd).trans ?_
  simp [hasSame_of_get hversion, hasSame_of_get hbody]

def payment : DecisionReceipt := paidOrderReceipt (.ofText "writer") (by decide)

/-- The payload of the payment, with its receipt id spelled as given. -/
def paymentPayload (receiptId : String) : PyValue :=
  .mapping (dict [
    ("receipt_serialization_version",.int ⟨DECISION_RECEIPT_SERIALIZATION_VERSION,true⟩),
    ("receipt",.mapping ((.ofText "receipt_id",.str (.ofText receiptId)) :: payment.body.tail))])

set_option maxRecDepth 8192 in
theorem encode_undoes_decode_payment : ∃ encoded, serializeDecisionReceipt payment = .ok encoded ∧
    ((PyValue.mapping encoded).same
        (paymentPayload "00000000-0000-0000-0000-000000000001") = true ↔
      CanonicalPayload (paymentPayload "00000000-0000-0000-0000-000000000001")) :=
  encode_undoes_decode (by decide +kernel) rfl

set_option maxRecDepth 8192 in
/-- Another spelling of the receipt id is accepted too, and is not what is encoded. -/
theorem urn_spelling_accepted :
    deserializeDecisionReceipt
      (paymentPayload "urn:uuid:00000000-0000-0000-0000-000000000001") = .ok payment ∧
    ∃ encoded, serializeDecisionReceipt payment = .ok encoded ∧ (PyValue.mapping encoded).same
      (paymentPayload "urn:uuid:00000000-0000-0000-0000-000000000001") = false :=
  ⟨rfl,_,rfl,by decide +kernel⟩

end StreamingCompass.Serialization
