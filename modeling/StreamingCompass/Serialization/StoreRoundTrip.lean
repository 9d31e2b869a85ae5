import StreamingCompass.Serialization.Hydration

/-! # Receipts through the store

A receipt inserted into a fresh table is there, loads with the payload it was inserted with
and is recognised when it is inserted again, just if its texts are exact strings and its nested
JSON has no float of at least 10^16.
-/
namespace StreamingCompass.Serialization

/-! ## The payload of the reread receipt -/

theorem hasSame_cons {text key : String} {v w : PyValue} {rest : List (String × PyValue)} :
    HasSame (dict ((text,v) :: rest)) key w ↔
      if text = key then w.same v = true else HasSame (dict rest) key w := by
  simp only [HasSame, dict, List.map_cons, PyItems.get_cons, PyKey.identity_ofText, Sum.inl.injEq]
  by_cases h : text = key <;> simp [h]

theorem forall_hasSame_iff {left right : List (String × PyValue)} (hn : (right.map Prod.fst).Nodup)
    (hk : left.map Prod.fst = right.map Prod.fst) :
    (∀ field ∈ left, HasSame (dict right) field.1 field.2) ↔
      List.Forall₂ (fun f g => f.2.same g.2 = true) left right := by
  induction left generalizing right with
  | nil =>
    obtain rfl : right = [] := by simpa using hk.symm
    simp
  | cons field rest ih =>
    cases right with
    | nil => cases hk
    | cons field' rest' =>
      obtain ⟨hkey,htail⟩ := List.cons_eq_cons.mp hk
      obtain ⟨hnot,hrest⟩ := List.nodup_cons.mp hn
      obtain ⟨key,v⟩ := field
      obtain ⟨key',w⟩ := field'
      obtain rfl : key = key' := hkey
      rw [List.forall_mem_cons, List.forall₂_cons, ← ih hrest htail, hasSame_cons, if_pos rfl]
      refine and_congr_right (fun _ => forall₂_congr (fun f hf => ?_))
      have hne : key ≠ f.1 := by
        rintro rfl
        have hmem : f.1 ∈ rest.map Prod.fst := List.mem_map_of_mem hf
        exact hnot (htail ▸ hmem)
      rw [hasSame_cons, if_neg hne]

/-- Dictionary displays with the same keys are equal just if their values are. -/
theorem same_dict_dict {left right : List (String × PyValue)} (keys : List String)
    (hn : keys.Nodup) (hl : left.map Prod.fst = keys) (hr : right.map Prod.fst = keys) :
    (PyValue.mapping (dict left)).same (.mapping (dict right)) = true ↔
      List.Forall₂ (fun f g => f.2.same g.2 = true) left right := by
  have hlength : left.length = right.length := by
    simpa using congrArg List.length (hl.trans hr.symm)
  rw [← forall_hasSame_iff (hr ▸ hn) (hl.trans hr.symm)]
  simp only [PyValue.same, Bool.and_eq_true, beq_iff_eq, sameFields_iff, HasSame]
  simp only [dict, List.length_map, hlength, true_and, List.forall_mem_map, PyKey.identity_ofText]

theorem all_dict {P : PyValue → Prop} {fields : List (String × PyValue)}
    (hdict : P (.mapping (dict fields))) (h : ∀ field ∈ fields, field.2.All P) :
    (PyValue.mapping (dict fields)).All P := by
  refine (PyValue.all_mapping _).mpr ⟨hdict,fun item hi => ?_⟩
  obtain ⟨field,hf,rfl⟩ := List.mem_map.mp hi
  exact h field hf

theorem all_optional {α : Type} {P : PyValue → Prop} {encode : α → PyValue} {a : Option α}
    (hnone : P .none) (h : ∀ b, a = some b → (encode b).All P) :
    (serializeOptional encode a).All P := by
  cases a with
  | none => exact PyValue.all_none.mpr hnone
  | some b => exact h b rfl

theorem all_payload {P : PyValue → Prop} {r : DecisionReceipt} (hp : PortableReceipt r)
    (hdict : ∀ fields : List (String × PyValue), (fields.map Prod.fst).Nodup →
      P (.mapping (dict fields)))
    (hnone : P .none) (hbool : ∀ b, P (.bool b)) (hint : ∀ n, Portable (.int n) → P (.int n))
    (htext : ∀ text, P (.str (.ofText text))) (htexts : ∀ s ∈ r.texts, P (.str s))
    (he : (PyValue.mapping (fieldsWithSequences .list r.evidenceSummary.items)).All P)
    (hm : (PyValue.mapping (fieldsWithSequences .list r.metadata.items)).All P) :
    (PyValue.mapping r.payload).All P := by
  have hkeys (keys : List String) (hn : keys.Nodup) {fields : List (String × PyValue)}
      (hk : fields.map Prod.fst = keys) : P (.mapping (dict fields)) := hdict fields (hk ▸ hn)
  have henum {α : Type} [PyEnum α] (a : α) : (serializeEnum a).All P :=
    (PyValue.all_str _).mpr (htext _)
  have huuid (u : Uuid) : (serializeUuid u).All P := (PyValue.all_str _).mpr (htext _)
  have hoptionalUuid (u : Option Uuid) : (serializeOptional serializeUuid u).All P :=
    all_optional hnone (fun u _ => huuid u)
  have hoptionalInt {n : Option PyInt} (h : PortableInt n) : (optionalInt n).All P :=
    all_optional hnone (fun m hm => (PyValue.all_int m).mpr (hint m (h m hm)))
  simp only [DecisionReceipt.texts, List.forall_mem_append, List.forall_mem_singleton,
    Option.mem_toList] at htexts
  obtain ⟨⟨⟨⟨⟨⟨hreason,hsubject⟩,horder⟩,hrequest⟩,hactor⟩,hrole⟩,hruntime⟩ := htexts
  have hstring {s : Option PyStr} (h : ∀ t, s = some t → P (.str t)) :
      (serializeOptional serializeString s).All P :=
    all_optional hnone (fun t ht => (PyValue.all_str t).mpr (h t ht))
  have hadmission : (serializeOptional serializeAdmissionEvidence r.admissionEvidence).All P := by
    refine all_optional hnone (fun d _ => all_dict (hkeys ADMISSION_EVIDENCE_KEYS (by decide) rfl) ?_)
    simp [henum]
  refine all_dict (hkeys OUTER_KEYS (by decide) rfl) ?_
  simp only [List.forall_mem_cons, List.not_mem_nil, false_implies, implies_true, and_true]
  refine ⟨(PyValue.all_int _).mpr (hint _ ⟨rfl,by decide,by decide⟩),
    all_dict (hkeys RECEIPT_KEYS (by decide) rfl) ?_⟩
  simp only [List.forall_mem_cons, List.not_mem_nil, false_implies, implies_true, and_true]
  refine ⟨huuid _,huuid _,(PyValue.all_bool _).mpr (hbool _),henum _,henum _,henum _,henum _,
    henum _,henum _,(PyValue.all_str _).mpr hreason,henum _,?_,?_,?_,?_,?_,hadmission,he,hm⟩
  · refine all_dict (hkeys SUBJECT_KEYS (by decide) rfl) ?_
    simp [henum, hstring hsubject]
  · refine all_dict (hkeys CORRELATION_KEYS (by decide) rfl) ?_
    simp [henum, hstring horder, hstring hrequest, hoptionalUuid,
      hoptionalInt hp.sourceGlobalPosition]
  · refine all_dict (hkeys ACTOR_KEYS (by decide) rfl) ?_
    simp [hstring hactor, hstring hrole, hstring hruntime]
  · refine all_dict (hkeys COST_SUMMARY_KEYS (by decide) rfl) ?_
    simp [hoptionalInt hp.costs.elapsedMs, hoptionalInt hp.costs.validationElapsedMs,
      hoptionalInt hp.costs.replayElapsedMs, hoptionalInt hp.costs.transactionElapsedMs,
      hoptionalInt hp.costs.lockWaitMs]
  · refine all_dict (hkeys FLAGS_KEYS (by decide) rfl) ?_
    simp [henum]

/-! ## When it is the payload that was inserted -/

theorem same_enum {α : Type} [PyEnum α] (a : α) : (serializeEnum a).same (serializeEnum a) = true := by
  simp [serializeEnum]

theorem same_uuid (u : Uuid) : (serializeUuid u).same (serializeUuid u) = true :=
  beq_self_eq_true (PyStr.ofText u.str)

theorem same_optionalUuid (u : Option Uuid) : (serializeOptional serializeUuid u).same
    (serializeOptional serializeUuid u) = true := by
  cases u with
  | none => rfl
  | some u => exact same_uuid u

theorem same_optionalInt (n : Option PyInt) : (optionalInt n).same (optionalInt n) = true := by
  cases n with
  | none => rfl
  | some n => exact beq_self_eq_true n

theorem same_reread_iff (s : PyStr) :
    (serializeString s.reread).same (serializeString s) = true ↔ s.exact = true := by
  obtain ⟨text,exact⟩ := s
  cases exact <;> simp [serializeString, PyStr.reread, PyStr.ofText]

theorem same_optionalReread_iff (text : Option PyStr) :
    (serializeOptional serializeString (text.map PyStr.reread)).same
      (serializeOptional serializeString text) = true ↔ ExactText text := by
  cases text with
  | none => simp [serializeOptional, ExactText]
  | some s => simp [serializeOptional, ExactText, same_reread_iff]

theorem same_subject_reread (s : DecisionReceiptSubject) :
    (PyValue.mapping (serializeSubject s.reread)).same (.mapping (serializeSubject s)) = true ↔
      ExactText s.subjectId := by
  refine (same_dict_dict SUBJECT_KEYS (by decide) (by rfl) (by rfl)).trans ?_
  simp [DecisionReceiptSubject.reread, same_enum, same_optionalReread_iff]

theorem same_correlation_reread (s : DecisionReceiptCorrelation) :
    (PyValue.mapping (correlationFields s.reread)).same (.mapping (correlationFields s)) = true ↔
      ExactText s.orderId ∧ ExactText s.requestId := by
  refine (same_dict_dict CORRELATION_KEYS (by decide) (by rfl) (by rfl)).trans ?_
  simp [DecisionReceiptCorrelation.reread, same_enum, same_optionalUuid, same_optionalInt,
    same_optionalReread_iff]

theorem same_actor_reread (s : DecisionReceiptActor) :
    (PyValue.mapping (serializeActor s.reread)).same (.mapping (serializeActor s)) = true ↔
      ExactText s.actorId ∧ ExactText s.actorRole ∧ ExactText s.runtimeRole := by
  refine (same_dict_dict ACTOR_KEYS (by decide) (by rfl) (by rfl)).trans ?_
  simp [DecisionReceiptActor.reread, same_optionalReread_iff]

theorem same_costSummary_self (s : DecisionReceiptCostSummary) :
    (PyValue.mapping (costSummaryFields s)).same (.mapping (costSummaryFields s)) = true := by
  refine (same_dict_dict COST_SUMMARY_KEYS (by decide) (by rfl) (by rfl)).mpr ?_
  simp [same_optionalInt]

theorem same_flags_self (s : DecisionReceiptFlags) :
    (PyValue.mapping (serializeFlags s)).same (.mapping (serializeFlags s)) = true := by
  refine (same_dict_dict FLAGS_KEYS (by decide) (by rfl) (by rfl)).mpr ?_
  simp [same_enum]

theorem same_admissionEvidence_self (d : Option EventAdmissionDisposition) :
    (serializeOptional serializeAdmissionEvidence d).same
      (serializeOptional serializeAdmissionEvidence d) = true := by
  cases d with
  | none => rfl
  | some d =>
    refine (same_dict_dict ADMISSION_EVIDENCE_KEYS (by decide) (by rfl) (by rfl)).mpr ?_
    simp [same_enum]

theorem onlyLists_reloaded {v : PyValue} (h : v.All JsonNode) : OnlyLists v.reloaded := by
  refine PyValue.all_reloaded (fun v hv type items hs => ?_) h
  cases v with
  | sequence _ items => exact (PyValue.sequence.inj (PyValue.reloaded_sequence _ items ▸ hs)).1.symm
  | float x exact =>
    cases x with
    | finite x =>
      obtain ⟨n,hn⟩ | ⟨y,hy⟩ := x.reloaded_cases
      · simp [PyValue.reloaded, hn] at hs
      · simp [PyValue.reloaded, hy] at hs
    | _ => cases hv
  | object => exact hv.elim
  | _ => simp [PyValue.reloaded] at hs

/-- The nested JSON of the reread receipt is written as it came back. -/
theorem JsonObject.reread_detached (o : JsonObject) :
    fieldsWithSequences .list o.reread.items = o.reloaded := by
  have hnodes := (jsonSafe_withSequences .list o.items).mpr o.safe |>.nodes
  have hlists := (PyValue.withSequences_eq_self_iff .list _).mpr (onlyLists_reloaded hnodes)
  rw [PyValue.reloaded_mapping, PyValue.withSequences] at hlists
  rw [reread, fieldsWithSequences_fieldsWithSequences]
  exact PyValue.mapping.inj hlists

@[simp] theorem all_smallFloat_withSequences (type : SequenceType) (v : PyValue) :
    (v.withSequences type).All SmallFloat ↔ v.All SmallFloat := by
  refine PyValue.all_withSequences type (fun v => ?_) v
  cases v with
  | mapping items => simp only [PyValue.withSequences_mapping, SmallFloat]
  | sequence _ items => simp only [PyValue.withSequences_sequence, SmallFloat]
  | _ => exact Iff.rfl

theorem same_json_reread {o : JsonObject} (h : Detachable o.items)
    (hd : (PyValue.mapping o.items).All PyValue.DistinctKeys) :
    (PyValue.mapping (fieldsWithSequences .list o.reread.items)).same
        (.mapping (fieldsWithSequences .list o.items)) = true ↔
      (PyValue.mapping o.items).All SmallFloat := by
  have hlists : OnlyLists ((PyValue.mapping o.items).withSequences .list) :=
    (PyValue.withSequences_eq_self_iff .list _).mp (PyValue.withSequences_withSequences _ _ _)
  have hsame := same_reloaded_iff
    ((PyValue.distinctKeys_withSequences .list _).mpr hd)
    ((all_jsonNode_withSequences .list _).mpr h.safe.nodes)
    ((all_portable_withSequences .list _).mpr h.portable) hlists
  rw [all_smallFloat_withSequences] at hsame
  rw [o.reread_detached, ← hsame, PyValue.withSequences, PyValue.reloaded_mapping]
  exact Iff.rfl

structure SmallFloats (r : DecisionReceipt) : Prop where
  evidenceSummary : (PyValue.mapping r.evidenceSummary.items).All SmallFloat
  metadata : (PyValue.mapping r.metadata.items).All SmallFloat

theorem same_body_reread {r : DecisionReceipt} (h : PortableReceipt r)
    (he : (PyValue.mapping r.evidenceSummary.items).All PyValue.DistinctKeys)
    (hm : (PyValue.mapping r.metadata.items).All PyValue.DistinctKeys) :
    (PyValue.mapping r.reread.body).same (.mapping r.body) = true ↔ ExactTexts r ∧ SmallFloats r := by
  refine (same_dict_dict RECEIPT_KEYS (by decide) (by rfl) (by rfl)).trans ?_
  simp only [List.forall₂_cons, List.forall₂_nil_left_iff, DecisionReceipt.reread, same_enum,
    same_subject_reread, same_correlation_reread, same_actor_reread, same_costSummary_self,
    same_flags_self, same_admissionEvidence_self, same_json_reread h.evidenceSummary he,
    same_json_reread h.metadata hm, same_reread_iff, same_uuid, PyValue.same_bool, beq_self_eq_true,
    true_and, and_true]
  constructor
  · rintro ⟨hreason,hsubject,⟨horder,hrequest⟩,⟨hactor,hrole,hruntime⟩,hevidence,hmetadata⟩
    exact ⟨⟨hreason,hsubject,horder,hrequest,hactor,hrole,hruntime⟩,hevidence,hmetadata⟩
  · rintro ⟨h,hs⟩
    exact ⟨h.reason,h.subjectId,⟨h.orderId,h.requestId⟩,⟨h.actorId,h.actorRole,h.runtimeRole⟩,
      hs.evidenceSummary,hs.metadata⟩

theorem same_payload_reread {r : DecisionReceipt} (h : PortableReceipt r)
    (he : (PyValue.mapping r.evidenceSummary.items).All PyValue.DistinctKeys)
    (hm : (PyValue.mapping r.metadata.items).All PyValue.DistinctKeys) :
    (PyValue.mapping r.reread.payload).same (.mapping r.payload) = true ↔
      ExactTexts r ∧ SmallFloats r := by
  refine (same_dict_dict OUTER_KEYS (by decide) (by rfl) (by rfl)).trans ?_
  simp [same_body_reread h he hm]

/-! ## Comparing the payloads -/

theorem distinctKeys_dict {fields : List (String × PyValue)} (h : (fields.map Prod.fst).Nodup) :
    (PyValue.mapping (dict fields)).DistinctKeys := by
  have hkeys : (dict fields).map (fun item => item.1.identity) =
      (fields.map Prod.fst).map Sum.inl := by simp [dict]
  rw [PyValue.DistinctKeys, hkeys]
  exact h.map Sum.inl_injective

theorem readNode_dict {fields : List (String × PyValue)} (h : (fields.map Prod.fst).Nodup) :
    ReadNode (.mapping (dict fields)) := by
  refine ⟨distinctKeys_dict h,trivial,nofun,fun item hi => ?_⟩
  obtain ⟨field,-,rfl⟩ := List.mem_map.mp hi
  rfl

theorem distinctKeys_payload {r : DecisionReceipt} (h : PortableReceipt r)
    (he : (PyValue.mapping r.evidenceSummary.items).All PyValue.DistinctKeys)
    (hm : (PyValue.mapping r.metadata.items).All PyValue.DistinctKeys) :
    (PyValue.mapping r.payload).All PyValue.DistinctKeys :=
  all_payload h (fun _ => distinctKeys_dict) trivial (fun _ => trivial) (fun _ _ => trivial)
    (fun _ => trivial) (fun _ _ => trivial)
    ((PyValue.distinctKeys_withSequences .list (.mapping _)).mpr he)
    ((PyValue.distinctKeys_withSequences .list (.mapping _)).mpr hm)

theorem exactKeys_reloaded {v : PyValue} (h : JsonNode v) : ExactKeys v.reloaded := by
  cases v with
  | mapping items =>
    rw [PyValue.reloaded_mapping, ExactKeys, forall_mem_reloaded]
    exact fun _ _ => rfl
  | float x exact =>
    cases x with
    | finite x =>
      obtain ⟨n,hn⟩ | ⟨y,hy⟩ := x.reloaded_cases
      · simp [PyValue.reloaded, hn, ExactKeys]
      · simp [PyValue.reloaded, hy, ExactKeys]
    | _ => cases h
  | _ => trivial

/-- Nested JSON that came back is compared as it should be if it can be serialized. -/
theorem readNode_reloaded {o : JsonObject} (h : Detachable o.reread.items)
    (hd : (PyValue.mapping o.items).All PyValue.DistinctKeys) :
    (PyValue.mapping (fieldsWithSequences .list o.reread.items)).All ReadNode := by
  have hnodes := (all_jsonNode_withSequences .list (.mapping o.items)).mpr o.safe.nodes
  have hdistinct := PyValue.all_reloaded (fun v hv => distinctKeys_reloaded hv.1 hv.2)
    (((PyValue.distinctKeys_withSequences .list _).mpr hd).and hnodes)
  have hkeys := PyValue.all_reloaded (fun _ => exactKeys_reloaded) hnodes
  have hlists := onlyLists_reloaded hnodes
  have hportable := ((detachable_withSequences .list _).mpr h).portable
  rw [PyValue.withSequences, PyValue.reloaded_mapping] at hdistinct hkeys hlists
  rw [o.reread_detached] at hportable ⊢
  refine PyValue.All.mono ?_ (((hdistinct.and hportable).and hlists).and hkeys)
  rintro v ⟨⟨⟨hdistinct,hportable⟩,hlist⟩,hkeys⟩
  exact ⟨hdistinct,hportable,hlist,hkeys⟩

theorem exists_reread {r : DecisionReceipt} {s : PyStr} (h : s ∈ r.reread.texts) :
    ∃ t : PyStr, s = t.reread := by
  simp only [DecisionReceipt.texts, DecisionReceipt.reread, DecisionReceiptSubject.reread,
    DecisionReceiptCorrelation.reread, DecisionReceiptActor.reread, List.mem_append,
    List.mem_singleton, Option.mem_toList, Option.map_eq_some_iff] at h
  rcases h with (((((rfl | ⟨t,-,rfl⟩) | ⟨t,-,rfl⟩) | ⟨t,-,rfl⟩) | ⟨t,-,rfl⟩) | ⟨t,-,rfl⟩) | ⟨t,-,rfl⟩
  · exact ⟨r.reason,rfl⟩
  all_goals exact ⟨t,rfl⟩

theorem readNode_payload {r : DecisionReceipt} (h : PortableReceipt r.reread)
    (he : (PyValue.mapping r.evidenceSummary.items).All PyValue.DistinctKeys)
    (hm : (PyValue.mapping r.metadata.items).All PyValue.DistinctKeys) :
    (PyValue.mapping r.reread.payload).All ReadNode := by
  refine all_payload h (fun _ => readNode_dict) ⟨trivial,trivial,nofun,trivial⟩
    (fun _ => ⟨trivial,trivial,nofun,trivial⟩) (fun _ hn => ⟨trivial,hn,nofun,trivial⟩)
    (fun _ => ⟨trivial,rfl,nofun,trivial⟩) (fun s hs => ?_)
    (readNode_reloaded h.evidenceSummary he) (readNode_reloaded h.metadata hm)
  obtain ⟨t,rfl⟩ := exists_reread hs
  exact ⟨trivial,rfl,nofun,trivial⟩

/-! ## The store -/

/-- The table has no row of the receipt or its accepted event, and the event is accepted. -/
structure Fresh (r : DecisionReceipt) (t : ReceiptRows) : Prop where
  receiptId : ∀ row ∈ t.rows, row.receiptId ≠ r.receiptId
  admitted : ∀ row ∈ t.rows, ∀ u, r.correlation.acceptedEventId = some u →
    row.admittedEventId ≠ some u
  accepted : ∀ u, r.correlation.acceptedEventId = some u → u ∈ t.acceptedEvents

theorem isObject_of_loads {j : Json JsonNumeric} {items : PyItems} (h : j.loads = .mapping items) :
    j.isObject = true := by
  cases j with
  | object fields => rfl
  | number n =>
    rw [Json.loads, JsonNumber.value] at h
    split at h <;> cases h
  | _ => simp [Json.loads] at h

/-- The insert statement of an accepted receipt: its columns can be written and read. -/
theorem executeInsert_eq {r : DecisionReceipt} (h : PortableReceipt r) (hs : Storable r) :
    ∃ e m : Json JsonNumeric, e.loads = .mapping r.evidenceSummary.reloaded ∧
      m.loads = .mapping r.metadata.reloaded ∧ ∀ provenance now t,
        executeInsert r (fieldsWithSequences .list r.evidenceSummary.items)
          (fieldsWithSequences .list r.metadata.items) provenance now t =
        if t.rows.any (insertedRow r provenance e m now).conflicts then .ok (none,t)
        else if r.correlation.acceptedEventId.all (fun u => t.acceptedEvents.contains u) then
          .ok (some (insertedRow r provenance e m now),
            { t with rows := t.rows ++ [insertedRow r provenance e m now] })
        else .error
          (foreignKeyViolation "decision_receipts" "fk_decision_receipts_accepted_event") := by
  obtain ⟨e,he,hloade⟩ :=
    dumps_loads ((all_jsonNode_withSequences .list _).mpr h.evidenceSummary.safe.nodes)
  obtain ⟨m,hm,hloadm⟩ :=
    dumps_loads ((all_jsonNode_withSequences .list _).mpr h.metadata.safe.nodes)
  rw [PyValue.withSequences] at he hm hloade hloadm
  rw [PyValue.reloaded_mapping] at hloade hloadm
  refine ⟨e.toJsonb,m.toJsonb,hloade,hloadm,fun provenance now t => ?_⟩
  have hnulFree : (PyValue.mapping (fieldsWithSequences .list r.evidenceSummary.items)).All NulFree ∧
      (PyValue.mapping (fieldsWithSequences .list r.metadata.items)).All NulFree :=
    ⟨(all_nulFree_withSequences .list (.mapping _)).mpr hs.evidenceSummary,
      (all_nulFree_withSequences .list (.mapping _)).mpr hs.metadata⟩
  have hchecks : failedCheck "decision_receipts"
      (receiptChecks (insertedRow r provenance e.toJsonb m.toJsonb now)) = none :=
    failedCheck_pass (receiptChecks_insertedRow r provenance e.toJsonb m.toJsonb now
      (isObject_of_loads hloade) (isObject_of_loads hloadm))
  simp only [executeInsert, he, hm, ok_bind, texts_insertedRow hs, Bool.false_eq_true, if_false,
    if_pos hnulFree, ReceiptRows.insertRow, hchecks]
  rfl

theorem admittedEventId_insertedRow {r : DecisionReceipt}
    {provenance : DecisionReceiptMaterializationProvenance} {e m : Json JsonNumeric} {now : ℤ} {u : Uuid}
    (h : (insertedRow r provenance e m now).admittedEventId = some u) :
    r.correlation.acceptedEventId = some u := by
  unfold DecisionReceiptRow.admittedEventId at h
  split at h
  · exact h
  · cases h

theorem Fresh.conflicts {r : DecisionReceipt} {t : ReceiptRows} (h : Fresh r t)
    (provenance : DecisionReceiptMaterializationProvenance) (e m : Json JsonNumeric) (now : ℤ) :
    t.rows.any (insertedRow r provenance e m now).conflicts = false := by
  rw [List.any_eq_false]
  intro row hrow hconflict
  rw [DecisionReceiptRow.conflicts, Bool.or_eq_true, Bool.and_eq_true, beq_iff_eq, beq_iff_eq,
    Option.isSome_iff_exists] at hconflict
  rcases hconflict with hid | ⟨⟨u,hu⟩,hevent⟩
  · exact h.receiptId row hrow hid.symm
  · exact h.admitted row hrow u (admittedEventId_insertedRow hu) (hevent.symm.trans hu)

/-- What `insert` does between the payload and the row it returns. -/
theorem insert_eq {r : DecisionReceipt} (h : PortableReceipt r)
    (provenance : DecisionReceiptMaterializationProvenance) (now : ℤ) (t : ReceiptRows) :
    insert r provenance now t =
      raising (executeInsert r (fieldsWithSequences .list r.evidenceSummary.items)
        (fieldsWithSequences .list r.metadata.items) provenance now t) >>= fun inserted =>
      match inserted.1 with
      | some row => raising (persistedDecisionReceiptFromRow row) >>= fun record =>
        .ok (⟨.inserted,record⟩,inserted.2)
      | none => classifyExisting r r.payload inserted.2 >>= fun result => .ok (result,inserted.2) := by
  have hpayload : raising (serializeDecisionReceipt r) = .ok r.payload := by
    rw [serializeDecisionReceipt_eq_ok.mpr ⟨h,rfl⟩]
    rfl
  have hbody : raising (serializedReceiptBody r.payload) = .ok r.body := rfl
  have hevidence : raising (getItem r.body "evidence_summary" >>=
      (serializedJsonObject · "evidence_summary")) =
      .ok (fieldsWithSequences .list r.evidenceSummary.items) := rfl
  have hmetadata : raising (getItem r.body "metadata" >>= (serializedJsonObject · "metadata")) =
      .ok (fieldsWithSequences .list r.metadata.items) := rfl
  rw [insert]
  refine (bind_of_ok hpayload).trans ?_
  refine (bind_of_ok hbody).trans ?_
  refine (bind_of_ok hevidence).trans ?_
  exact bind_of_ok hmetadata

/-- What a fresh insert, the load after it and every further insert do. -/
theorem store_run {r : DecisionReceipt} {t : ReceiptRows} (h : PortableReceipt r) (hs : Storable r)
    (hf : Fresh r t) (provenance : DecisionReceiptMaterializationProvenance) (now : ℤ) :
    ∃ t', insert r provenance now t =
        raising (serializeDecisionReceipt r.reread >>= fun _ => .ok ⟨r.reread,provenance,now⟩) >>=
          (fun record => .ok (⟨.inserted,record⟩,t')) ∧
      loadByReceiptId r.receiptId t' = (serializeDecisionReceipt r.reread >>= fun _ =>
        .ok (some ⟨r.reread,provenance,now⟩)) ∧
      ∀ provenance' now', insert r provenance' now' t' =
        classifyExisting r r.payload t' >>= fun result => .ok (result,t') := by
  obtain ⟨e,m,he,hm,hexecute⟩ := executeInsert_eq h hs
  have hrow := persistedDecisionReceiptFromRow_insertedRow h provenance now he hm
  have haccepted : r.correlation.acceptedEventId.all (fun u => t.acceptedEvents.contains u) = true := by
    cases hu : r.correlation.acceptedEventId with
    | none => rfl
    | some u => exact List.contains_iff_mem.mpr (hf.accepted u hu)
  refine ⟨{ t with rows := t.rows ++ [insertedRow r provenance e m now] },?_,?_,?_⟩
  · rw [insert_eq h, hexecute, hf.conflicts, haccepted, ← hrow]
    rfl
  · have hnone : t.rows.find? (fun row => row.receiptId = r.receiptId) = none := by
      simpa [List.find?_eq_none] using hf.receiptId
    have hfind : (t.rows ++ [insertedRow r provenance e m now]).find?
        (fun row => row.receiptId = r.receiptId) = some (insertedRow r provenance e m now) := by
      rw [List.find?_append, hnone, Option.none_or]
      exact List.find?_cons_of_pos (decide_eq_true rfl)
    rw [loadByReceiptId, hfind]
    refine (congrArg (· >>= fun record => .ok (some record)) hrow).trans ?_
    rw [bind_assoc]
    rfl
  · intro provenance' now'
    have hconflicts : (t.rows ++ [insertedRow r provenance e m now]).any
        (insertedRow r provenance' e m now').conflicts = true := by
      refine List.any_eq_true.mpr ⟨_,List.mem_append_right _ (List.mem_singleton_self _),?_⟩
      rw [DecisionReceiptRow.conflicts, Bool.or_eq_true]
      exact .inl (beq_self_eq_true r.receiptId)
    rw [insert_eq h, hexecute, hconflicts]
    rfl

theorem portableReceipt_reread {r : DecisionReceipt} (h : PortableReceipt r) (hs : SmallFloats r) :
    PortableReceipt r.reread := by
  have hjson {o : JsonObject} (ho : Detachable o.items)
      (hsmall : (PyValue.mapping o.items).All SmallFloat) : Detachable o.reread.items := by
    refine ⟨o.reread.safe,?_⟩
    have hall := PyValue.all_reloaded (fun v hv => portable_reloaded hv.1 hv.2)
      (((all_portable_withSequences .list _).mpr ho.portable).and
        ((all_smallFloat_withSequences .list _).mpr hsmall))
    rw [PyValue.withSequences, PyValue.reloaded_mapping] at hall
    exact (all_portable_withSequences .tuple _).mpr hall
  exact ⟨h.sourceGlobalPosition,h.costs,hjson h.evidenceSummary hs.evidenceSummary,
    hjson h.metadata hs.metadata⟩

/-- Inserting, loading and inserting again go as they should. -/
def RoundTrips (r : DecisionReceipt) (provenance : DecisionReceiptMaterializationProvenance)
    (now : ℤ) (t : ReceiptRows) : Prop :=
  ∃ payload record t', serializeDecisionReceipt r = .ok payload ∧
    insert r provenance now t = .ok (⟨.inserted,record⟩,t') ∧
    (∃ loaded, loadByReceiptId r.receiptId t' = .ok (some loaded) ∧
      sameVersionedPayload loaded payload = .ok true) ∧
    ∀ provenance' now', ∃ existing,
      insert r provenance' now' t' = .ok (⟨.alreadyPresent,existing⟩,t')

theorem sameVersionedPayload_reread {r : DecisionReceipt} (h : PortableReceipt r)
    (hR : PortableReceipt r.reread)
    (he : (PyValue.mapping r.evidenceSummary.items).All PyValue.DistinctKeys)
    (hm : (PyValue.mapping r.metadata.items).All PyValue.DistinctKeys)
    (provenance : DecisionReceiptMaterializationProvenance) (now : ℤ) :
    sameVersionedPayload ⟨r.reread,provenance,now⟩ r.payload =
      .ok ((PyValue.mapping r.reread.payload).same (.mapping r.payload)) := by
  rw [sameVersionedPayload, serializeDecisionReceipt_eq_ok.mpr ⟨hR,rfl⟩, ok_bind]
  exact sameSerialized_eq_same (readNode_payload hR he hm) (distinctKeys_payload h he hm)

/-- A storable receipt goes through a fresh table and back, and is recognised there, just if its
texts are exact strings and its nested JSON has no float of at least 10^16. -/
theorem store_round_trip {r : DecisionReceipt} {payload : PyItems} {t : ReceiptRows}
    (provenance : DecisionReceiptMaterializationProvenance) (now : ℤ)
    (h : serializeDecisionReceipt r = .ok payload) (hs : Storable r) (hf : Fresh r t)
    (he : (PyValue.mapping r.evidenceSummary.items).All PyValue.DistinctKeys)
    (hm : (PyValue.mapping r.metadata.items).All PyValue.DistinctKeys) :
    RoundTrips r provenance now t ↔ ExactTexts r ∧ SmallFloats r := by
  obtain ⟨hp,rfl⟩ := serializeDecisionReceipt_eq_ok.mp h
  obtain ⟨t',hinsert,hload,hagain⟩ := store_run hp hs hf provenance now
  rw [← same_payload_reread hp he hm]
  constructor
  · rintro ⟨_,_,t'',hpayload,hinserted,⟨loaded,hloaded,hsame⟩,-⟩
    obtain ⟨-,rfl⟩ := serializeDecisionReceipt_eq_ok.mp hpayload
    rw [hinsert] at hinserted
    obtain ⟨_,-,heq⟩ := bind_eq_ok.mp hinserted
    obtain rfl : t' = t'' := congrArg Prod.snd (Except.ok.inj heq)
    rw [hload] at hloaded
    obtain ⟨_,hserialize,heq⟩ := bind_eq_ok.mp hloaded
    obtain rfl := Option.some.inj (Except.ok.inj heq)
    obtain ⟨hR,-⟩ := serializeDecisionReceipt_eq_ok.mp hserialize
    rw [sameVersionedPayload_reread hp hR he hm] at hsame
    exact Except.ok.inj hsame
  · intro hsame
    have hR := portableReceipt_reread hp ((same_payload_reread hp he hm).mp hsame).2
    have hserialize : serializeDecisionReceipt r.reread = .ok r.reread.payload :=
      serializeDecisionReceipt_eq_ok.mpr ⟨hR,rfl⟩
    have hequal := sameVersionedPayload_reread hp hR he hm provenance now
    rw [hserialize, ok_bind] at hinsert hload
    rw [hsame] at hequal
    refine ⟨_,_,t',h,hinsert,⟨_,hload,hequal⟩,fun provenance' now' => ⟨⟨r.reread,provenance,now⟩,?_⟩⟩
    rw [hagain, classifyExisting, hload]
    simp [raising, hequal]

/-- No receipts yet, and the payment's event accepted. -/
def paidOrder : ReceiptRows := ⟨[],[3]⟩

theorem fresh_empty {r : DecisionReceipt} {u : Uuid} (h : r.correlation.acceptedEventId = some u) :
    Fresh r ⟨[],[u]⟩ := by
  refine ⟨fun _ hrow => absurd hrow List.not_mem_nil,fun _ hrow => absurd hrow List.not_mem_nil,
    fun v hv => ?_⟩
  rw [h] at hv
  exact List.mem_singleton.mpr (Option.some.inj hv).symm

theorem store_round_trip_payment : RoundTrips payment .liveResult 0 paidOrder := by
  have hserialize : serializeDecisionReceipt payment = .ok payment.payload := rfl
  have hstorable : Storable payment := ⟨by decide,by decide +kernel,by decide +kernel⟩
  have hfresh : Fresh payment paidOrder := fresh_empty rfl
  have hexact (text : String) : ExactText (some (.ofText text)) := by
    rintro s ⟨⟩
    rfl
  refine (store_round_trip .liveResult 0 hserialize hstorable hfresh (by decide +kernel)
    (by decide +kernel)).mpr ⟨?_,?_⟩
  · exact ⟨rfl,hexact "order-1",hexact "order-1",nofun,nofun,nofun,hexact "writer"⟩
  · exact ⟨by decide +kernel,by decide +kernel⟩

/-- The payment with a cost of 1e16 among its evidence. -/
def largeCost : DecisionReceipt :=
  { payment with
    evidenceSummary := .ofFrozen
      (dict [("cost",.float (.finite ⟨false,1,16,by decide⟩) true)]) "evidence_summary" rfl }

/-- The receipt with the large cost is inserted, and is a conflict with itself afterwards. -/
theorem large_cost_conflicts : Storable largeCost ∧ Fresh largeCost paidOrder ∧
    ∃ payload record t', serializeDecisionReceipt largeCost = .ok payload ∧
      insert largeCost .liveResult 0 paidOrder = .ok (⟨.inserted,record⟩,t') ∧
      insert largeCost .liveResult 1 t' = .error (.conflict
        ⟨.receiptIdContentConflict,largeCost.receiptId,largeCost.correlation.acceptedEventId⟩) := by
  have hstorable : Storable largeCost := ⟨by decide,by decide +kernel,by decide +kernel⟩
  exact ⟨hstorable,fresh_empty rfl,_,_,_,rfl,rfl,rfl⟩

end StreamingCompass.Serialization
