import StreamingCompass.Serialization.RoundTrip

/-! # The receipts of the mappers

A mapped receipt as the complete contract object: texts are exact strings, actor, costs, flags
and metadata have their defaults. Its payload always decodes to it.
-/
namespace StreamingCompass

/-- A summary value as the Python value it stands for. -/
def FieldValue.toPy : FieldValue → Serialization.PyValue
  | .none => .none
  | .bool b => .bool b
  | .int n => .int ⟨n,true⟩
  | .str s => .str (.ofText s)
  | .uuid _ => .object

namespace Serialization

def DecisionReceiptActor.default : DecisionReceiptActor :=
  ⟨none,none,none,nonEmpty_none,nonEmpty_none,nonEmpty_none⟩

def DecisionReceiptCostSummary.default : DecisionReceiptCostSummary :=
  ⟨none,none,none,none,none,nonNegative_none,nonNegative_none,nonNegative_none,nonNegative_none,
    nonNegative_none⟩

def DecisionReceiptFlags.default : DecisionReceiptFlags :=
  ⟨.notEvaluated,.notEvaluated,.notEvaluated,.notEvaluated⟩

def exactInt (n : ℤ) : PyInt := ⟨n,true⟩

/-- The complete receipt a mapper constructs. -/
def completeReceipt (r : StreamingCompass.DecisionReceipt) : Except PyException DecisionReceipt := do
  let subject ← DecisionReceiptSubject.make r.subject.subjectType
    (r.subject.subjectId.map PyStr.ofText)
  let correlation ← DecisionReceiptCorrelation.make (r.correlation.orderId.map PyStr.ofText)
    (r.correlation.requestId.map PyStr.ofText) r.correlation.candidateEventId
    r.correlation.acceptedEventId r.correlation.snapshotId
    (r.correlation.sourceGlobalPosition.map exactInt) r.correlation.identitySource
  DecisionReceipt.make r.receiptId r.outcomeId r.ok r.boundary r.category r.semanticCode r.severity r.riskLevel
    r.reversibility (.ofText r.reason) r.evidenceSource subject correlation .default .default .default
    r.admissionEvidence (.mapping (dict (r.evidenceSummary.map (fun f => (f.1,f.2.toPy)))))
    (.mapping [])

theorem exactText_map (text : Option String) : ExactText (text.map PyStr.ofText) := by
  intro s hs
  obtain ⟨t,-,rfl⟩ := Option.map_eq_some_iff.mp hs
  rfl

theorem completeReceipt_exact {r : StreamingCompass.DecisionReceipt} {s : DecisionReceipt}
    (h : completeReceipt r = .ok s) : ExactTexts s := by
  obtain ⟨subject,hsubject,h⟩ := bind_eq_ok.mp h
  obtain ⟨correlation,hcorrelation,h⟩ := bind_eq_ok.mp h
  obtain ⟨-,hid⟩ := DecisionReceiptSubject.make_eq_ok.mp hsubject
  obtain ⟨horder,hrequest,-⟩ := DecisionReceiptCorrelation.make_eq_ok.mp hcorrelation
  obtain ⟨-,-,-,-,-,-,-,-,-,hreason,-,hs,hc,ha,-⟩ := DecisionReceipt.make_eq_ok.mp h
  refine ⟨by rw [hreason]; rfl,?_,?_,?_,?_,?_,?_⟩
  · rw [hs, hid]
    exact exactText_map _
  · rw [hc, horder]
    exact exactText_map _
  · rw [hc, hrequest]
    exact exactText_map _
  all_goals
    rw [ha]
    rintro _ ⟨⟩

/-- Decoding undoes encoding on every receipt a mapper constructs. -/
theorem completeReceipt_round_trip {r : StreamingCompass.DecisionReceipt} {s : DecisionReceipt}
    {payload : PyItems} (h : completeReceipt r = .ok s)
    (hp : serializeDecisionReceipt s = .ok payload) :
    deserializeDecisionReceipt (.mapping payload) = .ok s :=
  (decode_payload_iff hp).mpr (completeReceipt_exact h)

end Serialization
end StreamingCompass
