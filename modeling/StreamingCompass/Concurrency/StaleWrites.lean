import StreamingCompass.Concurrency.Reinvocation
import StreamingCompass.Concurrency.WriteSideReceipts

/-! # Stale writes

Four kinds of exception become one STALE_WRITE verdict. Each of them means that the stream
has grown past the history the candidate was built on: between its load and its append
another event was committed at the place it claims.
-/
namespace StreamingCompass
open Interleaving

/-- The exceptions `_append_with_translation` takes for a stale write. -/
def PyException.isStale : PyException → Bool
  | .appendVersionMismatchError _ _ | .valueError _ | .moneyValidationError _ | .staleWriteError _
  | .appendConflictError _ => true
  | .uniqueViolation constraint _ => isStreamPositionConflict constraint
  | _ => false

theorem translateAppendError_stale {gateName : String} {e : OrderEvent} {cause : PyException}
    {a : AdmissionResult} (h : translateAppendError gateName e cause = .ok a) :
    a.candidateEventId = e.eventId ∧ (a.verdict = .staleWrite → cause.isStale = true) := by
  cases cause with
  | appendVersionMismatchError expected observed =>
    obtain ⟨reason,rfl⟩ := translateAppendError_mismatch h
    exact ⟨rfl,fun _ => rfl⟩
  | uniqueViolation constraint message =>
    simp only [translateAppendError] at h
    split at h
    · rename_i hconflict
      obtain rfl := Except.ok.inj h
      exact ⟨rfl,fun _ => hconflict⟩
    · obtain rfl := Except.ok.inj h
      exact ⟨rfl,fun hs => by cases hs⟩
  | valueError _ | moneyValidationError _ | staleWriteError _ | appendConflictError _ =>
    obtain rfl := Except.ok.inj h
    exact ⟨rfl,fun _ => rfl⟩
  | lockNotAvailable _ | storageInfrastructureError _ =>
    obtain rfl := Except.ok.inj h
    exact ⟨rfl,fun hs => by cases hs⟩
  | _ => cases h

theorem AppendReports.place {ι : Type} [DecidableEq ι] [Fintype ι] {w : World ι} {i : ι}
    {op : Operation} {cause : PyException} (h : AppendReports w i op cause)
    (hs : cause.isStale = true) : ∃ e, op = .insertOrderEvent e ∧
      ∃ row ∈ (w.visible i).orderEvents, row.orderId = e.orderId ∧ row.sequence = e.sequence := by
  cases h with
  | database sqlstate message => cases hs
  | sameId => exact absurd hs (by decide)
  | samePlace visible orderId sequence => exact ⟨_,rfl,_,visible,orderId,sequence⟩

variable {ι : Type} [DecidableEq ι] [Fintype ι] {D : Database ι} {faulty : ι → Prop}
  {invocations : ι → Invocation} {c c₁ : System ι} {i : ι} {v : WriteInvocation}

/-- A failure of the environment is no stale write: whatever looks like one in the trace is
the server's own report. -/
def StaleReports (D : Database ι) (i : ι) (c : System ι) : Prop :=
  ∀ x ∈ ownSteps i c.trace, ∀ e, x.reply = .error e → e.isStale = true →
    ∃ position, exec D position i x.before x.op = some (x.reply,x.after)

/-- A candidate whose place was taken after its history was loaded. -/
structure Overtaken (D : Database ι) (faulty : ι → Prop) (invocations : ι → Invocation)
    (c c₁ c₂ : System ι) (i : ι) (orderId : String) (candidate : Candidate) : Prop where
  appends : ∃ op next reply w, op.isAppend = true ∧
    Performed (D.machine faulty) (System.start .empty invocations) c c₁ i op next reply w
  built : BuiltOn D faulty invocations c₁ c₂ i orderId candidate
  grown : candidate.expectedCurrentVersion < (c₁.world.tables.stream orderId).length

theorem RacingCreations.freshDraws : FreshDraws RacingCreations.racers := by
  intro i j v w hv hw huuid
  match i, j with
  | 0, 0 | 1, 1 => rfl
  | 0, 1 | 1, 0 =>
    cases hv
    cases hw
    exact absurd huuid (by decide)

namespace Reachable

theorem staleReports (h : Reachable D faulty .empty invocations c) (hf : ¬faulty i) :
    StaleReports D i c := by
  intro x hx e _ _
  obtain ⟨hmem,hi⟩ := List.mem_filter.mp hx
  obtain rfl : x.thread = i := by simpa using hi
  obtain ⟨later,earlier,htrace⟩ := List.append_of_mem hmem
  obtain ⟨c₁,next,hp,hworld,-⟩ := Reaches.performed_entry h rfl htrace
  obtain ⟨position,hruns⟩ := SqlStep.runs hp.executes hf
  exact ⟨position,hworld ▸ hruns⟩

omit [Fintype ι] in
/-- The event an append sends is the one validation judged. -/
theorem appends_candidate {candidate : Candidate} {e : OrderEvent}
    (hvalidated : Validated v.writeSide v.signature (c.log i) candidate) (hlog : c₁.log i <:+ c.log i)
    (happ : Appending v.writeSide v.signature (c₁.log i) e) :
    Built v.writeSide v.signature (c₁.log i) candidate ∧ candidate.event = e := by
  obtain ⟨rows,hrows,-,hc⟩ := hvalidated
  obtain ⟨rows',a,hmem,ha,hbuild,-,-⟩ := happ.loaded
  have hin : rows' ∈ histories (c.log i) := List.mem_filterMap.mpr ⟨_,hlog.subset hmem,rfl⟩
  rw [hrows, List.mem_singleton] at hin
  subst hin
  obtain ⟨a',ha',hbuild',-,-⟩ := WriteSide.candidateOf_eq_ok hc
  obtain rfl : a = a' := Except.ok.inj (ha.symm.trans ha')
  exact ⟨⟨rows',hmem,hc⟩,Except.ok.inj (hbuild'.symm.trans hbuild)⟩

/-- Every append-time STALE_WRITE comes from a candidate that was overtaken. -/
theorem overtaken (h : Reachable D faulty .empty invocations c) (hv : invocations i = .write v)
    (hreports : StaleReports D i c) {d : PostgresWriteSideDelivery} (hd : c.delivered i = some (.ok d))
    {a : AdmissionResult} (ha : d.producerValue.result.admissionResult = some a)
    (hstale : a.verdict = .staleWrite) :
    ∃ candidate c₁ c₂, Validated v.writeSide v.signature (c.log i) candidate ∧
      a.candidateEventId = candidate.event.eventId ∧ d.producerValue.result.outcome = .admissionRejected ∧
      Overtaken D faulty invocations c c₁ c₂ i v.signature.orderId candidate := by
  have hdelivered := h.delivers hv hd
  generalize d.producerValue.result = result at hdelivered ha
  cases hdelivered with
  | decided checked found unread validated =>
    unfold PostgresWriteSideResult.decided at ha
    split at ha <;> cases ha
  | notPrepared checked prepared refused placed unread validated => cases ha
  | blocked checked admitted unread validated blocks => cases ha
  | accepted checked prepared admitted validated allowed reads =>
    obtain rfl := Option.some.inj ha
    cases hstale
  | @notAppended p candidate cause admission checked prepared admitted validated allowed refused translated =>
    obtain rfl : admission = a := Option.some.inj ha
    obtain ⟨hid,hcause⟩ := translateAppendError_stale translated
    cases refused with
    | @moved newer older observed split built reads differs =>
      obtain ⟨c₁,next,w,hp,hold⟩ := Reaches.performed h rfl (l := newer) split
      obtain ⟨c₂,hb⟩ := (of_performed hp).built hv (hold ▸ built)
      have hread := (of_performed hp).versionRead hv hp.running hp.executes
      obtain ⟨_,_,hp₂⟩ := hb.loads
      have hgrow := (Tables.stream_grow (performed_grows hp₂).1 v.signature.orderId).length_le
      have hloaded := hb.loaded
      rw [hb.named] at hread
      exact ⟨candidate,c₁,c₂,validated,hid,rfl,⟨_,next,_,w,rfl,hp⟩,hb,by omega⟩
    | discontinuous reads breaks =>
      -- a candidate always continues the version it was built on
      obtain ⟨_,hb⟩ := h.built hv validated.built
      exact absurd hb.sequence breaks
    | @statement op _ appends replied reads =>
      obtain ⟨c₁,next,w,hp,-⟩ := Reaches.performed_of_mem h rfl replied
      have hentry := hp.recorded.subset (List.mem_cons_self ..)
      obtain ⟨position,hruns⟩ := hreports _ (List.mem_filter.mpr ⟨hentry,by simp⟩) _ rfl (hcause hstale)
      obtain ⟨e,rfl,row,hrow,horder,hsequence⟩ := (exec_append_error appends hruns).place (hcause hstale)
      have h₁ := of_performed hp
      have hg := h₁.guard hp.running
      rw [hv] at hg
      obtain ⟨huntouched,happ⟩ := hg
      obtain ⟨hbuilt,rfl⟩ := appends_candidate validated
        ((List.suffix_cons _ _).trans hp.log_suffix) happ
      obtain ⟨c₂,hb⟩ := h₁.built hv hbuilt
      rw [(h₁.mirrors hp.running).visible_eq huntouched.noRows] at hrow
      refine ⟨candidate,c₁,c₂,validated,hid,rfl,⟨_,next,_,_,appends,hp⟩,hb,?_⟩
      obtain ⟨k,hk,hplace⟩ := (h₁.sound .initial .empty).getElem_history hrow
      rw [(h₁.sound .initial .empty).history_eq, horder, hb.named] at hk
      have hlt := (List.getElem?_eq_some_iff.mp hk).1
      have := hb.sequence
      omega

/-- An append-time STALE_WRITE is returned only when another event is committed at the place
the candidate claimed. -/
theorem stale_not_spurious (h : Reachable D faulty .empty invocations c) (hfresh : FreshDraws invocations)
    (hv : invocations i = .write v) (hreports : faulty i → StaleReports D i c)
    {d : PostgresWriteSideDelivery} (hd : c.delivered i = some (.ok d)) {a : AdmissionResult}
    (ha : d.producerValue.result.admissionResult = some a) (hstale : a.verdict = .staleWrite) :
    d.producerValue.result.outcome = .admissionRejected ∧
    ∃ candidate, Validated v.writeSide v.signature (c.log i) candidate ∧
      a.candidateEventId = candidate.event.eventId ∧ candidate.event.orderId = v.signature.orderId ∧
      candidate.event.sequence = candidate.expectedCurrentVersion+1 ∧
      ∃ row ∈ c.world.tables.orderEvents, row.orderId = candidate.event.orderId ∧
        row.sequence = candidate.expectedCurrentVersion+1 ∧
        row.acceptedEventId ≠ candidate.event.eventId := by
  have hreports : StaleReports D i c := by
    by_cases hf : faulty i
    · exact hreports hf
    · exact h.staleReports hf
  obtain ⟨candidate,c₁,c₂,hvalidated,hid,ho,hovertaken⟩ := h.overtaken hv hreports hd ha hstale
  obtain ⟨op,next,reply,w,-,hp⟩ := hovertaken.appends
  have hgrown := hovertaken.grown
  obtain ⟨n,hn⟩ := Int.eq_ofNat_of_zero_le hvalidated.expected_nonneg
  have hplace : n+1 ≤ (c₁.world.tables.stream v.signature.orderId).length := by omega
  obtain ⟨row,hrow,horder,hsequence⟩ := ((of_performed hp).sound .initial .empty).sequence_mem
    (Nat.le_add_left 1 n) hplace
  have hcommitted := (performed_grows hp).1.subset hrow
  obtain ⟨hidentified,-,-⟩ := WriteInvocation.candidate_identified hvalidated.built
  refine ⟨ho,candidate,hvalidated,hid,hovertaken.built.named,hovertaken.built.sequence,row,hcommitted,
    horder.trans hovertaken.built.named.symm,by omega,?_⟩
  rw [hidentified.eventId]
  exact h.unaccepted hfresh hv hd (by simp [ho]) row hcommitted

theorem stale_not_spurious_racing : ∃ d, RacingCreations.final.delivered 0 = some (.ok d) ∧
    ∃ row ∈ RacingCreations.final.world.tables.orderEvents, row.orderId = "A" := by
  have hrejected : (RacingCreations.final.delivered 0).map (fun r => r.map (fun d =>
      (d.producerValue.result.admissionResult.map AdmissionResult.verdict,
        d.producerValue.result.acceptedEvent))) = some (.ok (some .staleWrite,none)) := by
    decide +kernel
  obtain ⟨r,hr,hr'⟩ := Option.map_eq_some_iff.mp hrejected
  cases r with
  | error e => cases hr'
  | ok d =>
    obtain ⟨hverdict,-⟩ := Prod.mk.inj (Except.ok.inj hr')
    obtain ⟨a,ha,hstale⟩ := Option.map_eq_some_iff.mp hverdict
    obtain ⟨-,candidate,-,-,horder,-,row,hrow,ho,-⟩ := stale_not_spurious RacingCreations.reachable
      RacingCreations.freshDraws (v := RacingCreations.stale) rfl (fun hf => hf.elim) hr ha hstale
    exact ⟨d,hr,row,hrow,ho.trans horder⟩

end Reachable
end StreamingCompass
