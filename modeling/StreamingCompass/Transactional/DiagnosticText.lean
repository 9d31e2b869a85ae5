import StreamingCompass.Interleaving.Noninterference
import StreamingCompass.Transactional.Observation

/-! # Diagnostic texts in write-side results

Two runs of an invocation whose database raises the same exceptions with other texts. The
texts reach the result through append-time rejections only, and every other result, call
and exception class is the same.
-/
namespace StreamingCompass
open Interleaving

/-- The same exception with the same data, up to its message. -/
inductive SameButText : PyException → PyException → Prop where
  | valueError (m m' : String) : SameButText (.valueError m) (.valueError m')
  | moneyValidationError (m m' : String) :
    SameButText (.moneyValidationError m) (.moneyValidationError m')
  | invalidOperation : SameButText .invalidOperation .invalidOperation
  | runtimeError (m m' : String) : SameButText (.runtimeError m) (.runtimeError m')
  | typeError (m m' : String) : SameButText (.typeError m) (.typeError m')
  | appendVersionMismatchError (expected observed : ℤ) :
    SameButText (.appendVersionMismatchError expected observed)
      (.appendVersionMismatchError expected observed)
  | staleWriteError (m m' : String) : SameButText (.staleWriteError m) (.staleWriteError m')
  | appendConflictError (m m' : String) :
    SameButText (.appendConflictError m) (.appendConflictError m')
  | storageInfrastructureError (m m' : String) :
    SameButText (.storageInfrastructureError m) (.storageInfrastructureError m')
  | projectionProgressConflictError (m m' : String) :
    SameButText (.projectionProgressConflictError m) (.projectionProgressConflictError m')
  | uniqueViolation (constraint : Option String) (m m' : String) :
    SameButText (.uniqueViolation constraint m) (.uniqueViolation constraint m')
  | lockNotAvailable (m m' : String) : SameButText (.lockNotAvailable m) (.lockNotAvailable m')
  | databaseError (sqlstate m m' : String) :
    SameButText (.databaseError sqlstate m) (.databaseError sqlstate m')
  | other (name m m' : String) : SameButText (.other name m) (.other name m')

theorem SameButText.refl (e : PyException) : SameButText e e := by
  cases e <;> constructor

/-- The same reply to the same statement, up to the text of an exception. -/
inductive SqlTexts : Exchange Operation Operation.Answer PyException →
    Exchange Operation Operation.Answer PyException → Prop where
  | ok (op : Operation) (a : op.Answer) : SqlTexts ⟨op,.ok a⟩ ⟨op,.ok a⟩
  | error (op : Operation) {e e' : PyException} (texts : SameButText e e') :
    SqlTexts ⟨op,.error e⟩ ⟨op,.error e'⟩

def sqlTexts : Correspondence Operation Operation.Answer PyException := ⟨Eq,SqlTexts⟩

/-- A rejection of the append itself, whose reason may quote an exception. -/
def PostgresWriteSideResult.AppendRejected (r : PostgresWriteSideResult) : Prop :=
  r.outcome = .admissionRejected ∧ r.admissionResult.isSome

def SameUnlessAppendRejected (r r' : PostgresWriteSideResult) : Prop :=
  r = r' ∨ r.AppendRejected ∧ r'.AppendRejected

def SameUnlessRejected (a a' : AdmissionResult) : Prop :=
  a = a' ∧ a.verdict = .admitted ∨ a.verdict ≠ .admitted ∧ a'.verdict ≠ .admitted

namespace WriteSide
variable {α : Type}

/-- Two outcomes that correspond under other texts. -/
abbrev TextBlind (P : α → α → Prop) (m n : PrimaryRoutine α) : Prop :=
  Routine.Similar sqlTexts Eq SameButText P m n

theorem textBlind_sql (op : Operation) :
    TextBlind Eq (sql op : PrimaryRoutine op.Answer) (sql op) := by
  refine Routine.similar_perform rfl (fun r r' h => ?_)
  cases h with
  | ok _ a => exact .ok rfl
  | error _ texts => exact .error texts

theorem textBlind_ofExcept (r : Except PyException α) :
    TextBlind Eq (Routine.ofExcept r : PrimaryRoutine α) (Routine.ofExcept r) := by
  refine Routine.similar_ofExcept ?_
  cases r with
  | ok a => exact .ok rfl
  | error e => exact .error (.refl e)

/-- The rule for sequencing after a step whose value does not depend on texts. -/
theorem textBlind_bind {β : Type} {P : β → β → Prop} {m : PrimaryRoutine α}
    {f g : α → PrimaryRoutine β} (hm : TextBlind Eq m m) (hf : ∀ a, TextBlind P (f a) (g a)) :
    TextBlind P (m >>= f) (m >>= g) := by
  refine Routine.similar_bind hm (fun a b hab => ?_)
  subst hab
  exact hf a

theorem translateAppendError_texts (gateName : String) (candidate : OrderEvent) {e e' : PyException}
    (h : SameButText e e') : Outcomes SameButText SameUnlessRejected
      (translateAppendError gateName candidate e) (translateAppendError gateName candidate e') := by
  have hrejected {verdict : AdmissionVerdict} {reason reason' : String} (hv : verdict ≠ .admitted) :
      SameUnlessRejected (rejected candidate verdict reason) (rejected candidate verdict reason') :=
    .inr ⟨hv,hv⟩
  cases h with
  | appendVersionMismatchError expected observed =>
    simp only [translateAppendError]
    cases AppendVersionMismatchEvidence.new expected observed with
    | error e => exact .error (.refl _)
    | ok evidence => exact .ok (.inr ⟨by simp [rejected],by simp [rejected]⟩)
  | uniqueViolation constraint m m' =>
    simp only [translateAppendError]
    split
    · exact .ok (hrejected (by decide))
    · exact .ok (hrejected (by decide))
  | valueError m m' => exact .ok (hrejected (by decide))
  | moneyValidationError m m' => exact .ok (hrejected (by decide))
  | staleWriteError m m' => exact .ok (hrejected (by decide))
  | appendConflictError m m' => exact .ok (hrejected (by decide))
  | lockNotAvailable m m' => exact .ok (hrejected (by decide))
  | storageInfrastructureError m m' => exact .ok (hrejected (by decide))
  | invalidOperation => exact .error .invalidOperation
  | runtimeError m m' => exact .error (.runtimeError m m')
  | typeError m m' => exact .error (.typeError m m')
  | projectionProgressConflictError m m' => exact .error (.projectionProgressConflictError m m')
  | databaseError sqlstate m m' => exact .error (.databaseError sqlstate m m')
  | other name m m' => exact .error (.other name m m')

theorem textBlind_append (candidate : OrderEvent) (expectedCurrentVersion : ℤ) :
    TextBlind Eq (PostgresEventStore.append candidate expectedCurrentVersion)
      (PostgresEventStore.append candidate expectedCurrentVersion) := by
  unfold PostgresEventStore.append
  refine textBlind_bind (textBlind_sql _) (fun currentVersionInStore => ?_)
  split
  · exact Routine.similar_raise (.refl _)
  · split
    · exact Routine.similar_raise (.refl _)
    · exact textBlind_sql (.insertOrderEvent candidate)

theorem textBlind_appendWithTranslation (gateName : String) (candidate : OrderEvent)
    (expectedCurrentVersion : ℤ) :
    TextBlind SameUnlessRejected (appendWithTranslation gateName candidate expectedCurrentVersion)
      (appendWithTranslation gateName candidate expectedCurrentVersion) := by
  unfold appendWithTranslation
  refine Routine.similar_bind (Routine.similar_attempt (textBlind_append _ _)) (fun r r' h => ?_)
  cases h with
  | ok _ => exact Routine.similar_pure (.inl ⟨rfl,rfl⟩)
  | error texts => exact Routine.similar_ofExcept (translateAppendError_texts gateName candidate texts)

variable (W : WriteSide) (s : RequestSignature)

theorem textBlind_unitOfWork {body : PrimaryRoutine PostgresWriteSideResult}
    (h : TextBlind SameUnlessAppendRejected body body) :
    TextBlind SameUnlessAppendRejected (primaryUnitOfWork body) (primaryUnitOfWork body) := by
  unfold primaryUnitOfWork
  refine textBlind_bind (textBlind_sql _) (fun autocommit => ?_)
  cases autocommit with
  | true => exact Routine.similar_raise (.refl _)
  | false =>
    refine Routine.similar_bind (Routine.similar_attempt h) (fun r r' hr => ?_)
    cases hr with
    | error texts =>
      exact textBlind_bind (textBlind_sql .rollback) (fun _ => Routine.similar_raise texts)
    | @ok r r' related =>
      rcases related with rfl | ⟨hr,hr'⟩
      · simp only
        split
        · exact textBlind_bind (textBlind_sql .commit) (fun _ => Routine.similar_pure (.inl rfl))
        · exact Routine.similar_pure (.inl rfl)
      · simp only [hr.1, hr'.1, reduceCtorEq, if_false]
        exact Routine.similar_pure (.inr ⟨hr,hr'⟩)

theorem textBlind_prepare (gate : Gate) (orderId : String) :
    TextBlind Eq (primaryPrepare gate orderId) (primaryPrepare gate orderId) := by
  cases gate with
  | optimistic => exact Routine.similar_pure rfl
  | pessimistic =>
    refine textBlind_bind (textBlind_sql _) (fun autocommit => ?_)
    cases autocommit with
    | true => exact Routine.similar_pure rfl
    | false => exact textBlind_bind (textBlind_sql _) (fun _ => Routine.similar_pure rfl)

theorem textBlind_check :
    TextBlind Eq (PostgresIdempotencyStore.check s) (PostgresIdempotencyStore.check s) :=
  textBlind_bind (textBlind_sql _) (fun _ => textBlind_ofExcept _)

theorem textBlind_load (orderId : String) :
    TextBlind Eq (PostgresEventStore.load orderId) (PostgresEventStore.load orderId) :=
  textBlind_bind (textBlind_sql _) (fun _ => Routine.similar_pure rfl)

theorem textBlind_primaryAppend (decision : IdempotencyDecision) (prepared : StreamAdmissionResult)
    (c : Candidate) : TextBlind SameUnlessAppendRejected (W.primaryAppend s decision prepared c)
      (W.primaryAppend s decision prepared c) := by
  unfold primaryAppend
  refine Routine.similar_bind (textBlind_appendWithTranslation _ _ _) (fun a a' h => ?_)
  rcases h with ⟨rfl,hadmitted⟩ | ⟨ha,ha'⟩
  · simp only [hadmitted, ne_eq, not_true_eq_false, if_false]
    refine textBlind_bind ?_ (fun _ => Routine.similar_pure (.inl rfl))
    exact textBlind_bind (textBlind_ofExcept _) (fun _ => textBlind_sql (.insertIdempotencyRecord _))
  · simp only [ha, ha', ne_eq, not_false_eq_true, if_true]
    exact textBlind_bind (textBlind_sql .rollback)
      (fun _ => Routine.similar_pure (.inr ⟨⟨rfl,rfl⟩,⟨rfl,rfl⟩⟩))

/-- A decided idempotency check or a rejected preparation ends the body. -/
theorem textBlind_rolledBack (r : PostgresWriteSideResult) :
    TextBlind SameUnlessAppendRejected (do sql .rollback; pure r) (do sql .rollback; pure r) :=
  textBlind_bind (textBlind_sql .rollback) (fun _ => Routine.similar_pure (.inl rfl))

theorem textBlind_primaryInTransaction :
    TextBlind SameUnlessAppendRejected (W.primaryInTransaction s) (W.primaryInTransaction s) := by
  refine textBlind_unitOfWork (textBlind_bind (textBlind_check s) (fun decision => ?_))
  split
  · exact textBlind_rolledBack _
  · refine textBlind_bind (textBlind_prepare W.gate s.orderId) (fun prepared => ?_)
    split
    · exact textBlind_rolledBack _
    · refine textBlind_bind (textBlind_load s.orderId) (fun history => ?_)
      refine textBlind_bind (textBlind_ofExcept _) (fun c => ?_)
      split
      · exact textBlind_rolledBack _
      · exact textBlind_primaryAppend W s decision prepared c

theorem textBlind_primaryAdmission (c : Candidate) :
    TextBlind SameUnlessAppendRejected (W.primaryAdmission s c) (W.primaryAdmission s c) := by
  refine textBlind_unitOfWork (textBlind_bind (textBlind_check s) (fun decision => ?_))
  split
  · exact textBlind_rolledBack _
  · refine textBlind_bind (textBlind_prepare W.gate s.orderId) (fun prepared => ?_)
    split
    · exact textBlind_rolledBack _
    · exact textBlind_primaryAppend W s decision prepared c

theorem textBlind_primaryReads : TextBlind Eq (primaryReads s) (primaryReads s) := by
  refine Routine.similar_tryFinally ?_ (textBlind_sql .rollback)
  refine textBlind_bind (textBlind_check s) (fun decision => ?_)
  split
  · exact Routine.similar_pure rfl
  · exact textBlind_bind (textBlind_load s.orderId) (fun _ => Routine.similar_pure rfl)

theorem textBlind_primaryPreTransaction :
    TextBlind SameUnlessAppendRejected (W.primaryPreTransaction s) (W.primaryPreTransaction s) := by
  refine textBlind_bind (textBlind_primaryReads s) (fun read => ?_)
  cases read with
  | inl result => exact Routine.similar_pure (.inl rfl)
  | inr found =>
    refine textBlind_bind (textBlind_ofExcept _) (fun c => ?_)
    split
    · exact Routine.similar_pure (.inl rfl)
    · exact textBlind_primaryAdmission W s c

theorem textBlind_primary :
    TextBlind SameUnlessAppendRejected (W.primary s) (W.primary s) := by
  unfold primary
  split
  · exact textBlind_primaryInTransaction W s
  · exact textBlind_primaryPreTransaction W s

end WriteSide

/-- Under other texts an invocation issues the same statements and raises the same exception,
or returns the same result unless the append was rejected. -/
theorem WriteInvocation.textBlind (v : WriteInvocation) : Program.Similar sqlTexts
    (Outcomes SameButText (fun d d' => SameUnlessAppendRejected d.producerValue.result
      d'.producerValue.result)) v.program v.program := by
  have hprimary : Program.Similar sqlTexts (Outcomes SameButText SameUnlessAppendRejected)
      v.primary v.primary :=
    (WriteSide.textBlind_primary v.writeSide v.signature () () rfl).bind (fun _ _ h => .done h.1)
  refine (hprimary.of_sim v.program_primary v.program_primary).mono (fun r r' h => ?_)
  obtain ⟨_,_,rfl,rfl,h⟩ := h
  cases r with
  | ok d =>
    cases r' with
    | ok d' =>
      cases h with
      | ok related => exact .ok related
    | error e => cases h
  | error e =>
    cases r' with
    | ok d' => cases h
    | error e' =>
      cases h with
      | error related => exact .error related

end StreamingCompass
