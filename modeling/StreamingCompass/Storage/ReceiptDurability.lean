import StreamingCompass.Storage.ReceiptTransaction

/-! # Durability of a receipt transaction

Whatever the factory, the connection and the store return or raise, the owner returns a
coherent result. It reports what the commit did, and clean-up changes nothing of that.
-/
namespace StreamingCompass
open Interleaving

variable {Receipt : Type}

abbrev ReceiptConnectionPost (Receipt α : Type) : Type :=
  Routine.Post (ReceiptConnectionOperation Receipt) ReceiptConnectionOperation.Answer
    ReceiptException Unit α
abbrev ReceiptConnectionExchange (Receipt : Type) : Type :=
  Exchange (ReceiptConnectionOperation Receipt) ReceiptConnectionOperation.Answer ReceiptException

def isCleanUp : ReceiptConnectionExchange Receipt → Bool
  | ⟨.rollback,_⟩ | ⟨.close,_⟩ => true
  | _ => false

def isClose : ReceiptConnectionExchange Receipt → Bool
  | ⟨.close,_⟩ => true
  | _ => false

/-- The factory handed a connection over. -/
def isAcquisition : ReceiptConnectionExchange Receipt → Bool
  | ⟨.connectionFactory,.ok _⟩ => true
  | _ => false

def commitDurability : ReceiptConnectionLog Receipt → DecisionReceiptTransactionDurability
  | ⟨.commit,.ok _⟩ :: _ => .committed
  | ⟨.commit,.error e⟩ :: _ =>
    if e.isCharacterizedIdleOwnerTimeout then .notCommitted else .unknown
  | _ :: rest => commitDurability rest
  | [] => .notCommitted

/-- What a result says about the exchanges of its transaction. -/
structure Durable (log : ReceiptConnectionLog Receipt)
    (r : PostgresDecisionReceiptTransactionResult Receipt) : Prop where
  committed : r.durability = .committed ↔ ⟨.commit,.ok ()⟩ ∈ log
  unknown : r.durability = .unknown ↔
    ∃ e, ⟨.commit,.error e⟩ ∈ log ∧ e.isCharacterizedIdleOwnerTimeout = false
  notCommitted : r.durability = .notCommitted ↔ ⟨.commit,.ok ()⟩ ∉ log ∧
    ∀ e, ⟨.commit,.error e⟩ ∈ log → e.isCharacterizedIdleOwnerTimeout = true
  acquiredOnce : log.countP isAcquisition ≤ 1
  closed : log.countP isClose = log.countP isAcquisition
  cleanUp : r.durability = commitDurability (log.filter (fun x => !isCleanUp x))

/-! ## Clean-up -/

/-- What clean-up adds to the exchanges of a transaction. -/
inductive CleanedUp (log : ReceiptConnectionLog Receipt) : ReceiptConnectionLog Receipt → Prop where
  | closed (r : @ReceiptConnectionReply Receipt .close) : CleanedUp log (⟨.close,r⟩ :: log)
  | rolledBack (r : @ReceiptConnectionReply Receipt .close)
    (r' : @ReceiptConnectionReply Receipt .rollback) :
    CleanedUp log (⟨.close,r⟩ :: ⟨.rollback,r'⟩ :: log)

namespace CleanedUp
variable {log log' : ReceiptConnectionLog Receipt}

theorem commit_mem (h : CleanedUp log log') (r : @ReceiptConnectionReply Receipt .commit) :
    (⟨.commit,r⟩ : ReceiptConnectionExchange Receipt) ∈ log' ↔ ⟨.commit,r⟩ ∈ log := by
  cases h with
  | closed => simp
  | rolledBack => simp

theorem closes (h : CleanedUp log log') : log'.countP isClose = log.countP isClose + 1 := by
  cases h with
  | closed => exact List.countP_cons_of_pos rfl
  | rolledBack =>
    rw [List.countP_cons_of_pos rfl, List.countP_cons_of_neg (by exact Bool.false_ne_true)]

theorem acquires (h : CleanedUp log log') : log'.countP isAcquisition = log.countP isAcquisition := by
  cases h with
  | closed => simp [isAcquisition]
  | rolledBack => simp [isAcquisition]

theorem filter (h : CleanedUp log log') :
    log'.filter (fun x => !isCleanUp x) = log.filter (fun x => !isCleanUp x) := by
  cases h with
  | closed => simp [isCleanUp]
  | rolledBack => simp [isCleanUp]

end CleanedUp

/-- Clean-up of an acquired connection keeps what a result says. -/
theorem Durable.of_cleanedUp {log log' : ReceiptConnectionLog Receipt}
    {r : PostgresDecisionReceiptTransactionResult Receipt} (h : CleanedUp log log')
    (hacquired : log.countP isAcquisition = 1) (hopen : log.countP isClose = 0)
    (committed : r.durability = .committed ↔ ⟨.commit,.ok ()⟩ ∈ log)
    (unknown : r.durability = .unknown ↔
      ∃ e, ⟨.commit,.error e⟩ ∈ log ∧ e.isCharacterizedIdleOwnerTimeout = false)
    (hdurability : r.durability = commitDurability (log.filter (fun x => !isCleanUp x))) :
    Durable log' r where
  committed := by rw [h.commit_mem, committed]
  unknown := by simp only [h.commit_mem, unknown]
  notCommitted := by
    simp only [h.commit_mem]
    rw [← committed]
    cases hd : r.durability with
    | committed => simp
    | notCommitted =>
      have hnone : ¬∃ e, (⟨.commit,.error e⟩ : ReceiptConnectionExchange Receipt) ∈ log ∧
          e.isCharacterizedIdleOwnerTimeout = false := by rw [← unknown, hd]; simp
      simp only [reduceCtorEq, not_false_eq_true, true_and, true_iff]
      intro e he
      exact (Bool.eq_false_or_eq_true _).resolve_right (fun hf => hnone ⟨e,he,hf⟩)
    | unknown =>
      obtain ⟨e,he,hf⟩ := unknown.mp hd
      simp only [reduceCtorEq, not_false_eq_true, true_and, false_iff]
      intro hall
      rw [hall e he] at hf
      cases hf
  acquiredOnce := by rw [h.acquires, hacquired]
  closed := by rw [h.closes, h.acquires, hopen, hacquired]
  cleanUp := by rw [h.filter, hdurability]

/-! ## Exits -/

/-- An exit of an acquired connection: clean-up, and a result of the given durability. -/
def ExitsWith (durability : DecisionReceiptTransactionDurability) (log : ReceiptConnectionLog Receipt) :
    ReceiptConnectionPost Receipt (PostgresDecisionReceiptTransactionResult Receipt) :=
  fun log' out _ => ∃ r, out = .ok r ∧ r.durability = durability ∧ CleanedUp log log'

def anyReply : Contract (ReceiptConnectionOperation Receipt) ReceiptConnectionOperation.Answer
    ReceiptException := ⟨fun _ _ _ => True,fun _ _ => True⟩

namespace PostgresDecisionReceiptTransactionOwner
variable {log : ReceiptConnectionLog Receipt}

theorem onConnection_meets {op : ReceiptConnectionOperation Receipt}
    {Q : ReceiptConnectionPost Receipt op.Answer} :
    (onConnection op).Meets anyReply () log Q ↔ ∀ r, Q (⟨op,r⟩ :: log) r () := by
  simp [onConnection, anyReply]

theorem transactionResult_meets {e : TransactionEvidence Receipt}
    (h : e.validateResultCoherence = .ok ())
    {Q : ReceiptConnectionPost Receipt (PostgresDecisionReceiptTransactionResult Receipt)} :
    (transactionResult e).Meets anyReply () log Q ↔ Q log (.ok ⟨e,h⟩) () := by
  rw [transactionResult, PostgresDecisionReceiptTransactionResult.make_ok h]
  rfl

theorem closeConnection_meets {success : DecisionReceiptConnectionDisposition}
    {Q : ReceiptConnectionPost Receipt (DecisionReceiptConnectionDisposition ×
      List DecisionReceiptCleanupFailureCategory × Option String)}
    (hok : Q (⟨.close,.ok ()⟩ :: log) (.ok (success,[],none)) ())
    (herror : ∀ e : ReceiptException, Q (⟨.close,.error e⟩ :: log)
      (.ok (.cleanupFailed,[.connectionCloseFailed],e.safeSqlstate)) ()) :
    (closeConnection success).Meets anyReply () log Q := by
  rw [closeConnection, Routine.meets_bind, Routine.meets_attempt]
  refine onConnection_meets.mpr (fun r => ?_)
  cases r with
  | ok u => exact hok
  | error e => exact herror e

/-- A result that is coherent with either end of its connection. -/
theorem closed_exits {base : ReceiptConnectionLog Receipt}
    (hclean : ∀ r, CleanedUp base (⟨.close,r⟩ :: log)) {success : DecisionReceiptConnectionDisposition}
    {evidence : DecisionReceiptConnectionDisposition × List DecisionReceiptCleanupFailureCategory ×
      Option String → TransactionEvidence Receipt}
    {durability : DecisionReceiptTransactionDurability}
    (hdurability : ∀ end_, (evidence end_).durability = durability)
    (hok : (evidence (success,[],none)).validateResultCoherence = .ok ())
    (herror : ∀ s, (evidence (.cleanupFailed,[.connectionCloseFailed],s)).validateResultCoherence =
      .ok ()) :
    (closeConnection success >>= fun end_ => transactionResult (evidence end_)).Meets anyReply () log
      (ExitsWith durability base) := by
  rw [Routine.meets_bind]
  apply closeConnection_meets
  · exact (transactionResult_meets hok).mpr ⟨_,rfl,hdurability _,hclean _⟩
  · intro e
    exact (transactionResult_meets (herror _)).mpr ⟨_,rfl,hdurability _,hclean _⟩

theorem idleOwnerTimeoutResult_exits (error : ReceiptException)
    (statement : Option (DecisionReceiptInsertResult Receipt)) :
    (idleOwnerTimeoutResult error statement).Meets anyReply () log (ExitsWith .notCommitted log) :=
  closed_exits .closed (fun _ => rfl) rfl (fun _ => rfl)

theorem commitAmbiguousResult_exits (error : ReceiptException)
    (statement : DecisionReceiptInsertResult Receipt) :
    (commitAmbiguousResult error statement).Meets anyReply () log (ExitsWith .unknown log) :=
  closed_exits .closed (fun _ => rfl) rfl (fun _ => rfl)

theorem committedResult_exits (statement : DecisionReceiptInsertResult Receipt) :
    (committedResult statement).Meets anyReply () log (ExitsWith .committed log) :=
  closed_exits .closed (fun _ => rfl) rfl (fun _ => rfl)

theorem autocommitEnabled_exits :
    (connectionInvariantFailureResult none .autocommitEnabled false).Meets anyReply () log
      (@ExitsWith Receipt .notCommitted log) :=
  closed_exits .closed (fun _ => rfl) rfl (fun _ => rfl)

theorem transactionNotIdle_exits :
    (connectionInvariantFailureResult none .transactionNotIdle true).Meets anyReply () log
      (@ExitsWith Receipt .notCommitted log) :=
  closed_exits .closed (fun _ => rfl) rfl (fun _ => rfl)

theorem connectionStateUnavailable_exits (error : ReceiptException) :
    (connectionInvariantFailureResult (some error) .connectionStateUnavailable true).Meets anyReply ()
      log (@ExitsWith Receipt .notCommitted log) :=
  closed_exits .closed (fun _ => rfl) rfl (fun _ => rfl)

/-- The failures before the commit, a conflict with its error and the others without. -/
def Precommit (category : DecisionReceiptTransactionFailureCategory)
    (conflict : Option DecisionReceiptConflictError) : Prop :=
  category = .conflict ∧ conflict.isSome ∨
    (category = .timeoutConfigurationFailed ∨ category = .storeOperationFailed) ∧ conflict = none

theorem precommitFailureResult_exits (error : ReceiptException)
    {category : DecisionReceiptTransactionFailureCategory}
    {conflict : Option DecisionReceiptConflictError} (h : Precommit category conflict) :
    (precommitFailureResult error category conflict).Meets anyReply () log
      (@ExitsWith Receipt .notCommitted log) := by
  rw [precommitFailureResult, Routine.meets_bind, Routine.meets_attempt]
  refine onConnection_meets.mpr (fun r => ?_)
  rcases r with e | u
  all_goals
    refine closed_exits (fun r => .rolledBack r _) (fun _ => rfl) ?_ (fun _ => ?_)
    all_goals
      rcases h with ⟨rfl,hc⟩ | ⟨rfl | rfl,rfl⟩
      · obtain ⟨c,rfl⟩ := Option.isSome_iff_exists.mp hc
        rfl
      · rfl
      · rfl

theorem failedBeforeCommit_exits (error : ReceiptException)
    {category : DecisionReceiptTransactionFailureCategory}
    (h : category = .timeoutConfigurationFailed ∨ category = .storeOperationFailed) :
    (failedBeforeCommit error category).Meets anyReply () log (@ExitsWith Receipt .notCommitted log) := by
  unfold failedBeforeCommit
  split
  · exact idleOwnerTimeoutResult_exits error none
  · exact precommitFailureResult_exits error (.inr ⟨h,rfl⟩)

/-! ## The whole transaction -/

/-- What a transaction ends with. -/
def Ended : ReceiptConnectionPost Receipt (PostgresDecisionReceiptTransactionResult Receipt) :=
  fun log out _ => ∃ r, out = .ok r ∧ Durable log r

/-- An exit on the acquired connection, by what its exchanges say. -/
theorem ended_of_exits {m : ReceiptConnectionRoutine Receipt
      (PostgresDecisionReceiptTransactionResult Receipt)}
    {durability : DecisionReceiptTransactionDurability}
    (h : m.Meets anyReply () log (ExitsWith durability log))
    (hacquired : log.countP isAcquisition = 1) (hopen : log.countP isClose = 0)
    (committed : durability = .committed ↔ ⟨.commit,.ok ()⟩ ∈ log)
    (unknown : durability = .unknown ↔
      ∃ e, ⟨.commit,.error e⟩ ∈ log ∧ e.isCharacterizedIdleOwnerTimeout = false)
    (hdurability : durability = commitDurability (log.filter (fun x => !isCleanUp x))) :
    m.Meets anyReply () log Ended := by
  refine h.mono (fun log' out _ hexit => ?_)
  obtain ⟨r,rfl,rfl,hclean⟩ := hexit
  exact ⟨r,rfl,.of_cleanedUp hclean hacquired hopen committed unknown hdurability⟩

theorem ended_before_commit {m : ReceiptConnectionRoutine Receipt
      (PostgresDecisionReceiptTransactionResult Receipt)}
    (h : m.Meets anyReply () log (ExitsWith .notCommitted log))
    (hacquired : log.countP isAcquisition = 1) (hopen : log.countP isClose = 0)
    (hcommit : ∀ r, (⟨.commit,r⟩ : ReceiptConnectionExchange Receipt) ∉ log) :
    m.Meets anyReply () log Ended := by
  refine ended_of_exits h hacquired hopen (by simp [hcommit]) (by simp [hcommit]) ?_
  have hnone : ∀ l : ReceiptConnectionLog Receipt,
      (∀ r, (⟨.commit,r⟩ : ReceiptConnectionExchange Receipt) ∉ l) →
      commitDurability l = .notCommitted := by
    intro l hl
    induction l with
    | nil => rfl
    | cons x rest ih =>
      have hrest := ih (fun r hr => hl r (List.mem_cons_of_mem _ hr))
      obtain ⟨op,r⟩ := x
      cases op with
      | commit => exact absurd (List.mem_cons_self) (hl r)
      | _ => exact hrest
  exact (hnone _ (fun r hr => hcommit r (List.mem_filter.mp hr).1)).symm

theorem persistOn_ended (o : PostgresDecisionReceiptTransactionOwner) (receipt : Receipt)
    (provenance : DecisionReceiptMaterializationProvenance)
    (hacquired : log.countP isAcquisition = 1) (hopen : log.countP isClose = 0)
    (hcommit : ∀ r, (⟨.commit,r⟩ : ReceiptConnectionExchange Receipt) ∉ log) :
    (o.persistOn receipt provenance).Meets anyReply () log Ended := by
  rw [persistOn, Routine.meets_bind, Routine.meets_attempt]
  refine onConnection_meets.mpr (fun timeout => ?_)
  cases timeout with
  | error e =>
    exact ended_before_commit (failedBeforeCommit_exits e (.inl rfl)) hacquired hopen
      (by simpa using hcommit)
  | ok u =>
    simp only [Routine.meets_bind, Routine.meets_attempt]
    refine onConnection_meets.mpr (fun inserted => ?_)
    cases inserted with
    | error e =>
      simp only
      split
      · exact ended_before_commit (precommitFailureResult_exits e (.inl ⟨rfl,rfl⟩)) hacquired hopen
          (by simpa using hcommit)
      · exact ended_before_commit (failedBeforeCommit_exits e (.inr rfl)) hacquired hopen
          (by simpa using hcommit)
    | ok statement =>
      simp only [Routine.meets_bind, Routine.meets_attempt]
      refine onConnection_meets.mpr (fun commit => ?_)
      cases commit with
      | ok u =>
        exact ended_of_exits (committedResult_exits statement) hacquired hopen (by simp)
          (by simp [hcommit]) rfl
      | error e =>
        simp only
        split
        · rename_i htimeout
          refine ended_of_exits (idleOwnerTimeoutResult_exits e _) hacquired hopen
            (by simp [hcommit]) (by simp [hcommit, htimeout]) ?_
          exact (if_pos htimeout).symm
        · rename_i htimeout
          refine ended_of_exits (commitAmbiguousResult_exits e _) hacquired hopen
            (by simp [hcommit]) (by simpa [hcommit] using htimeout) ?_
          exact (if_neg htimeout).symm

theorem entryFailure_ended {m : ReceiptConnectionRoutine Receipt
      (PostgresDecisionReceiptTransactionResult Receipt)}
    {Q : ReceiptConnectionPost Receipt (PostgresDecisionReceiptTransactionResult Receipt)}
    (h : m.Meets anyReply () log Ended) (hq : ∀ log r, Durable log r → Q log (.ok r) ()) :
    m.Meets anyReply () log Q := by
  refine h.mono (fun log' out _ hended => ?_)
  obtain ⟨r,rfl,hd⟩ := hended
  exact hq log' r hd

theorem persist_ended (o : PostgresDecisionReceiptTransactionOwner) (receipt : Receipt)
    (provenance : DecisionReceiptMaterializationProvenance) :
    (o.persist receipt provenance).Meets anyReply () [] Ended := by
  rw [persist, Routine.meets_bind, Routine.meets_attempt]
  refine onConnection_meets.mpr (fun connection => ?_)
  cases connection with
  | error e =>
    refine (transactionResult_meets rfl).mpr ⟨_,rfl,?_⟩
    exact ⟨by simp,by simp,by simp,by simp [isAcquisition],by simp [isClose, isAcquisition],rfl⟩
  | ok u =>
    simp only [Routine.meets_bind, validateConnectionEntry, Routine.meets_attempt]
    refine onConnection_meets.mpr (fun autocommit => ?_)
    rcases autocommit with e | autocommit
    · simp only [Routine.meets_bind, Routine.meets_pure]
      refine entryFailure_ended ?_ (fun _ r hd => ⟨r,rfl,hd⟩)
      exact ended_before_commit (connectionStateUnavailable_exits e) rfl rfl (by simp)
    · cases autocommit with
      | true =>
        simp only [Routine.meets_bind, Routine.meets_pure]
        refine entryFailure_ended ?_ (fun _ r hd => ⟨r,rfl,hd⟩)
        exact ended_before_commit autocommitEnabled_exits rfl rfl (by simp)
      | false =>
        simp only [Routine.meets_bind, Routine.meets_attempt]
        refine onConnection_meets.mpr (fun status => ?_)
        rcases status with e | status
        · simp only [Routine.meets_bind, Routine.meets_pure]
          refine entryFailure_ended ?_ (fun _ r hd => ⟨r,rfl,hd⟩)
          exact ended_before_commit (connectionStateUnavailable_exits e) rfl rfl (by simp)
        · simp only
          split
          · simp only [Routine.meets_bind, Routine.meets_pure]
            refine entryFailure_ended ?_ (fun _ r hd => ⟨r,rfl,hd⟩)
            exact ended_before_commit transactionNotIdle_exits rfl rfl (by simp)
          · exact o.persistOn_ended receipt provenance rfl rfl (by simp)

/-- Whatever its steps return or raise, `persist` returns a result that says what its commit
did, and closes the connection it acquired exactly once. -/
theorem persist_durability (o : PostgresDecisionReceiptTransactionOwner) (receipt : Receipt)
    (provenance : DecisionReceiptMaterializationProvenance) :
    (o.persist receipt provenance).Meets anyReply () [] (fun log out _ =>
      ∃ r, out = .ok r ∧ Durable log r) := o.persist_ended receipt provenance

end PostgresDecisionReceiptTransactionOwner
end StreamingCompass
