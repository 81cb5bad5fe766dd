import Rokad.Finance.Settlement

/-!
# Settled transactions

A transaction is settled exactly when it has a receipt. In an interleaving the reading on which a
call marks a transaction as failed may be old: a settlement committed since is overwritten.

* `Lawful.exec`: every call of the module keeps the law when it runs alone.
* `settled_stays_settled`: so does an interleaving of callbacks, if none of them is overtaken: no
  settlement of a transaction is committed between a call's reading of it and the call's writing that
  it failed (`NoneOvertaken`).
* `not_lawful_of_late_cancellation`: a cancellation that is overtaken.
-/

namespace Rokad.Finance

open Rokad.Base verifyPayment

def Settled (db : Db) (k : Id) : Prop :=
  (db.transactions.find? k).any (·.status = .successful) = true
deriving Decidable

/-- A transaction is successful if and only if a receipt was issued for it. -/
def Lawful (db : Db) : Prop := ∀ k, Settled db k ↔ Receipted db k

/-! ### Statements -/

section

variable {db db' : Db}

theorem settled_congr (transactions : db'.transactions = db.transactions) (k : Id) :
    Settled db' k ↔ Settled db k := by
  unfold Settled
  rw [transactions]

theorem receipted_congr (receipts : db'.receipts = db.receipts) (k : Id) :
    Receipted db' k ↔ Receipted db k := by
  unfold Receipted
  rw [receipts]

theorem receipted_createReceipt {row : FeeReceipt}
    (done : db.write (.createReceipt row) = .ok db') (k : Id) :
    Receipted db' k ↔ Receipted db k ∨ row.transactionId = some k := by
  have inserted := Db.write_receipts done
  simp only [Receipted, mem_insert inserted]
  constructor
  · rintro ⟨r, mem | rfl, same⟩
    · exact Or.inl ⟨r, mem, same⟩
    · exact Or.inr same
  · rintro (⟨r, mem, same⟩ | same)
    · exact ⟨r, Or.inl mem, same⟩
    · exact ⟨row, Or.inr rfl, same⟩

theorem settled_createTransaction {row : PaymentTransaction}
    (done : db.write (.createTransaction row) = .ok db') (k : Id) :
    Settled db' k ↔ if k = row.id then row.status = .successful else Settled db k := by
  have found := Table.find?_insert (Db.write_transactions done) k
  unfold Settled
  rw [found]
  by_cases same : k = row.id
  · rw [if_pos same, if_pos (show Record.key row = k from same.symm)]
    simp
  · rw [if_neg same, if_neg (show Record.key row ≠ k from fun h => same h.symm)]

/-- An update with a new status settles or unsettles its own transaction only. -/
theorem settled_updateTransaction {id : Id} {data : TransactionUpdate} {status : PaymentStatus}
    (done : db.write (.updateTransaction id data) = .ok db') (new : data.status = some status)
    (k : Id) : Settled db' k ↔ if k = id then status = .successful else Settled db k := by
  have updated := Db.write_transactions done
  have found := Table.find?_update updated k
  unfold Settled
  rw [found]
  by_cases same : k = id
  · subst same
    obtain ⟨row, here⟩ := Table.find?_of_update updated
    simp [here, TransactionUpdate.apply, new]
  · simp [same]

/-- No receipt is issued for a transaction that does not exist. -/
theorem not_receipted_fresh (db : Db) : ¬ Receipted db db.transactions.fresh := by
  rintro ⟨r, mem, same⟩
  have present := db.foreignKeys.receipt_transaction r mem
  simp only [same] at present
  obtain ⟨x, found⟩ := has_some_iff.mp present
  rw [find?_fresh] at found
  cases found

/-! ### Calls that run alone -/

/-- Statements that neither touch a transaction nor issue a receipt for one. -/
def Statement.Quiet : Statement → Prop
  | .createTransaction _ | .updateTransaction .. => False
  | .createReceipt row => row.transactionId = none
  | _ => True

theorem Lawful.quiet {s : Statement} (lawful : Lawful db) (quiet : s.Quiet)
    (done : db.write s = .ok db') : Lawful db' := by
  intro k
  have transactions := Db.write_transactions done
  have receipts := Db.write_receipts done
  cases s <;> simp only at transactions receipts
  case createTransaction => exact quiet.elim
  case updateTransaction => exact quiet.elim
  case createReceipt row =>
      rw [settled_congr transactions, receipted_createReceipt done, lawful k,
        show row.transactionId = none from quiet]
      simp
  all_goals rw [settled_congr transactions, receipted_congr receipts, lawful k]

theorem Lawful.markFailed {id : Id} {message : String} (lawful : Lawful db)
    (open_ : ¬ Settled db id) (done : markFailed id message db = .ok db') : Lawful db' := by
  intro k
  rw [settled_updateTransaction done rfl, receipted_congr (Db.write_receipts done)]
  by_cases same : k = id
  · subst same
    simpa using (lawful k).not.mp open_
  · rw [if_neg same, lawful k]

theorem settled_settle {env : Env} {t : Id} {reading : VerifyReading} {result : PaymentVerifyResult}
    {receipt : FeeReceipt} (done : settle env t reading result db = .ok (db', receipt)) (k : Id) :
    Settled db' k ↔ k = reading.transaction.id ∨ Settled db k := by
  obtain ⟨c, db₁, db₂, db₃, -, marked, credited, debited, -, receipted⟩ := settle_ok done
  have transactions : db₃.transactions = db₁.transactions :=
    (debitContract_frame debited).2.2.1.trans (creditInstallment_frame credited).2.2.1
  rw [settled_congr (Db.write_transactions receipted), settled_congr transactions,
    settled_updateTransaction marked rfl]
  by_cases same : k = reading.transaction.id <;> simp [same]

theorem Lawful.settle {env : Env} {t : Id} {reading : VerifyReading} {result : PaymentVerifyResult}
    {receipt : FeeReceipt} (lawful : Lawful db)
    (done : settle env t reading result db = .ok (db', receipt)) : Lawful db' := by
  obtain ⟨c, db₁, db₂, db₃, -, marked, credited, debited, rfl, receipted⟩ := settle_ok done
  have receipts : db₃.receipts = db.receipts :=
    (debitContract_frame debited).2.2.2.2.trans
      ((creditInstallment_frame credited).2.2.2.2.trans (Db.write_receipts marked))
  intro k
  rw [settled_settle done, receipted_createReceipt receipted, receipted_congr receipts]
  by_cases same : k = reading.transaction.id
  · simp [same, verifyPayment.receipt]
  · simp [same, Ne.symm same, verifyPayment.receipt, lawful k]

theorem Lawful.initiateOnlinePayment {env : Env} {t r : Id} (lawful : Lawful db)
    (provider : PaymentGatewayProvider) (dto : InitiateOnlinePaymentDto) :
    Lawful (initiateOnlinePayment env provider t r dto db).1 := by
  rcases initiateOnlinePayment_cases env provider t r dto db with
    same | ⟨db₁, transaction, reading, created, outcome⟩
  · rwa [same]
  obtain ⟨_, -, -, -, -, rfl, written⟩ := initiateOnlinePayment.create_ok created
  have opened : Lawful db₁ := by
    intro k
    rw [settled_createTransaction written, receipted_congr (Db.write_receipts written)]
    by_cases same : k = db.transactions.fresh
    · simp [same, initiateOnlinePayment.transaction, not_receipted_fresh]
    · simp [same, initiateOnlinePayment.transaction, lawful k]
  rcases outcome with same | ⟨authority, updated⟩
  · rwa [same]
  · intro k
    have found := Table.find?_update (Db.write_transactions updated) k
    rw [receipted_congr (Db.write_receipts updated), ← opened k]
    unfold Settled
    rw [found]
    cases db₁.transactions.find? k with
    | none => rfl
    | some x => by_cases same : k = db.transactions.fresh <;>
        simp [same, initiateOnlinePayment.transaction, TransactionUpdate.apply]

theorem Lawful.recordOfflinePayment {env : Env} {t r : Id} {dto : RecordOfflinePaymentDto}
    {transaction : PaymentTransaction} {receipt : FeeReceipt} (lawful : Lawful db)
    (done : recordOfflinePayment env t r dto db = .ok (db', transaction, receipt)) :
    Lawful db' := by
  obtain ⟨inst, amount, db₁, db₂, db₃, -, -, -, rfl, created, credited, debited, -, -, same,
    receipted⟩ := recordOfflinePayment_ok done
  have transactions : db₃.transactions = db₁.transactions :=
    (debitContract_frame debited).2.2.1.trans (Db.write_transactions credited)
  have receipts : db₃.receipts = db.receipts :=
    (debitContract_frame debited).2.2.2.2.trans
      ((Db.write_receipts credited).trans (Db.write_receipts created))
  intro k
  rw [settled_congr (Db.write_transactions receipted), settled_congr transactions,
    settled_createTransaction created, receipted_createReceipt receipted,
    receipted_congr receipts, same]
  by_cases fresh : k = db.transactions.fresh
  · simp [fresh, recordOfflinePayment.transaction]
  · simp [fresh, Ne.symm fresh, recordOfflinePayment.transaction, lawful k]

end

/-- A transaction that was read as open is not settled. -/
theorem not_settled_of_read {db : Db} {t : Id} {dto : VerifyPaymentDto} {reading : VerifyReading}
    (read : verifyPayment.read t dto db = .ok reading)
    (open_ : reading.transaction.status ≠ .successful) : ¬ Settled db reading.transaction.id := by
  simpa [Settled, verifyPayment.read_ok read] using open_

theorem Lawful.executes {P : Db → Statement → Prop} {db db' : Db} (lawful : Lawful db)
    (executes : Executes P db db') (quiet : ∀ d s, P d s → s.Quiet) : Lawful db' :=
  executes.keeps (fun d s _ admitted done lawful => lawful.quiet (quiet d s admitted) done) lawful

/-- A call that runs alone keeps the law. -/
theorem Lawful.exec {db : Db} (lawful : Lawful db) (call : Call) : Lawful (exec db call) := by
  have executes := exec_executes db call
  cases call with
  | initiateOnlinePayment env provider t r dto => exact lawful.initiateOnlinePayment provider dto
  | verifyPayment env provider lock t dto =>
    simp only [Finance.exec]
    rcases verifyPayment_cases env provider lock t dto db with
      ⟨reading, result, -, -, same | ⟨receipt, done⟩⟩ |
      ⟨-, same | ⟨reading, message, read, open_, written⟩⟩
    · rwa [same]
    · exact lawful.settle done
    · rwa [same]
    · exact lawful.markFailed (not_settled_of_read read open_) written
  | recordOfflinePayment env t r dto =>
    cases done : Finance.recordOfflinePayment env t r dto db with
    | error e => simpa only [Finance.exec, done, committed] using lawful
    | ok reply => simpa only [Finance.exec, done, committed] using lawful.recordOfflinePayment done
  | updateChequeStatus env t p r dto =>
    refine lawful.executes executes fun d s admitted => ?_
    cases s <;> first | exact admitted | trivial
  | _ =>
    refine lawful.executes executes fun d s admitted => ?_
    cases s <;> first | exact admitted | trivial

/-! ### Calls in progress -/

section

variable {ι : Type} [DecidableEq ι]

/-- The call is about to read its transaction. -/
def VerifyPhase.reads : VerifyPhase → Bool
  | .finding => true
  | _ => false

/-- Wherever a call reads at one move and at a later one marks a transaction as failed, no settlement
of the transaction is committed by the moves between the two. -/
def NoneOvertaken (calls : ι → VerifyCall) (start : Verifications ι) (moves : List (VerifyMove ι)) :
    Prop :=
  ∀ n < moves.length, ∀ m < n,
    match moves[m]?, moves[n]? with
    | some (.thread i _), some (.thread j _) => i = j →
      ((run (verifyStep calls) start (moves.take m)).own i).reads = true →
        ∀ k ∈ ((run (verifyStep calls) start (moves.take n)).own i).fails,
          k ∉ settledOrder calls (run (verifyStep calls) start (moves.take (m + 1)))
            ((moves.take n).drop (m + 1))
    | _, _ => True

instance (calls : ι → VerifyCall) (start : Verifications ι) (moves : List (VerifyMove ι)) :
    Decidable (NoneOvertaken calls start moves) := by
  unfold NoneOvertaken
  refine @Nat.decidableBallLT _ _ fun n _ => @Nat.decidableBallLT _ _ fun m _ => ?_
  split <;> infer_instance

/-- The transaction that a call has read as open and not yet written. -/
def VerifyPhase.open? : VerifyPhase → Option Id
  | .cancelling reading | .asking reading | .concluding reading _ => some reading.transaction.id
  | _ => none

theorem VerifyPhase.open?_of_fails {phase : VerifyPhase} {k : Id} (fails : phase.fails = some k) :
    phase.open? = some k := by
  cases phase with
  | cancelling reading => exact fails
  | concluding reading result =>
    simp only [VerifyPhase.fails] at fails
    split at fails
    · cases fails
    · exact fails
  | _ => cases fails

/-- What a step of a call leaves it to write it has just read as open, or had before; it has not
touched the database. -/
theorem act_open? {call : VerifyCall} {s : VerifyState} {phase : VerifyPhase}
    {answer : GatewayAnswer} {k : Id} (opens : (call.act s phase answer).2.open? = some k) :
    (call.act s phase answer).1.db = s.db ∧
      (phase.open? = some k ∨ phase.reads = true ∧ ¬ Settled s.db k) := by
  cases phase with
  | locking =>
    simp only [VerifyCall.act] at opens
    split at opens
    · split at opens <;> cases opens
    · cases opens
  | refused =>
    simp only [VerifyCall.act] at opens
    split at opens <;> cases opens
  | finding =>
    simp only [VerifyCall.act] at opens ⊢
    cases read : verifyPayment.read call.tenantId call.dto s.db with
    | error e =>
      rw [read] at opens
      cases opens
    | ok reading =>
      rw [read] at opens
      refine ⟨rfl, .inr ⟨rfl, ?_⟩⟩
      dsimp only [afterReading] at opens
      split at opens
      · cases opens
      · rename_i isOpen
        have same : reading.transaction.id = k := by
          split at opens <;> exact Option.some.inj opens
        exact same ▸ not_settled_of_read read isOpen
  | asking reading =>
    cases answer with
    | error e => cases opens
    | ok result => exact ⟨rfl, .inl opens⟩
  | _ => cases opens

/-- Whatever is settled after a move was settled before, or is settled by it. -/
theorem settled_verifyStep {calls : ι → VerifyCall} {p : Verifications ι} {move : VerifyMove ι}
    {k : Id} (settled : Settled (verifyStep calls p move).shared.db k) :
    Settled p.shared.db k ∨ settles calls p move = some k := by
  rcases verifyStep_cases calls p move with ⟨same, -⟩ |
    ⟨i, answer, reading, result, receipt, -, -, settles, done⟩ |
    ⟨i, answer, id, message, -, -, -, written⟩
  · exact .inl (same ▸ settled)
  · rcases (settled_settle done k).mp settled with rfl | before
    · exact .inr settles
    · exact .inl before
  · rw [settled_updateTransaction written rfl] at settled
    split at settled
    · cases settled
    · exact .inl settled

/-- **What a call has read as open.** It did so at a move, and if the transaction is settled by now,
its settlement was committed since. -/
theorem settled_since_reading {calls : ι → VerifyCall} {s : VerifyState}
    {history : List (VerifyMove ι)} {i : ι} {k : Id}
    (opens : ((run (verifyStep calls) (verifyStart s) history).own i).open? = some k) :
    ∃ before answer since, history = before ++ .thread i answer :: since ∧
      ((run (verifyStep calls) (verifyStart s) before).own i).reads = true ∧
      (Settled (run (verifyStep calls) (verifyStart s) history).shared.db k → k ∈ settledOrder calls
          (run (verifyStep calls) (verifyStart s) (before ++ [.thread i answer])) since) := by
  induction history using List.reverseRecOn with
  | nil => cases opens
  | append_singleton history move ih =>
    rw [run_append, run_cons, run_nil] at opens ⊢
    -- The call had the transaction before this move, or reads it by this move.
    have later (had : ((run (verifyStep calls) (verifyStart s) history).own i).open? = some k) :
        ∃ before answer since, history ++ [move] = before ++ .thread i answer :: since ∧
          ((run (verifyStep calls) (verifyStart s) before).own i).reads = true ∧
          (Settled (verifyStep calls (run (verifyStep calls) (verifyStart s) history)
            move).shared.db k → k ∈ settledOrder calls
              (run (verifyStep calls) (verifyStart s) (before ++ [.thread i answer])) since) := by
      obtain ⟨before, answer, since, split, reads, settled⟩ := ih had
      refine ⟨before, answer, since ++ [move], by rw [split]; simp, reads, fun now => ?_⟩
      have reached : run (verifyStep calls)
          (run (verifyStep calls) (verifyStart s) (before ++ [.thread i answer])) since =
          run (verifyStep calls) (verifyStart s) history := by
        rw [← run_append, split]
        simp
      rw [settledOrder, trace_append, reached, List.mem_append]
      rcases settled_verifyStep now with earlier | settles
      · exact .inl (settled earlier)
      · exact .inr (by simp [trace, settles])
    cases move with
    | world key => exact later opens
    | thread j answer =>
      by_cases other : i = j
      · subst other
        simp only [Threads.step, Function.update_self] at opens ⊢
        obtain ⟨same, had | ⟨reads, isOpen⟩⟩ := act_open? opens
        · exact later had
        · exact ⟨history, answer, [], rfl, reads, fun now => absurd (same ▸ now) isOpen⟩
      · exact later (by simpa [Threads.step, other] using opens)

/-- A failure is not written on a settled transaction. -/
def FailsOnlyOpen (p : Verifications ι) : VerifyMove ι → Prop
  | .thread i _ => ∀ k ∈ (p.own i).fails, ¬ Settled p.shared.db k
  | .world _ => True

/-- The condition, with the moves before the reading, since, and after the failure told apart. -/
theorem NoneOvertaken.apart {calls : ι → VerifyCall} {start : Verifications ι}
    {moves before since after : List (VerifyMove ι)} {i : ι} {first answer : GatewayAnswer}
    (overtaken : NoneOvertaken calls start moves)
    (split : moves = before ++ .thread i first :: (since ++ .thread i answer :: after))
    (reads : ((run (verifyStep calls) start before).own i).reads = true) (k : Id)
    (fails : ((run (verifyStep calls) start (before ++ .thread i first :: since)).own i).fails =
      some k) :
    k ∉ settledOrder calls (run (verifyStep calls) start (before ++ [.thread i first])) since := by
  have between := overtaken (before.length + (since.length + 1)) (by rw [split]; simp) before.length
    (by omega)
  have readAt : moves[before.length]? = some (.thread i first) := by simp [split]
  have failAt : moves[before.length + (since.length + 1)]? = some (.thread i answer) := by
    simp [split]
  have untilReading : moves.take before.length = before := by simp [split]
  have reading : moves.take (before.length + 1) = before ++ [.thread i first] := by
    simp [split, List.take_add]
  have untilFailure : moves.take (before.length + (since.length + 1)) =
      before ++ .thread i first :: since := by
    simp [split, List.take_add]
  have sinceReading : (before ++ .thread i first :: since).drop (before.length + 1) = since := by
    simp [← List.drop_drop]
  rw [readAt, failAt, untilReading, reading, untilFailure, sinceReading] at between
  exact between rfl reads k fails

theorem NoneOvertaken.failsOnlyOpen {calls : ι → VerifyCall} {s : VerifyState}
    {moves : List (VerifyMove ι)} (overtaken : NoneOvertaken calls (verifyStart s) moves) :
    Along (verifyStep calls) FailsOnlyOpen (verifyStart s) moves := by
  have each : ∀ history, history <+: moves →
      Along (verifyStep calls) FailsOnlyOpen (verifyStart s) history := by
    intro history
    induction history using List.reverseRecOn with
    | nil => exact fun _ => trivial
    | append_singleton history move ih =>
      intro isPrefix
      refine along_append.mpr ⟨ih ((List.prefix_append _ _).trans isPrefix), ?_, trivial⟩
      obtain ⟨rest, rfl⟩ := isPrefix
      cases move with
      | world key => trivial
      | thread i answer =>
        intro k fails now
        obtain ⟨before, first, since, rfl, reads, settled⟩ :=
          settled_since_reading (VerifyPhase.open?_of_fails fails)
        have split : before ++ .thread i first :: since ++ [.thread i answer] ++ rest =
            before ++ .thread i first :: (since ++ .thread i answer :: rest) := by
          simp
        exact overtaken.apart split reads k fails (settled now)
  exact each moves List.prefix_rfl

theorem Lawful.step {calls : ι → VerifyCall} {p : Verifications ι} {move : VerifyMove ι}
    (lawful : Lawful p.shared.db) (onlyOpen : FailsOnlyOpen p move) :
    Lawful (verifyStep calls p move).shared.db := by
  rcases verifyStep_cases calls p move with ⟨same, -⟩ |
    ⟨i, answer, reading, result, receipt, -, -, -, done⟩ |
    ⟨i, answer, k, message, rfl, fails, -, written⟩
  · rwa [same]
  · exact lawful.settle done
  · exact lawful.markFailed (onlyOpen k fails) written

/-- **A settled transaction stays settled.** After any calls that ran alone, in every state of
every interleaving in which no call that marks a transaction as failed is overtaken by a settlement of
it, a transaction is successful exactly when it has a receipt, and once it is, it remains so. -/
theorem settled_stays_settled (calls : ι → VerifyCall) {db : Db} (lawful : Lawful db)
    (before : List Call) (locks : List String) (moves more : List (VerifyMove ι))
    (overtaken : NoneOvertaken calls (verifyStart ⟨run exec db before, locks⟩) (moves ++ more)) :
    Lawful (run (verifyStep calls) (verifyStart ⟨run exec db before, locks⟩)
      (moves ++ more)).shared.db ∧
    ∀ k, Settled (run (verifyStep calls) (verifyStart ⟨run exec db before, locks⟩)
      moves).shared.db k →
      Settled (run (verifyStep calls) (verifyStart ⟨run exec db before, locks⟩)
        (moves ++ more)).shared.db k := by
  have start : Lawful (run exec db before) :=
    run_keeps (I := Lawful) (fun _ call lawful => lawful.exec call) lawful before
  have keeps : ∀ (p : Verifications ι) (is : List (VerifyMove ι)), Lawful p.shared.db →
      Along (verifyStep calls) FailsOnlyOpen p is →
      Lawful (run (verifyStep calls) p is).shared.db := fun p is lawful along =>
    run_invariant (I := fun p : Verifications ι => Lawful p.shared.db)
      (fun p move onlyOpen lawful => lawful.step onlyOpen) lawful along
  obtain ⟨first, second⟩ := along_append.mp overtaken.failsOnlyOpen
  have middle := keeps _ _ start first
  have final := keeps _ _ middle second
  rw [run_append]
  refine ⟨final, fun k settled => (final k).mpr ?_⟩
  -- The receipt of a settlement stays.
  exact run_keeps (I := fun p : Verifications ι => Receipted p.shared.db k)
    (fun p move receipted => receipted.frame (verifyStep_frame calls p move))
    ((middle k).mp settled) more

/-- Nothing of what is owed or was paid is lost or rewritten, whatever calls ran and however
callbacks interleave after them. -/
theorem records_kept (calls : ι → VerifyCall) (db : Db) (before : List Call) (locks : List String)
    (moves : List (VerifyMove ι)) :
    Frame db (run (verifyStep calls) (verifyStart ⟨run exec db before, locks⟩) moves).shared.db :=
  run_keeps (I := fun p : Verifications ι => Frame db p.shared.db)
    (fun p move kept => kept.trans (verifyStep_frame calls p move)) (run_frame db before) moves

end

/-- A callback that confirms the school's payment, and one that reports it cancelled. -/
def School.callbacks : Bool → VerifyCall
  | false => { env := { now := 4 }, tenantId := 1, dto := { authority := "A0001" } }
  | true => { env := { now := 5 }, tenantId := 1,
              dto := { authority := "A0001", status := some "NOK" } }

def School.confirm : VerifyMove Bool := .thread false (.ok { isSuccess := true })

def School.cancel : VerifyMove Bool := .thread true (.ok { isSuccess := false })

/-- The cancellation takes the lock and reads, the confirmation is refused the lock and reads as well;
the one writes that the payment failed, and then the other that it was made. -/
def School.overlapping : List (VerifyMove Bool) :=
  [School.cancel, School.cancel, School.confirm, School.confirm, School.confirm, School.cancel,
    School.confirm, School.confirm, School.cancel, School.confirm]

/-- A school's contract with one online payment initiated. -/
def School.initiate : List Call :=
  [.initiateOnlinePayment { now := 3 } School.gateway 1 7 { installmentId := 2 }]

theorem lawful_of_no_receipts {db : Db} (transactions : db.transactions.rows = [])
    (receipts : db.receipts.rows = []) : Lawful db := by
  intro k
  simp [Settled, Table.find?, Receipted, transactions, receipts]

theorem Opened.lawful {db db' : Db} {contract : StudentFeeContract}
    (opened : Opened db db' contract) (lawful : Lawful db) : Lawful db' := fun k => by
  rw [settled_congr opened.transactions, receipted_congr opened.receipts, lawful k]

/-- Both callbacks read the transaction before one of them marks it as failed and the other then
settles it. -/
theorem settled_stays_settled_school : ∃ db contract, School.signed = .ok (db, contract) ∧
    let final := run (verifyStep School.callbacks) (verifyStart ⟨run exec db School.initiate, []⟩)
      School.overlapping
    Lawful final.shared.db ∧ Settled final.shared.db 1 := by
  obtain ⟨⟨db, contract⟩, created, overtaken, settled⟩ := Returns.exists (by decide +kernel :
    Returns School.signed fun x =>
      NoneOvertaken School.callbacks (verifyStart ⟨run exec x.1 School.initiate, []⟩)
        (School.overlapping ++ []) ∧
      Settled (run (verifyStep School.callbacks) (verifyStart ⟨run exec x.1 School.initiate, []⟩)
        School.overlapping).shared.db 1)
  have lawful : Lawful db :=
    (createContract_spec created).1.lawful (lawful_of_no_receipts rfl rfl)
  exact ⟨db, contract, created,
    (settled_stays_settled School.callbacks lawful School.initiate [] School.overlapping []
      overtaken).1, settled⟩

/-- A callback reads the transaction as open, another one settles it, and the first then writes
the cancellation. -/
theorem not_lawful_of_late_cancellation :
    ¬ ∀ (calls : Bool → VerifyCall) (db : Db), Lawful db → ∀ (before : List Call)
      (locks : List String) (moves : List (VerifyMove Bool)),
      Lawful (run (verifyStep calls) (verifyStart ⟨run exec db before, locks⟩) moves).shared.db := by
  intro claim
  obtain ⟨⟨db, contract⟩, created, receipted, notSettled⟩ := Returns.exists (by decide +kernel :
    Returns School.signed fun x =>
      let final := run (verifyStep School.callbacks)
        (verifyStart ⟨run exec x.1 School.initiate, []⟩)
        (List.replicate 2 School.cancel ++ List.replicate 5 School.confirm ++ [School.cancel])
      Receipted final.shared.db 1 ∧ ¬ Settled final.shared.db 1)
  have lawful : Lawful db :=
    (createContract_spec created).1.lawful (lawful_of_no_receipts rfl rfl)
  exact notSettled ((claim _ db lawful _ _ _ 1).mpr receipted)

end Rokad.Finance
