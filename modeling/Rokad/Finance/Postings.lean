import Rokad.Finance.Frame
import Rokad.Finance.Standing

/-!
# Every call posts what it books

The refinement of the ledger by the operations, one lemma each: a cash payment, a status
change, a settlement, an offline payment and a cash row post their booking and move the contract
it is on (`recordCashPayment_makes` and its siblings), and everything else leaves both alone.
`exec_described` puts them together for any such description: what every booking of a call keeps,
the call keeps, and `run_described` carries it along a run.
-/

namespace Rokad.Finance

open Rokad.Base

/-- A step makes its booking: it posts it to the ledger and moves the contract it is on. -/
structure Makes (db db' : Db) (b : Option Booking) : Prop where
  posts : Posts db db' b
  moves : Moves db db' b

section

variable {db db₁ db₂ db' : Db}

theorem Makes.refl : Makes db db none := ⟨⟨rfl, rfl⟩, rfl⟩

/-- A step that books nothing may follow. -/
theorem Makes.quiet {b : Option Booking} (makes : Makes db db₁ b) (quiet : Makes db₁ db' none) :
    Makes db db' b := by
  obtain ⟨posts, moves⟩ := makes
  obtain ⟨⟨ledger, installments⟩, standing⟩ := quiet
  refine ⟨?_, moves.between rfl standing⟩
  cases b with
  | none => exact ⟨ledger.trans posts.1, installments.trans posts.2⟩
  | some b => exact ⟨ledger ▸ posts.books, posts.credits.congr rfl installments⟩

/-- A write of neither table that a booking is read off. -/
theorem makes_of_ledger (ledger : db'.ledger = db.ledger)
    (installments : db'.installments = db.installments) (contracts : db'.contracts = db.contracts) :
    Makes db db' none :=
  ⟨⟨ledger, installments⟩, standing_congr contracts⟩

theorem makes_createPayment {row : FeePayment} (done : db.write (.createPayment row) = .ok db') :
    Makes db db' none :=
  makes_of_ledger (ledger_createPayment done) (Db.write_installments done) (Db.write_contracts done)

theorem makes_updateTransaction {id : Id} {data : TransactionUpdate}
    (done : db.write (.updateTransaction id data) = .ok db') : Makes db db' none :=
  makes_of_ledger (ledger_updateTransaction done) (Db.write_installments done)
    (Db.write_contracts done)

/-- Money taken for a contract and credited to no installment: the payment, the balance, the
receipt. -/
theorem makes_cash {c : StudentFeeContract} {a : ℚ} {m : Money} {payment : FeePayment}
    {data : ContractUpdate} {receipt : FeeReceipt} (stored : Money.store a = some m)
    (current : db.contracts.find? c.id = some c)
    (created : db.write (.createPayment payment) = .ok db₁)
    (balanced : writeBalance db₁ c (finalBalance c.balanceRemaining a) data = .ok db₂)
    (receipted : db₂.write (.createReceipt receipt) = .ok db')
    (contract : receipt.contractId = c.id) (amount : receipt.amount = m) :
    Makes db db' (some ⟨c.id, none, a⟩) := by
  have contracts : db₁.contracts = db.contracts := Db.write_contracts created
  obtain ⟨balance, balanceMoved, exactBalance⟩ := writeFinalBalance_ledger balanced stored
  refine ⟨⟨?_, ?_⟩, ?_⟩
  · refine Books.of_parts stored (balanceOf_eq current) exactBalance (fun _ => rfl) ?_
    rw [ledger_createReceipt receipted, balanceMoved, ledger_createPayment created, contract, amount]
    rfl
  · exact (Db.write_installments receipted).trans
      ((writeBalance_frame balanced).2.1.trans (Db.write_installments created))
  · exact (writeFinalBalance_moves (contracts ▸ current) balanced).between
      (standing_congr contracts) (standing_congr (Db.write_contracts receipted))

end

variable {db db' : Db} {env : Env} {t r : Id}

/-! ### Cash and cheques -/

theorem recordCashPayment_makes {dto : RecordCashPaymentDto} {reply : CashReply}
    {c : StudentFeeContract} (done : recordCashPayment env t r dto db = .ok (db', reply))
    (found : db.contracts.find? dto.contractId = some c) :
    Makes db db' (some ⟨c.id, recordCashPayment.installment dto c db, dto.amount⟩) := by
  obtain ⟨c', amount, db₁, db₂, db₃, found', -, covered, stored, created, credited, balanced,
    receipted, contract, same, -⟩ := recordCashPayment_ok done
  obtain rfl : c' = c := Option.some_inj.mp (found'.symm.trans found)
  have installments : db₁.installments = db.installments := Db.write_installments created
  have contracts : db₂.contracts = db.contracts :=
    (creditInstallment_frame credited).2.1.trans (Db.write_contracts created)
  have inst : recordCashPayment.installment dto c' db₁ = recordCashPayment.installment dto c' db := by
    unfold recordCashPayment.installment
    rw [installments]
  rw [inst] at credited
  have current : ∀ i, recordCashPayment.installment dto c' db = some i →
      db₁.installments.find? i.id = some i := by
    intro i found
    rw [installments]
    exact current_of_bind (Option.filter_eq_some_iff.mp found).1
  -- The check against the balance makes the unclamped difference the clamped one.
  have final : Decimal.minus c'.balanceRemaining dto.amount =
      finalBalance c'.balanceRemaining dto.amount :=
    (if_neg (not_lt.mpr (minus_nonneg covered))).symm
  rw [final] at balanced
  obtain ⟨credit, creditMoved, exactCredit⟩ := creditInstallment_ledger credited current stored
  obtain ⟨balance, balanceMoved, exactBalance⟩ := writeFinalBalance_ledger balanced stored
  refine ⟨⟨?_, ?_⟩, ?_⟩
  · refine Books.of_parts stored (balanceOf_eq (find?_self found)) exactBalance exactCredit ?_
    rw [ledger_createReceipt receipted, balanceMoved, creditMoved, ledger_createPayment created,
      contract, same, Ledger.setBalance_credit, Ledger.receipt_credit]
  · have credits : Credits db₁ db₂
        ⟨c'.id, recordCashPayment.installment dto c' db, dto.amount⟩ :=
      creditInstallment_credits credited current
    exact credits.congr installments
      ((Db.write_installments receipted).trans (writeBalance_frame balanced).2.1)
  · exact (writeFinalBalance_moves (contracts ▸ find?_self found) balanced).between
      (standing_congr contracts) (standing_congr (Db.write_contracts receipted))

namespace updateChequeStatus

variable {dto : UpdateChequeStatusDto} {reading : ChequeReading}

theorem cashCheque_makes (done : cashCheque env t r reading db = .ok db')
    (current : db.contracts.find? reading.contract.id = some reading.contract) :
    Makes db db' (some ⟨reading.contract.id,
      reading.cheque.installmentId.bind db.installments.find?, reading.cheque.amount⟩) := by
  obtain ⟨db₁, db₂, balanced, credited, receipted⟩ := cashCheque_ok done
  rw [(writeBalance_frame balanced).2.1] at credited
  have installment : ∀ i, reading.cheque.installmentId.bind db.installments.find? = some i →
      db₁.installments.find? i.id = some i := by
    intro i found
    rw [(writeBalance_frame balanced).2.1]
    exact current_of_bind found
  obtain ⟨credit, creditMoved, exactCredit⟩ :=
    creditInstallment_ledger credited installment (Money.store_coe _)
  obtain ⟨balance, balanceMoved, exactBalance⟩ :=
    writeFinalBalance_ledger balanced (Money.store_coe _)
  refine ⟨⟨?_, ?_⟩, ?_⟩
  · refine Books.of_parts (Money.store_coe _) (balanceOf_eq current) exactBalance exactCredit ?_
    rw [ledger_createReceipt receipted, creditMoved, balanceMoved, Ledger.receipt_credit]
    rfl
  · have credits : Credits db₁ db₂ ⟨reading.contract.id,
        reading.cheque.installmentId.bind db.installments.find?, reading.cheque.amount⟩ :=
      creditInstallment_credits credited installment
    exact credits.congr (writeBalance_frame balanced).2.1 (Db.write_installments receipted)
  · exact (writeFinalBalance_moves current balanced).between rfl
      (standing_congr ((Db.write_contracts receipted).trans (creditInstallment_frame credited).2.1))

theorem replaceByCash_makes {replacement : RecordCashPaymentDto} {id : Option Id}
    (done : replaceByCash env t r reading replacement db = .ok (db', id))
    (current : db.contracts.find? reading.contract.id = some reading.contract) :
    Makes db db' (some ⟨reading.contract.id, none, replacement.amount⟩) := by
  obtain ⟨amount, db₁, db₂, stored, -, created, balanced, receipted⟩ := replaceByCash_ok done
  exact makes_cash stored current created balanced receipted rfl rfl

theorem makes_updateContract {id : Id} {data : ContractUpdate}
    (done : db.write (.updateContract id data) = .ok db') (noBalance : data.balanceRemaining = none)
    (noStatus : data.status = none) : Makes db db' none := by
  have ledger := ledger_updateContract done
  rw [noBalance] at ledger
  exact ⟨⟨ledger, Db.write_installments done⟩, standing_updateContract done noBalance noStatus⟩

theorem releaseHold_makes (done : releaseHold t reading db = .ok db') : Makes db db' none := by
  rcases releaseHold_ok done with ⟨-, rfl⟩ | ⟨-, written⟩
  · exact .refl
  · exact makes_updateContract written rfl rfl

theorem replacement_makes {id : Option Id}
    (done : replacement env t r dto reading db = .ok (db', id)) (status : dto.status = .replaced)
    (current : db.contracts.find? reading.contract.id = some reading.contract) :
    Makes db db' (chequeBooking dto reading db) := by
  unfold replacement at done
  unfold chequeBooking
  simp only [status, reduceCtorEq, false_and, if_false]
  cases cheque : dto.replacementCheque with
  | some newCheque =>
    simp only [cheque] at done
    obtain ⟨_, -, -, created⟩ := replaceByCheque_ok done
    exact makes_createPayment created
  | none =>
    cases cash : dto.replacementCash with
    | some newCash =>
      simp only [cheque, cash] at done
      exact replaceByCash_makes done current
    | none =>
      simp only [cheque, cash] at done
      cases done
      exact .refl

theorem transaction_makes {updated : FeePayment}
    (done : transaction env t r dto reading db = .ok (db', updated))
    (current : db.contracts.find? reading.contract.id = some reading.contract) :
    Makes db db' (chequeBooking dto reading db) := by
  obtain ⟨db₁, id, applied, updated⟩ := transaction_ok done
  have last : Makes db₁ db' none := makes_of_ledger (ledger_updatePayment updated)
    (Db.write_installments updated) (Db.write_contracts updated)
  refine Makes.quiet ?_ last
  rcases applyStatus_ok applied with ⟨status, open_, -, cashed⟩ | ⟨status, -, bounced⟩ |
    ⟨status, db₂, replaced, released⟩ | ⟨status, again, -, rfl⟩ | ⟨status, -, rfl⟩
  · rw [chequeBooking, if_pos ⟨status, open_⟩]
    exact cashCheque_makes cashed current
  · simp only [chequeBooking, status, reduceCtorEq, false_and, if_false]
    exact makes_updateContract bounced rfl rfl
  · exact (replacement_makes replaced status current).quiet (releaseHold_makes released)
  · simp only [chequeBooking, status, again]
    exact .refl
  · simp only [chequeBooking, status, reduceCtorEq, false_and, if_false]
    exact .refl

end updateChequeStatus

/-- The contract a reading holds is the one its cheque is on. -/
theorem updateChequeStatus.read_current {p : Id} {dto : UpdateChequeStatusDto}
    {reading : ChequeReading} (done : updateChequeStatus.read t p dto db = .ok reading) :
    db.contracts.find? reading.contract.id = some reading.contract := by
  obtain ⟨-, -, found, -⟩ := updateChequeStatus.read_ok done
  exact db.contracts.find?_key (mem_of_find? found)

/-! ### Online and offline payments -/

theorem initiateOnlinePayment_makes (provider : PaymentGatewayProvider)
    (dto : InitiateOnlinePaymentDto) :
    Makes db (initiateOnlinePayment env provider t r dto db).1 none := by
  rcases initiateOnlinePayment_cases env provider t r dto db with
    same | ⟨db₁, transaction, reading, created, outcome⟩
  · rw [same]
    exact .refl
  · obtain ⟨_, -, -, -, -, -, written⟩ := initiateOnlinePayment.create_ok created
    have first : Makes db db₁ none := makes_of_ledger (ledger_createTransaction written)
      (Db.write_installments written) (Db.write_contracts written)
    rcases outcome with same | ⟨authority, updated⟩
    · rwa [same]
    · exact first.quiet (makes_updateTransaction updated)

/-- A settlement posts the transaction's amount; it is a column value, so nothing is
lost to rounding. -/
theorem verifyPayment.settle_makes {reading : VerifyReading} {result : PaymentVerifyResult}
    {receipt : FeeReceipt} (done : settle env t reading result db = .ok (db', receipt)) :
    Makes db db' (settlementBooking reading db) := by
  obtain ⟨k, db₁, db₂, db₃, contract, marked, credited, debited, rfl, receipted⟩ := settle_ok done
  have installments : db₁.installments = db.installments := Db.write_installments marked
  have contracts : db₂.contracts = db.contracts :=
    (creditInstallment_frame credited).2.1.trans (Db.write_contracts marked)
  rw [installments] at credited
  have current : ∀ i, reading.transaction.installmentId.bind db.installments.find? = some i →
      db₁.installments.find? i.id = some i := by
    intro i found
    rw [installments]
    exact current_of_bind found
  -- The receipt's foreign key says that the contract exists.
  obtain ⟨c, found⟩ : ∃ c, db.contracts.find? k = some c := by
    rcases debitContract_ok debited with ⟨-, rfl⟩ | ⟨c, found, -⟩
    · exact contracts ▸ Db.contract_of_createReceipt receipted
    · exact ⟨c, by simpa [contract, contracts] using found⟩
  obtain ⟨credit, creditMoved, exactCredit⟩ :=
    creditInstallment_ledger credited current (Money.store_coe _)
  rw [settlementBooking, contract]
  rw [contract] at debited
  refine ⟨⟨?_, ?_⟩, ?_⟩
  · refine Books.of_parts (Money.store_coe _) (balanceOf_eq found) (fun _ => rfl) exactCredit ?_
    rw [ledger_createReceipt receipted,
      debitContract_ledger debited rfl (contracts ▸ found), creditMoved,
      ledger_updateTransaction marked, Ledger.setBalance_credit, Ledger.receipt_credit]
    rfl
  · have credits : Credits db₁ db₂ ⟨k, reading.transaction.installmentId.bind db.installments.find?,
        reading.transaction.amount⟩ := creditInstallment_credits credited current
    exact credits.congr installments
      ((Db.write_installments receipted).trans (debitContract_frame debited).2.1)
  · exact (debitContract_moves (contracts ▸ found) debited).between (standing_congr contracts)
      (standing_congr (Db.write_contracts receipted))

theorem recordOfflinePayment_makes {dto : RecordOfflinePaymentDto}
    {reply : PaymentTransaction × FeeReceipt} {inst : FeeInstallment}
    (done : recordOfflinePayment env t r dto db = .ok (db', reply))
    (found : db.installments.find? dto.installmentId = some inst) :
    Makes db db'
      (some ⟨inst.contractId, some inst, Decimal.minus inst.amount inst.paidAmount⟩) := by
  obtain ⟨inst', amount, db₁, db₂, db₃, found', -, stored, -, created, credited, debited, contract,
    same, -, receipted⟩ := recordOfflinePayment_ok done
  obtain rfl : inst' = inst := Option.some_inj.mp (found'.symm.trans found)
  -- What the installment asks for is a column value.
  have difference := store_minus_coe stored
  have remaining : Decimal.minus inst'.amount inst'.paidAmount = amount :=
    (minus_coe _ _).trans difference.symm
  have key : inst'.id = dto.installmentId := key_of_find? found
  have current : db₁.installments.find? inst'.id = some inst' := by
    rw [Db.write_installments created, key]
    exact found
  have contracts : db₂.contracts = db.contracts :=
    (Db.write_contracts credited).trans (Db.write_contracts created)
  obtain ⟨c, existing⟩ : ∃ c, db.contracts.find? inst'.contractId = some c :=
    has_some_iff.mp
      (db.foreignKeys.installment_contract inst' (mem_of_find? found))
  rw [remaining] at debited ⊢
  refine ⟨⟨?_, ?_⟩, ?_⟩
  · refine Books.of_parts (Money.store_coe amount) (balanceOf_eq existing) (fun _ => rfl)
      (fun _ => rfl) ?_
    rw [ledger_createReceipt receipted, debitContract_ledger debited rfl (contracts ▸ existing),
      ledger_updateInstallment current credited, ledger_createTransaction created, contract, same,
      Ledger.setBalance_credit, Ledger.receipt_credit, difference]
    rfl
  · have total : Decimal.add inst'.paidAmount amount = inst'.amount := by
      rw [add_coe, difference]
      ring
    have credits : Credits db₁ db₂ ⟨inst'.contractId, some inst', amount⟩ := by
      refine ⟨current, inst'.amount, some env.now, by rw [total, Money.store_coe], ?_⟩
      have status : creditedStatus inst' amount = .paid := if_pos total.ge
      rw [status]
      exact Db.write_installments credited
    exact credits.congr (Db.write_installments created)
      ((Db.write_installments receipted).trans (debitContract_frame debited).2.1)
  · exact (debitContract_moves (contracts ▸ existing) debited).between (standing_congr contracts)
      (standing_congr (Db.write_contracts receipted))

/-! ### Import -/

theorem importRow_makes {row : ImportFeePaymentRowDto} {n : ℕ}
    (done : confirmPaymentImport.importRow env t r row db = .ok (db', n)) :
    Makes db db' (rowBooking t row db) := by
  unfold rowBooking
  rcases confirmPaymentImport.importRow_ok done with ⟨missing, rfl, -⟩ |
    ⟨s, c, a, found, amount, -, ⟨cash, booked⟩ | ⟨cheque, booked⟩⟩
  · simp only [missing]
    exact .refl
  · simp only [found, amount, cash, if_true]
    obtain ⟨m, db₁, db₂, stored, created, balanced, receipted⟩ :=
      confirmPaymentImport.bookCash_ok booked
    exact makes_cash stored (confirmPaymentImport.findContract_some
      (confirmPaymentImport.resolve_ok found).2).1 created balanced receipted rfl rfl
  · simp only [found, amount, cheque]
    obtain ⟨m, -, created⟩ := confirmPaymentImport.bookCheque_ok booked
    exact makes_createPayment created

/-! ### Calls and runs -/

/-- A description of what a step does to the tables, by the booking it makes, that fits every
operation. -/
structure Describes (M : Db → Db → Option Booking → Prop) : Prop where
  cash : ∀ {db db' env t r dto reply c}, recordCashPayment env t r dto db = .ok (db', reply) →
    db.contracts.find? dto.contractId = some c →
    M db db' (some ⟨c.id, recordCashPayment.installment dto c db, dto.amount⟩)
  cheque : ∀ {db db' t r dto payment}, recordChequePayment t r dto db = .ok (db', payment) →
    M db db' none
  status : ∀ {db db' env t r dto reading updated},
    updateChequeStatus.transaction env t r dto reading db = .ok (db', updated) →
    db.contracts.find? reading.contract.id = some reading.contract →
    M db db' (chequeBooking dto reading db)
  initiate : ∀ {db env provider t r dto},
    M db (initiateOnlinePayment env provider t r dto db).1 none
  settle : ∀ {db db' env t reading result receipt},
    verifyPayment.settle env t reading result db = .ok (db', receipt) →
    M db db' (settlementBooking reading db)
  failed : ∀ {db db' id message}, verifyPayment.markFailed id message db = .ok db' → M db db' none
  offline : ∀ {db db' env t r dto reply inst}, recordOfflinePayment env t r dto db = .ok (db', reply) →
    db.installments.find? dto.installmentId = some inst →
    M db db' (some ⟨inst.contractId, some inst, Decimal.minus inst.amount inst.paidAmount⟩)
  row : ∀ {db db' env t r row n}, confirmPaymentImport.importRow env t r row db = .ok (db', n) →
    M db db' (rowBooking t row db)

theorem describes_makes : Describes Makes where
  cash done found := recordCashPayment_makes done found
  cheque done := by
    obtain ⟨_, _, -, -, -, -, -, created⟩ := recordChequePayment_ok done
    exact makes_createPayment created
  status done current := updateChequeStatus.transaction_makes done current
  initiate := initiateOnlinePayment_makes _ _
  settle done := verifyPayment.settle_makes done
  failed done := makes_updateTransaction done
  offline done found := recordOfflinePayment_makes done found
  row done := importRow_makes done

variable {I : Db → Prop} {C : Db → Booking → Prop} {M : Db → Db → Option Booking → Prop}

/-- **Rule for calls.** What every booking of a call keeps, as it is described, the call keeps. -/
theorem exec_described (describes : Describes M)
    (keeps : ∀ d d' b, Frame d d' → M d d' b → (∀ b' ∈ b, C d b') → I d → I d')
    (db : Db) (call : Call) (meets : ∀ x ∈ bookings db call, C x.1 x.2) (start : I db) :
    I (exec db call) := by
  have frame := exec_frame db call
  cases call with
  | recordCashPayment env t r dto =>
    cases done : recordCashPayment env t r dto db with
    | error e => simpa only [exec, done, committed] using start
    | ok outcome =>
      obtain ⟨c, _, _, _, _, found, -⟩ := recordCashPayment_ok done
      simp only [bookings, done, found, List.mem_singleton, forall_eq] at meets
      simp only [exec, done, committed] at frame ⊢
      refine keeps _ _ (some _) frame (describes.cash done found) ?_ start
      simpa using meets
  | recordChequePayment t r dto =>
    cases done : recordChequePayment t r dto db with
    | error e => simpa only [exec, done, committed] using start
    | ok outcome =>
      simp only [exec, done, committed] at frame ⊢
      exact keeps _ _ none frame (describes.cheque done) (by simp) start
  | updateChequeStatus env t p r dto =>
    cases done : updateChequeStatus env t p r dto db with
    | error e => simpa only [exec, done, committed] using start
    | ok outcome =>
      obtain ⟨reading, read, ran⟩ := updateChequeStatus_ok done
      simp only [bookings, done, read, List.mem_map, Option.mem_toList] at meets
      simp only [exec, done, committed] at frame ⊢
      refine keeps _ _ _ frame (describes.status ran
        (updateChequeStatus.read_current read)) (fun b booked => ?_) start
      exact meets (db, b) ⟨b, booked, rfl⟩
  | initiateOnlinePayment env provider t r dto =>
    exact keeps _ _ none frame describes.initiate (by simp) start
  | verifyPayment env provider lock t dto =>
    rcases verifyPayment_cases env provider lock t dto db with
      ⟨reading, result, reached, -, same | ⟨receipt, done⟩⟩ |
      ⟨-, same | ⟨reading, message, -, -, written⟩⟩
    · simp only [exec]
      rwa [same]
    · simp only [bookings, reached, done, List.mem_map, Option.mem_toList] at meets
      refine keeps _ _ _ frame (describes.settle done) (fun b booked => ?_) start
      exact meets (db, b) ⟨b, booked, rfl⟩
    · simp only [exec]
      rwa [same]
    · exact keeps _ _ none frame (describes.failed written) (by simp) start
  | recordOfflinePayment env t r dto =>
    cases done : recordOfflinePayment env t r dto db with
    | error e => simpa only [exec, done, committed] using start
    | ok outcome =>
      obtain ⟨inst, _, _, _, _, found, -⟩ := recordOfflinePayment_ok done
      simp only [bookings, done, found, List.mem_singleton, forall_eq] at meets
      simp only [exec, done, committed] at frame ⊢
      refine keeps _ _ (some _) frame (describes.offline done found) ?_ start
      simpa using meets
  | confirmPaymentImport env t r rows =>
    cases done : confirmPaymentImport env t r rows db with
    | error e => simpa only [exec, done, committed] using start
    | ok outcome =>
      simp only [bookings, done, List.mem_flatMap, List.mem_map, Option.mem_toList] at meets
      simp only [exec, done, committed]
      refine confirmPaymentImport.importRows_keeps (I := I)
        (P := fun d row => ∀ b, rowBooking t row d = some b → C d b) ?_
        (confirmPaymentImport_ok done) ?_ start
      · intro env row d d' n booked meets start
        exact keeps _ _ _ (importRow_frame booked) (describes.row booked) meets start
      · intro x mem b booked
        exact meets (x.1, b) ⟨x, mem, b, booked, rfl⟩

/-- **Rule for runs.** -/
theorem run_described (describes : Describes M)
    (keeps : ∀ d d' b, Frame d d' → M d d' b → (∀ b' ∈ b, C d b') → I d → I d')
    {db : Db} {calls : List Call}
    (along : Along exec (fun db call => ∀ x ∈ bookings db call, C x.1 x.2) db calls)
    (start : I db) : I (run exec db calls) :=
  run_invariant (fun db call => exec_described describes keeps db call) start along

section

variable (keeps : ∀ d d' b, Frame d d' → Posts d d' b → (∀ b' ∈ b, C d b') → I d → I d')
include keeps

theorem exec_posts
    (db : Db) (call : Call) (meets : ∀ x ∈ bookings db call, C x.1 x.2) (start : I db) :
    I (exec db call) :=
  exec_described describes_makes (fun d d' b frame makes => keeps d d' b frame makes.posts) db call
    meets start

theorem run_posts
    {db : Db} {calls : List Call}
    (along : Along exec (fun db call => ∀ x ∈ bookings db call, C x.1 x.2) db calls)
    (start : I db) : I (run exec db calls) :=
  run_described describes_makes (fun d d' b frame makes => keeps d d' b frame makes.posts) along
    start

end

end Rokad.Finance
