import Rokad.Finance.Postings

/-!
# Paid installments

What an installment was paid, its amount and its status belong together
(`FeeInstallment.Sound`). Every channel computes the new status from the sum it is about
to store, and none but the offline one checks that the sum stays within the amount. A
credit that `Fits` keeps the three together. What is credited is always positive: request
amounts have a minimum, and an online transaction asks for what an unpaid installment lacks.
-/

namespace Rokad.Finance

open Rokad.Base

/-! ### Sound installments -/

/-- Paid within its amount, with the status that says how far. -/
structure FeeInstallment.Sound (i : FeeInstallment) : Prop where
  nonneg : 0 ≤ (i.paidAmount : ℚ)
  le_amount : (i.paidAmount : ℚ) ≤ i.amount
  paid : i.status = .paid ↔ (i.paidAmount : ℚ) = i.amount
  partiallyPaid : i.status = .partiallyPaid ↔ 0 < (i.paidAmount : ℚ) ∧ (i.paidAmount : ℚ) < i.amount
  unpaid : i.status = .unpaid ↔ (i.paidAmount : ℚ) = 0

/-- The amount stays more than half a hundredth below what the installment lacks, or reaches it
and exceeds it by less than half a hundredth, with room for what twenty digits cannot tell. -/
def Fits (inst : FeeInstallment) (a : ℚ) : Prop :=
  a + 1 / 200 + 5 / 10 ^ 7 < (inst.amount : ℚ) - inst.paidAmount ∨
    (inst.amount : ℚ) - inst.paidAmount ≤ a ∧
      a + 5 / 10 ^ 7 < (inst.amount : ℚ) - inst.paidAmount + 1 / 200
deriving Decidable

/-- The amount is at least some positive column value. -/
def Positive (a : ℚ) : Prop := ∃ m : Money, 0 < (m : ℚ) ∧ m ≤ a

theorem Positive.of_min {a : ℚ} (amount_min : 1000 ≤ a) : Positive a := by
  have value : ((⟨100000, by decide⟩ : Money) : ℚ) = 1000 := by
    norm_num [Money.value]
  exact ⟨⟨100000, by decide⟩, by rw [value]; norm_num, by rwa [value]⟩

theorem Positive.coe {m : Money} (positive : 0 < (m : ℚ)) : Positive m := ⟨m, positive, le_rfl⟩

/-- A positive credit that fits leaves a sound installment sound. -/
theorem FeeInstallment.Sound.credit {inst : FeeInstallment} (sound : inst.Sound) {a : ℚ}
    {s paid : Money} (positive : Positive a) (fits : Fits inst a)
    (stored : Money.store a = some s)
    (added : Money.store (Decimal.add inst.paidAmount a) = some paid) (paidAt : Option Instant) :
    (InstallmentUpdate.apply ⟨paid, creditedStatus inst a, paidAt⟩ inst).Sound := by
  have exact := Money.store_spec added
  have near := abs_le.mp (abs_add_sub_le inst.paidAmount stored)
  have pos : 0 < (paid : ℚ) := by
    obtain ⟨m, mpos, le⟩ := positive
    have reached : (m : ℚ) ≤ Decimal.add inst.paidAmount a :=
      coe_le_add stored (by linarith [sound.nonneg])
    rw [exact]
    exact mpos.trans_le (le_columnValue reached)
  rcases fits with below | ⟨reaches, little⟩
  · -- The sum stays short of the amount, also after rounding.
    have short : Decimal.add inst.paidAmount a + 1 / 200 < inst.amount := by linarith
    have rounded := (abs_le.mp (abs_sub_columnValue_le (Decimal.add inst.paidAmount a))).1
    have less : (paid : ℚ) < inst.amount := by linarith
    have status : creditedStatus inst a = .partiallyPaid := if_neg (by linarith)
    simp only [InstallmentUpdate.apply, status]
    exact
      { nonneg := pos.le
        le_amount := less.le
        paid := iff_of_false (by simp) less.ne
        partiallyPaid := iff_of_true rfl ⟨pos, less⟩
        unpaid := iff_of_false (by simp) pos.ne' }
  · -- The sum is the amount up to rounding.
    have full : (inst.amount : ℚ) ≤ Decimal.add inst.paidAmount a :=
      coe_le_add stored (by linarith)
    have same : (paid : ℚ) = inst.amount := by
      rw [exact]
      exact columnValue_eq (abs_lt.mpr ⟨by linarith, by linarith⟩)
    have status : creditedStatus inst a = .paid := if_pos full
    simp only [InstallmentUpdate.apply, status]
    exact
      { nonneg := pos.le
        le_amount := same.le
        paid := iff_of_true rfl same
        partiallyPaid := iff_of_false (by simp) fun both => both.2.ne same
        unpaid := iff_of_false (by simp) pos.ne' }

/-! ### The installments of a contract -/

/-- Every installment of the contract is sound. -/
def AllSound (db : Db) (k : Id) : Prop := ∀ i ∈ db.installments.rows, i.contractId = k → i.Sound

/-- A booking that credits an installment of the contract fits it. -/
def FitsOn (k : Id) (b : Booking) : Prop :=
  ∀ inst ∈ b.installment, inst.contractId = k → Fits inst b.amount
deriving Decidable

/-- A booking that credits an installment of the contract is positive. -/
def PositiveOn (k : Id) (b : Booking) : Prop :=
  ∀ inst ∈ b.installment, inst.contractId = k → Positive b.amount

theorem AllSound.posts {db db' : Db} {k : Id} {b : Option Booking} (sound : AllSound db k)
    (posts : Posts db db' b) (meets : ∀ b' ∈ b, FitsOn k b' ∧ PositiveOn k b') :
    AllSound db' k := by
  cases b with
  | none =>
    rw [AllSound, posts.2]
    exact sound
  | some b =>
    obtain ⟨fits, positive⟩ := meets b rfl
    obtain ⟨s, stored⟩ := posts.books.stored
    intro i mem own
    rcases posts.credits.mem mem with before | ⟨inst, paid, paidAt, credits, row, added, rfl⟩
    · exact sound i before own
    · exact (sound inst row own).credit (positive inst credits own) (fits inst credits own)
        stored added paidAt

/-- The payments and transactions for installments of the contract are positive. -/
structure PositiveClaims (db : Db) (k : Id) : Prop where
  payments : ∀ i ∈ db.installments.rows, i.contractId = k → ∀ p ∈ db.payments.rows,
    p.installmentId = some i.id → 0 < (p.amount : ℚ)
  transactions : ∀ i ∈ db.installments.rows, i.contractId = k → ∀ x ∈ db.transactions.rows,
    x.installmentId = some i.id → 0 < (x.amount : ℚ)

section

variable {db : Db} {k : Id}

/-- What an installment that is not paid lacks is positive. -/
theorem FeeInstallment.Sound.lacks_pos {i : FeeInstallment} (sound : i.Sound)
    (open_ : i.status ≠ .paid) : 0 < (i.amount : ℚ) - i.paidAmount :=
  sub_pos.mpr (lt_of_le_of_ne sound.le_amount fun same => open_ (sound.paid.mpr same))

/-- An installment after a call was there before it, of the same contract. -/
theorem installment_before (call : Call) {i : FeeInstallment}
    (mem : i ∈ (exec db call).installments.rows) :
    ∃ j ∈ db.installments.rows, j.id = i.id ∧ j.contractId = i.contractId := by
  have same := (exec_frame db call).installments (Record.key i)
  rw [(exec db call).installments.find?_key mem] at same
  obtain ⟨j, found, core⟩ := Option.map_eq_some_iff.mp same.symm
  have contract : j.core.contractId = i.core.contractId := by rw [core]
  exact ⟨j, mem_of_find? found, key_of_find? found, contract⟩

theorem PositiveClaims.exec (claims : PositiveClaims db k) (sound : AllSound db k) (call : Call) :
    PositiveClaims (exec db call) k := by
  constructor
  · intro i mem own p row linked
    obtain ⟨j, before, id, contract⟩ := installment_before call mem
    rcases exec_payments db call p row with ⟨q, old, core⟩ | fresh
    · have amount : q.core.amount = p.core.amount := by rw [core]
      have link : q.core.installmentId = p.core.installmentId := by rw [core]
      have positive := claims.payments j before (contract.trans own) q old
        ((show q.installmentId = p.installmentId from link).trans (by rw [linked, id]))
      rwa [show q.amount = p.amount from amount] at positive
    · exact fresh (by simp [linked])
  · intro i mem own x row linked
    obtain ⟨j, before, id, contract⟩ := installment_before call mem
    rcases exec_transactions db call x row with ⟨y, old, core⟩ | ⟨j', found, asks, open_, amount⟩
    · have amount : y.core.amount = x.core.amount := by rw [core]
      have link : y.core.installmentId = x.core.installmentId := by rw [core]
      have positive := claims.transactions j before (contract.trans own) y old
        ((show y.installmentId = x.installmentId from link).trans (by rw [linked, id]))
      rwa [show y.amount = x.amount from amount] at positive
    · -- The installment it asks for is the one it is linked to.
      have id' : j'.id = j.id := (Option.some_inj.mp (asks.symm.trans linked)).trans id.symm
      have row' := mem_of_find? found
      obtain rfl : j' = j := db.installments.eq_of_key_eq row' before id'
      rw [amount]
      exact (sound j' row' (contract.trans own)).lacks_pos open_

/-- Every booking of a call credits the contract's installments with positive amounts. -/
theorem bookings_positive (claims : PositiveClaims db k) (sound : AllSound db k) (call : Call) :
    ∀ x ∈ bookings db call, PositiveOn k x.2 := by
  rintro ⟨d, b⟩ mem inst credits own
  cases call with
  | recordCashPayment env t r dto =>
    simp only [bookings] at mem
    split at mem
    · obtain ⟨-, rfl⟩ := Prod.mk.inj (List.mem_singleton.mp mem)
      exact .of_min dto.amount_min
    · simp at mem
  | recordChequePayment t r dto => simp [bookings] at mem
  | updateChequeStatus env t p r dto =>
    simp only [bookings] at mem
    split at mem
    · rename_i reading _ read
      simp only [List.mem_map, Option.mem_toList, Prod.mk.injEq] at mem
      obtain ⟨b', booked, rfl, rfl⟩ := mem
      have cheque := mem_of_find? (updateChequeStatus.read_ok read).1
      unfold chequeBooking at booked
      split at booked
      · obtain rfl := Option.some_inj.mp booked
        obtain ⟨key, linked, hit⟩ := Option.bind_eq_some_iff.mp credits
        have id : inst.id = key := key_of_find? hit
        exact .coe (claims.payments inst (mem_of_find? hit) own _ cheque (id ▸ linked))
      · split at booked
        · obtain rfl := Option.some_inj.mp booked
          simp at credits
        · simp at booked
    · simp at mem
  | initiateOnlinePayment env provider t r dto => simp [bookings] at mem
  | verifyPayment env provider lock t dto =>
    rcases verifyPayment_cases env provider lock t dto db with
      ⟨reading, result, reached, read, -⟩ | ⟨none, -⟩
    · simp only [bookings, reached] at mem
      split at mem
      · simp only [List.mem_map, Option.mem_toList, Prod.mk.injEq] at mem
        obtain ⟨b', booked, rfl, rfl⟩ := mem
        obtain ⟨c, -, rfl⟩ := Option.map_eq_some_iff.mp booked
        have row := mem_of_find? (verifyPayment.read_ok read)
        obtain ⟨key, linked, hit⟩ := Option.bind_eq_some_iff.mp credits
        have id : inst.id = key := key_of_find? hit
        exact .coe (claims.transactions inst (mem_of_find? hit) own _ row (id ▸ linked))
      · simp at mem
    · simp [bookings, none] at mem
  | recordOfflinePayment env t r dto =>
    cases done : recordOfflinePayment env t r dto db with
    | error e => simp [bookings, done] at mem
    | ok outcome =>
      obtain ⟨found, amount, -, -, -, hit, open_, stored, -⟩ := recordOfflinePayment_ok done
      simp only [bookings, done, hit, List.mem_singleton, Prod.mk.injEq] at mem
      obtain ⟨rfl, rfl⟩ := mem
      obtain rfl : found = inst := Option.some_inj.mp credits
      have lacks := (sound found (mem_of_find? hit) own).lacks_pos open_
      have exact : Decimal.minus found.amount found.paidAmount = amount :=
        (minus_coe _ _).trans (store_minus_coe stored).symm
      rw [show (Booking.amount _) = Decimal.minus found.amount found.paidAmount from rfl, exact]
      exact .coe (by rw [store_minus_coe stored]; exact lacks)
  | confirmPaymentImport env t r rows =>
    simp only [bookings] at mem
    split at mem
    · simp only [List.mem_flatMap, List.mem_map, Option.mem_toList, Prod.mk.injEq] at mem
      obtain ⟨x, -, b', booked, -, rfl⟩ := mem
      unfold rowBooking at booked
      split at booked
      · split at booked
        · obtain rfl := Option.some_inj.mp booked
          simp at credits
        · simp at booked
      · simp at booked
    · simp at mem

/-- A call whose credits fit keeps the installments of the contract sound. -/
theorem AllSound.exec (sound : AllSound db k) (claims : PositiveClaims db k) {call : Call}
    (fits : ∀ x ∈ bookings db call, FitsOn k x.2) : AllSound (exec db call) k :=
  exec_posts (I := fun d => AllSound d k) (C := fun _ b => FitsOn k b ∧ PositiveOn k b)
    (fun _ _ _ _ posts meets start => start.posts posts meets) db call
    (fun x mem => ⟨fits x mem, bookings_positive claims sound call x mem⟩) sound

end

/-! ### Runs -/

/-- Nothing refers to the installments of a contract that was just created. -/
theorem Opened.positiveClaims {db db' : Db} {contract : StudentFeeContract}
    (opened : Opened db db' contract) : PositiveClaims db' contract.id := by
  have unreferred : ∀ key, db.installments.has (some key) = true →
      ∀ i ∈ db'.installments.rows, i.contractId = contract.id → i.id ≠ key := by
    rintro _ present i mem own rfl
    obtain ⟨j, found⟩ := has_some_iff.mp present
    have same := db'.installments.find?_key mem
    rw [show Record.key i = i.id from rfl, opened.kept _ j found] at same
    obtain rfl := Option.some_inj.mp same
    exact contract_ne_fresh db.foreignKeys.installment_contract (mem_of_find? found)
      (own.trans opened.fresh)
  constructor
  · intro i mem own p row linked
    rw [opened.payments] at row
    have present : db.installments.has p.installmentId = true :=
      db.foreignKeys.payment_installment p row
    rw [linked] at present
    exact absurd rfl (unreferred _ present i mem own)
  · intro i mem own x row linked
    rw [opened.transactions] at row
    have present : db.installments.has x.installmentId = true :=
      db.foreignKeys.transaction_installment x row
    rw [linked] at present
    exact absurd rfl (unreferred _ present i mem own)

theorem Opened.allSound {db db' : Db} {contract : StudentFeeContract}
    (opened : Opened db db' contract) : AllSound db' contract.id := by
  intro i mem own
  obtain ⟨paid, status, positive⟩ := opened.installments i mem own
  have zero : (i.paidAmount : ℚ) = 0 := by rw [paid, Money.coe_zero]
  exact
    { nonneg := zero.ge
      le_amount := by rw [zero]; exact positive.le
      paid := iff_of_false (by simp [status]) (by rw [zero]; exact positive.ne)
      partiallyPaid := iff_of_false (by simp [status]) fun ⟨pos, _⟩ => pos.ne' zero
      unpaid := iff_of_true status zero }

/-- **No overpayment.** From the contract `createContract` wrote, every run whose credits fit
the installments they go to leaves each installment of the contract sound. -/
theorem allSound_of_fits {db₀ db : Db} {t : Id} {dto : CreateFeeContractDto}
    {contract : StudentFeeContract} (created : createContract db₀ t dto = .ok (db, contract))
    {calls : List Call}
    (fits : Along exec (fun db call => ∀ x ∈ bookings db call, FitsOn contract.id x.2) db calls) :
    AllSound (run exec db calls) contract.id := by
  have opened := (createContract_spec created).1
  have kept : AllSound (run exec db calls) contract.id ∧
      PositiveClaims (run exec db calls) contract.id :=
    run_invariant (I := fun d => AllSound d contract.id ∧ PositiveClaims d contract.id)
      (fun d call fits ⟨sound, claims⟩ => ⟨sound.exec claims fits, claims.exec sound call⟩)
      ⟨opened.allSound, opened.positiveClaims⟩ fits
  exact kept.1

theorem allSound_of_fits_school : ∃ db contract, School.signed = .ok (db, contract) ∧
    AllSound (run exec db (School.payments (some 1))) contract.id := by
  obtain ⟨⟨db, contract⟩, created, fits⟩ := Returns.exists (by decide +kernel :
    Returns School.signed fun x =>
      Along exec (fun db call => ∀ b ∈ bookings db call, FitsOn x.2.id b.2) x.1
        (School.payments (some 1)))
  exact ⟨db, contract, created, allSound_of_fits created fits⟩

/-- Cash of 5000 for an installment of 4000: the debt of 10000 covers it, the installment does
not. -/
theorem not_allSound_of_large_cash :
    ¬ ∀ (db₀ db : Db) (t : Id) (dto : CreateFeeContractDto) (contract : StudentFeeContract),
      createContract db₀ t dto = .ok (db, contract) → ∀ calls, AllSucceed db calls →
        AllSound (run exec db calls) contract.id := by
  intro claim
  obtain ⟨⟨db, contract⟩, created, succeed, i, mem, own, overpaid⟩ :=
    Returns.exists (by decide +kernel : Returns School.signed fun x =>
        let calls := [.recordCashPayment { now := 1 } 1 9 (School.cash 5000 (some 2))]
        AllSucceed x.1 calls ∧ ∃ i ∈ (run exec x.1 calls).installments.rows,
          i.contractId = x.2.id ∧ (i.amount : ℚ) < i.paidAmount)
  exact absurd (claim _ db _ _ contract created _ succeed i mem own).le_amount (not_le.mpr overpaid)

end Rokad.Finance
