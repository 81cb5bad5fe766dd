import Rokad.Finance.Admission

/-!
# The payment import books what its preview accepted

A row is booked as it was previewed when the contract is still the student's first open one, which
depends on what the rows before it have paid. `RowBookable` says so of a row and the rows before
it in terms of the database the import starts from, `bookable_cons` moves it past the first row,
and the two directions of `booksAll_iff` are one induction on the rows each.
-/

namespace Rokad.Finance

open Rokad.Base confirmPaymentImport

variable {db db' : Db} {t r : Id}

/-! ### What the confirmation should book -/

/-- The payment a previewed row stands for. -/
structure ForPayment (t : Id) (row : ValidRow) (p : FeePayment) : Prop where
  tenant : p.tenantId = t
  contract : p.feeContractId = row.contractId
  method : p.method = row.method
  amount : row.amount.toDecimal = some (p.amount : ℚ)

/-- A cash row books no more than the balance of the contract it is booked on. -/
def Covered (t : Id) (x : Db × ImportFeePaymentRowDto) : Prop :=
  isCash x.2 = true → ∀ s c a, resolve x.1 t x.2.identifier = some (s, c) →
    x.2.amount.toDecimal = some a → a ≤ c.balanceRemaining

/-- Each row is booked as it was previewed, and no cash row books more than is left. -/
structure BooksAll (env : ℕ → Env) (t r : Id) (rows : List ValidRow) (db : Db) : Prop where
  payments : ∃ booked,
    (committed db (confirmPaymentImport env t r (rows.map (·.toDto)) db)).payments.rows =
      db.payments.rows ++ booked ∧ List.Forall₂ (ForPayment t) rows booked
  count : ∀ db' reply, confirmPaymentImport env t r (rows.map (·.toDto)) db = .ok (db', reply) →
    reply.registeredCount = rows.length
  covered : ∀ x ∈ rowStates env t r 0 (rows.map (·.toDto)) db, Covered t x

/-! ### The condition -/

/-- The amounts of the cash rows on a contract. -/
def cashOn (rows : List ValidRow) (contractId : Id) : List ℚ :=
  (rows.filter fun row => row.method = .cash ∧ row.contractId = contractId).map fun row =>
    row.amount.toDecimal.getD 0

/-- The cash rows pay the contract off. -/
def PaidOff (rows : List ValidRow) (c : StudentFeeContract) : Prop :=
  cashOn rows c.id ≠ [] ∧ (c.balanceRemaining : ℚ) ≤ (cashOn rows c.id).sum
deriving Decidable

/-- The student's first active contract that the rows do not pay off. -/
def openContract (db : Db) (t : Id) (rows : List ValidRow) (studentId : Id) :
    Option StudentFeeContract :=
  db.contracts.rows.find? fun c =>
    c.tenantId = t ∧ c.studentId = studentId ∧ c.status = .active ∧ ¬ PaidOff rows c

/-- After the earlier rows this one finds the contract it was previewed on, its amount is one the
column keeps, and as cash it does not exceed what the earlier rows leave. -/
structure RowBookable (t : Id) (db : Db) (earlier : List ValidRow) (row : ValidRow) : Prop where
  contract : ∃ s c, findStudent db t row.identifier = some s ∧
    openContract db t earlier s.id = some c ∧ c.id = row.contractId
  amount : ∃ m : Money, row.amount.toDecimal = some (m : ℚ)
  covered : row.method = .cash → ∀ c a, db.contracts.find? row.contractId = some c →
    row.amount.toDecimal = some a → (cashOn earlier c.id).sum + a ≤ c.balanceRemaining

/-- The receipt numbers the cash rows draw. -/
def cashNumbers (env : ℕ → Env) : ℕ → List ValidRow → List String
  | _, [] => []
  | i, row :: rows =>
    (if row.method = .cash then [receiptNumber (env i)] else []) ++ cashNumbers env (i + 1) rows

/-- The condition: every row can be booked after those before it, and the receipt numbers drawn
are new and distinct. -/
structure Bookable (env : ℕ → Env) (t : Id) (i : ℕ) (rows : List ValidRow) (db : Db) : Prop where
  each : ∀ earlier row later, rows = earlier ++ row :: later → RowBookable t db earlier row
  numbers : (cashNumbers env i rows).Nodup
  unused : ∀ n ∈ cashNumbers env i rows, n ∉ takenReceiptNumbers db t

/-! ### Past the first row -/

section

variable {env : ℕ → Env} {i : ℕ} {row : ValidRow} {earlier rows : List ValidRow}
  {s : StudentProfile} {c : StudentFeeContract} {m : Money}

/-- What the preview guarantees of its rows. -/
structure Previewed (rows : List ValidRow) : Prop where
  method : ∀ row ∈ rows, row.method = .cash ∨ row.method = .cheque
  amount : ∀ row ∈ rows, ∀ a, row.amount.toDecimal = some a → 0 ≤ a

theorem cashOn_cons (k : Id) : cashOn (row :: earlier) k =
    (if row.method = .cash ∧ row.contractId = k then [row.amount.toDecimal.getD 0] else []) ++
      cashOn earlier k := by
  unfold cashOn
  rw [List.filter_cons]
  split <;> simp_all

theorem cashOn_cons_of_not {k : Id} (not : ¬ (row.method = .cash ∧ row.contractId = k)) :
    cashOn (row :: earlier) k = cashOn earlier k := by
  rw [cashOn_cons, if_neg not]
  rfl

theorem sum_cashOn_cons (cash : row.method = .cash) (on : row.contractId = c.id)
    (amount : row.amount.toDecimal = some (m : ℚ)) :
    (cashOn (row :: earlier) c.id).sum = m + (cashOn earlier c.id).sum := by
  rw [cashOn_cons, if_pos ⟨cash, on⟩, amount]
  simp

theorem Previewed.tail (previewed : Previewed (row :: rows)) : Previewed rows :=
  ⟨fun r mem => previewed.method r (List.mem_cons_of_mem _ mem),
    fun r mem => previewed.amount r (List.mem_cons_of_mem _ mem)⟩

theorem cashOn_nonneg (previewed : Previewed earlier) (k : Id) : 0 ≤ (cashOn earlier k).sum := by
  refine List.sum_nonneg fun a mem => ?_
  obtain ⟨row, among, rfl⟩ := List.mem_map.mp mem
  cases amount : row.amount.toDecimal with
  | none => exact le_rfl
  | some a => exact previewed.amount row (List.mem_of_mem_filter among) a amount

/-- Where a contract stands after the first row and the earlier ones is where it stands after the
earlier ones once the first is booked. -/
theorem open_afterCash {left : Money} (previewed : Previewed earlier) (cash : row.method = .cash)
    (on : row.contractId = c.id) (amount : row.amount.toDecimal = some (m : ℚ))
    (active : c.status = .active) (value : (left : ℚ) = c.balanceRemaining - m)
    (covered : (m : ℚ) ≤ c.balanceRemaining) :
    ((afterCash c left c).status = .active ∧ ¬ PaidOff earlier (afterCash c left c)) ↔
      c.status = .active ∧ ¬ PaidOff (row :: earlier) c := by
  have nonneg := cashOn_nonneg previewed c.id
  have some_ : cashOn (row :: earlier) c.id ≠ [] := by
    rw [cashOn_cons, if_pos ⟨cash, on⟩]
    exact List.cons_ne_nil _ _
  simp only [PaidOff, sum_cashOn_cons cash on amount, some_, not_false_eq_true, ne_eq, true_and, not_le, active, afterCash,
    if_true, not_and]
  constructor
  · rintro ⟨still, unpaid⟩
    have positive : (left : ℚ) ≠ 0 := fun zero => by simp [zero] at still
    have above : 0 < (left : ℚ) := lt_of_le_of_ne (by linarith) positive.symm
    by_cases none : cashOn earlier c.id = []
    · rw [none, List.sum_nil]
      linarith
    · linarith [unpaid none]
  · intro unpaid
    have positive : (left : ℚ) ≠ 0 := by linarith
    exact ⟨if_neg positive, fun _ => by linarith⟩

theorem afterCash_of_ne {left : Money} {x : StudentFeeContract} (other : x.id ≠ c.id) :
    afterCash c left x = x := if_neg other

@[simp] theorem id_afterCash {left : Money} (x : StudentFeeContract) :
    (afterCash c left x).id = x.id := by
  unfold afterCash
  split <;> rfl

theorem columns_afterCash (left : Money) (x : StudentFeeContract) :
    (afterCash c left x).tenantId = x.tenantId ∧ (afterCash c left x).studentId = x.studentId := by
  unfold afterCash
  split <;> exact ⟨rfl, rfl⟩

/-- A look-up that only the identifier of its result is asked of. -/
theorem find?_map_congr {f : StudentFeeContract → StudentFeeContract} {p q : StudentFeeContract → Bool}
    {contracts : List StudentFeeContract} (same : ∀ x ∈ contracts, p (f x) = q x) :
    (contracts.map f).find? p = (contracts.find? q).map f := by
  induction contracts with
  | nil => rfl
  | cons x xs ih =>
    rw [List.map_cons, List.find?_cons, List.find?_cons, same x List.mem_cons_self,
      ih fun y mem => same y (List.mem_cons_of_mem _ mem)]
    cases q x <;> rfl

variable (books : RowBooked (env i) t (row.method = .cash) c m db db')
  (found : db.contracts.find? c.id = some c) (on : row.contractId = c.id)
  (amount : row.amount.toDecimal = some (m : ℚ)) (active : c.status = .active)
  (covered : row.method = .cash → (m : ℚ) ≤ c.balanceRemaining)

include books found on amount active covered in
/-- What has to be open after the first row is what has to be open once it is booked. -/
theorem openContract_cons (previewed : Previewed earlier) (studentId k : Id) :
    (∃ x, openContract db' t earlier studentId = some x ∧ x.id = k) ↔
      ∃ x, openContract db t (row :: earlier) studentId = some x ∧ x.id = k := by
  have contracts := books.contracts
  by_cases cash : row.method = .cash
  · rw [if_pos (decide_eq_true cash)] at contracts
    obtain ⟨left, value, rows⟩ := contracts
    have same : openContract db' t earlier studentId =
        (openContract db t (row :: earlier) studentId).map (afterCash c left) := by
      unfold openContract
      rw [rows]
      refine find?_map_congr fun x mem => ?_
      obtain ⟨tenant, student⟩ := columns_afterCash (c := c) left x
      rw [tenant, student, decide_eq_decide]
      refine and_congr_right fun _ => and_congr_right fun _ => ?_
      by_cases own : x.id = c.id
      · have is : x = c := db.contracts.eq_of_key_eq mem (mem_of_find? found) own
        rw [is]
        exact open_afterCash previewed cash on amount active value (covered cash)
      · rw [afterCash_of_ne own, PaidOff, PaidOff,
          cashOn_cons_of_not fun both => own (both.2.symm.trans on)]
    simp [same]
  · rw [if_neg (by simpa using cash)] at contracts
    have others (k : Id) : cashOn (row :: earlier) k = cashOn earlier k :=
      cashOn_cons_of_not fun both => cash both.1
    have same : openContract db' t earlier studentId =
        openContract db t (row :: earlier) studentId := by
      unfold openContract
      rw [contracts]
      refine congrArg (List.find? · db.contracts.rows) (funext fun x => ?_)
      rw [decide_eq_decide, PaidOff, PaidOff, others]
    rw [same]

include books found on amount in
/-- What the earlier rows leave of a contract is what the first row and they leave of it. -/
theorem covered_cons (k : Id) (a : ℚ) :
    (∀ x, db'.contracts.find? k = some x → (cashOn earlier x.id).sum + a ≤ x.balanceRemaining) ↔
      ∀ x, db.contracts.find? k = some x →
        (cashOn (row :: earlier) x.id).sum + a ≤ x.balanceRemaining := by
  have contracts := books.contracts
  by_cases cash : row.method = .cash
  · rw [if_pos (decide_eq_true cash)] at contracts
    obtain ⟨left, value, rows⟩ := contracts
    have same : db'.contracts.find? k = (db.contracts.find? k).map (afterCash c left) := by
      unfold Table.find?
      rw [rows]
      refine find?_map_congr fun x _ => ?_
      rw [decide_eq_decide]
      exact iff_of_eq (congrArg (· = k) (id_afterCash x))
    rw [same]
    simp only [Option.map_eq_some_iff, forall_exists_index, and_imp, forall_apply_eq_imp_iff₂,
      id_afterCash]
    refine forall₂_congr fun x foundX => ?_
    by_cases own : x.id = c.id
    · have is : x = c := db.contracts.eq_of_key_eq (mem_of_find? foundX)
        (mem_of_find? found) own
      rw [is, sum_cashOn_cons cash on amount]
      simp only [afterCash, if_true, value]
      constructor <;> intro le <;> linarith
    · rw [afterCash_of_ne own, cashOn_cons_of_not fun both => own (both.2.symm.trans on)]
  · rw [if_neg (by simpa using cash)] at contracts
    have others (k : Id) : cashOn (row :: earlier) k = cashOn earlier k :=
      cashOn_cons_of_not fun both => cash both.1
    simp only [contracts, others]

include books found on amount active covered

theorem rowBookable_cons {next : ValidRow} (previewed : Previewed earlier) :
    RowBookable t db' earlier next ↔ RowBookable t db (row :: earlier) next := by
  have same : findStudent db' = findStudent db := by
    funext t identifier
    rw [findStudent, findStudent, books.students]
  have opened := openContract_cons books found on amount active covered previewed
  have left : ∀ k a, (∀ x, db'.contracts.find? k = some x →
      (cashOn earlier x.id).sum + a ≤ x.balanceRemaining) ↔ _ :=
    fun k a => covered_cons books found on amount k a
  constructor
  · rintro ⟨⟨s, x, student, is, key⟩, whole, within⟩
    obtain ⟨y, is, key⟩ := (opened s.id _).mp ⟨x, is, key⟩
    exact ⟨⟨s, y, same ▸ student, is, key⟩, whole, fun cash x a foundX has =>
      (left _ a).mp (fun x foundX => within cash x a foundX has) x foundX⟩
  · rintro ⟨⟨s, x, student, is, key⟩, whole, within⟩
    obtain ⟨y, is, key⟩ := (opened s.id _).mpr ⟨x, is, key⟩
    exact ⟨⟨s, y, same.symm ▸ student, is, key⟩, whole, fun cash x a foundX has =>
      (left _ a).mpr (fun x foundX => within cash x a foundX has) x foundX⟩

/-- The condition on the rows is the condition on the first, and on the rest with it booked. -/
theorem bookable_cons (previewed : Previewed rows) :
    Bookable env t i (row :: rows) db ↔ RowBookable t db [] row ∧
      (row.method = .cash → receiptNumber (env i) ∉ takenReceiptNumbers db t) ∧
      Bookable env t (i + 1) rows db' := by
  have each : ∀ earlier next later, rows = earlier ++ next :: later →
      (RowBookable t db' earlier next ↔ RowBookable t db (row :: earlier) next) := by
    rintro earlier next later rfl
    exact rowBookable_cons books found on amount active covered
      ⟨fun r mem => previewed.method r (List.mem_append_left _ mem),
        fun r mem => previewed.amount r (List.mem_append_left _ mem)⟩
  have receipts := books.receipts
  constructor
  · intro all
    have numbers := all.numbers
    have unused := all.unused
    rw [cashNumbers, List.nodup_append] at numbers
    simp only [cashNumbers, List.mem_append, or_imp, forall_and] at unused
    refine ⟨all.each [] row rows rfl, fun cash => unused.1 _ (by simp [cash]),
      fun earlier next later split =>
        (each earlier next later split).mpr (all.each _ next later (by rw [split]; rfl)),
      numbers.2.1, fun n mem taken => ?_⟩
    rw [receipts, List.mem_append] at taken
    rcases taken with taken | mine
    · exact unused.2 n mem taken
    · exact numbers.2.2 n (by simpa using mine) n mem rfl
  · rintro ⟨first, new, rest⟩
    refine ⟨fun earlier next later split => ?_, ?_, fun n mem => ?_⟩
    · cases earlier with
      | nil =>
        cases split
        exact first
      | cons r earlier =>
        rw [List.cons_append, List.cons.injEq] at split
        obtain ⟨rfl, tail⟩ := split
        exact (each earlier next later tail).mp (rest.each earlier next later tail)
    · rw [cashNumbers, List.nodup_append]
      refine ⟨by split <;> simp, rest.numbers, fun a mine b mem same => ?_⟩
      have fresh := rest.unused b mem
      rw [receipts, List.mem_append, not_or] at fresh
      exact fresh.2 (by simpa [same] using mine)
    · rw [cashNumbers, List.mem_append] at mem
      rcases mem with mine | mem
      · split at mine
        · rename_i cash
          rw [List.mem_singleton.mp mine]
          exact new cash
        · cases mine
      · have fresh := rest.unused n mem
        rw [receipts, List.mem_append, not_or] at fresh
        exact fresh.1

end

/-! ### The rows of an import -/

section

variable {env : ℕ → Env} {i n : ℕ} {row : ValidRow} {rows : List ValidRow} {s : StudentProfile}
  {c : StudentFeeContract} {m : Money} {a : ℚ}

theorem isCash_toDto (row : ValidRow) : isCash row.toDto = decide (row.method = .cash) := by
  have texts : ∀ method : PaymentMethod, ((method.text = PaymentMethod.cash.text : Bool) ||
      (method.text = "نقدی" : Bool)) = decide (method = .cash) := by
    intro method
    cases method <;> decide
  exact texts row.method

theorem openContract_nil (studentId : Id) :
    openContract db t [] studentId = findContract db t studentId := by
  unfold openContract findContract
  refine congrArg (List.find? · db.contracts.rows) (funext fun x => ?_)
  rw [decide_eq_decide]
  simp [PaidOff, cashOn]

theorem resolve_eq_some (student : findStudent db t row.identifier = some s)
    (contract : findContract db t s.id = some c) :
    resolve db t row.toDto.identifier = some (s, c) := by
  have same : row.toDto.identifier = row.identifier := rfl
  simp [resolve, same, student, contract]

/-- A booked row adds one payment. -/
theorem book_payment (done : book (env i) t r row.toDto a s c db = .ok db') :
    ∃ p, db'.payments.rows = db.payments.rows ++ [p] ∧ p.feeContractId = c.id ∧
      Money.store a = some p.amount := by
  unfold book at done
  split at done
  · obtain ⟨amount, db₁, db₂, stored, created, balanced, receipted⟩ := bookCash_ok done
    obtain ⟨-, -, -, -, payments₂, -⟩ := writeBalance_spec balanced
    have payments := Db.write_payments created
    have payments' := Db.write_payments receipted
    simp only at payments payments'
    rw [payments', payments₂]
    exact ⟨_, (insert_spec.mp payments).1, rfl, stored⟩
  · obtain ⟨amount, stored, created⟩ := bookCheque_ok done
    have payments := Db.write_payments created
    simp only at payments
    exact ⟨_, (insert_spec.mp payments).1, rfl, stored⟩

theorem book_books (covered : row.method = .cash → (m : ℚ) ≤ c.balanceRemaining)
    (done : book (env i) t r row.toDto m s c db = .ok db') :
    RowBooked (env i) t (row.method = .cash) c m db db' := by
  unfold book at done
  rw [isCash_toDto] at done
  by_cases cash : row.method = .cash
  · rw [if_pos (decide_eq_true cash)] at done
    rw [decide_eq_true cash]
    exact bookCash_spec (covered cash) done
  · rw [if_neg (by simpa using cash)] at done
    rw [decide_eq_false cash]
    exact bookCheque_spec done

theorem book_exists (found : db.contracts.find? c.id = some c) (nonneg : 0 ≤ (m : ℚ))
    (covered : row.method = .cash → (m : ℚ) ≤ c.balanceRemaining)
    (unused : row.method = .cash → receiptNumber (env i) ∉ takenReceiptNumbers db t) :
    ∃ db', book (env i) t r row.toDto m s c db = .ok db' := by
  unfold book
  rw [isCash_toDto]
  by_cases cash : row.method = .cash
  · rw [if_pos (decide_eq_true cash)]
    exact bookCash_exists found nonneg (covered cash) (unused cash)
  · rw [if_neg (by simpa using cash)]
    exact bookCheque_exists found

/-- A row that was registered was booked on the contract it resolves to. -/
theorem importRow_registered (done : importRow (env i) t r row.toDto db = .ok (db', n)) :
    (n = 0 ∧ db' = db) ∨ n = 1 ∧ ∃ s c a, findStudent db t row.identifier = some s ∧
      findContract db t s.id = some c ∧ row.amount.toDecimal = some a ∧
      book (env i) t r row.toDto a s c db = .ok db' := by
  unfold importRow at done
  split at done
  · cases done
    exact Or.inl ⟨rfl, rfl⟩
  · rename_i s c found
    simp only [do_eq_ok] at done
    obtain ⟨a, amount, _, booked, ⟨⟩⟩ := done
    obtain ⟨student, contract⟩ := resolve_ok found
    exact Or.inr ⟨rfl, s, c, a, student, contract, amount, booked⟩

theorem importRow_of_book (student : findStudent db t row.identifier = some s)
    (contract : findContract db t s.id = some c) (amount : row.amount.toDecimal = some a)
    (done : book (env i) t r row.toDto a s c db = .ok db') :
    importRow (env i) t r row.toDto db = .ok (db', 1) := by
  have same : row.toDto.amount = row.amount := rfl
  unfold importRow
  simp only [resolve_eq_some student contract, same, amount, do_eq_ok, Prod.mk.injEq]
  exact ⟨a, rfl, db', done, rfl, trivial⟩

/-- An import registers a row once at most, and payments are only added. -/
theorem importRows_bounds (done : importRows env t r i (rows.map (·.toDto)) db = .ok (db', n)) :
    n ≤ rows.length ∧ ∃ others, db'.payments.rows = db.payments.rows ++ others := by
  induction rows generalizing db i n with
  | nil =>
    cases done
    exact ⟨le_rfl, [], (List.append_nil _).symm⟩
  | cons row rows ih =>
    simp only [List.map_cons, importRows, do_eq_ok] at done
    obtain ⟨⟨db₁, n₁⟩, first, ⟨db₂, n₂⟩, rest, ⟨⟩⟩ := done
    obtain ⟨short, others, added⟩ := ih rest
    rw [List.length_cons]
    rcases importRow_registered first with ⟨none, rfl⟩ | ⟨one, s, c, a, -, -, -, booked⟩
    · exact ⟨by omega, others, added⟩
    · obtain ⟨p, before, -⟩ := book_payment booked
      exact ⟨by omega, p :: others, by rw [added, before, List.append_assoc]; rfl⟩

/-- What was registered and covered throughout, and booked as previewed, met the condition. -/
theorem bookable_of_importRows (previewed : Previewed rows)
    (done : importRows env t r i (rows.map (·.toDto)) db = .ok (db', n)) (count : n = rows.length)
    {booked : List FeePayment} (added : db'.payments.rows = db.payments.rows ++ booked)
    (agree : List.Forall₂ (ForPayment t) rows booked)
    (covered : ∀ x ∈ rowStates env t r i (rows.map (·.toDto)) db, Covered t x) :
    Bookable env t i rows db := by
  induction rows generalizing db i n booked with
  | nil => exact ⟨fun _ _ _ split => by simp at split, List.nodup_nil, nofun⟩
  | cons row rows ih =>
    simp only [List.map_cons, importRows, do_eq_ok] at done
    obtain ⟨⟨db₁, n₁⟩, first, ⟨db₂, n₂⟩, rest, ⟨⟩⟩ := done
    obtain ⟨short, others, after⟩ := importRows_bounds rest
    rw [List.length_cons] at count
    rcases importRow_registered first with ⟨none, -⟩ | ⟨one, s, c, a, student, contract, amount,
      done⟩
    · -- A row that is passed over leaves the count one short.
      omega
    · obtain ⟨p, before, on, stored⟩ := book_payment done
      obtain rfl : booked = p :: others := by
        refine List.append_cancel_left (added.symm.trans ?_)
        rw [after, before, List.append_assoc, List.singleton_append]
      obtain ⟨forPayment, agree⟩ := List.forall₂_cons.mp agree
      have whole : a = p.amount := Option.some.inj (amount.symm.trans forPayment.amount)
      rw [whole] at done
      have key : row.contractId = c.id := forPayment.contract.symm.trans on
      obtain ⟨found, -, -, active⟩ := findContract_some contract
      simp only [List.map_cons, rowStates, first, List.forall_mem_cons] at covered
      have within : row.method = .cash → (p.amount : ℚ) ≤ c.balanceRemaining := fun cash =>
        covered.1 (by rw [isCash_toDto]; exact decide_eq_true cash) s c _
          (resolve_eq_some student contract) forPayment.amount
      have books := book_books within done
      refine (bookable_cons books found key forPayment.amount active within previewed.tail).mpr
        ⟨⟨⟨s, c, student, ?_, key.symm⟩, ⟨_, forPayment.amount⟩,
          fun cash x a' foundX has => ?_⟩, fun cash => books.unused (decide_eq_true cash), ?_⟩
      · rw [openContract_nil]
        exact contract
      · obtain rfl : c = x := Option.some.inj (found.symm.trans (key ▸ foundX))
        obtain rfl : a' = p.amount := Option.some.inj (has.symm.trans forPayment.amount)
        simpa [cashOn] using within cash
      · exact ih previewed.tail rest (by omega) after agree covered.2

/-- Rows that meet the condition are all registered, booked as previewed and covered. -/
theorem importRows_of_bookable (previewed : Previewed rows) (all : Bookable env t i rows db) :
    ∃ db', importRows env t r i (rows.map (·.toDto)) db = .ok (db', rows.length) ∧
      (∃ booked, db'.payments.rows = db.payments.rows ++ booked ∧
        List.Forall₂ (ForPayment t) rows booked) ∧
      ∀ x ∈ rowStates env t r i (rows.map (·.toDto)) db, Covered t x := by
  induction rows generalizing db i with
  | nil =>
    exact ⟨db, rfl, ⟨[], (List.append_nil _).symm, .nil⟩, List.forall_mem_nil _⟩
  | cons row rows ih =>
    obtain ⟨⟨s, c, student, opened, key⟩, ⟨m, amount⟩, within⟩ := all.each [] row rows rfl
    rw [openContract_nil] at opened
    obtain ⟨found, -, -, active⟩ := findContract_some opened
    have covered : row.method = .cash → (m : ℚ) ≤ c.balanceRemaining := fun cash => by
      simpa [cashOn] using within cash c m (key ▸ found) amount
    have unused : row.method = .cash → receiptNumber (env i) ∉ takenReceiptNumbers db t :=
      fun cash => all.unused _ (by simp [cashNumbers, cash])
    obtain ⟨db₁, done⟩ := book_exists found
      (previewed.amount row List.mem_cons_self _ amount) covered unused
    have books := book_books covered done
    have registered := importRow_of_book student opened amount done
    obtain ⟨-, -, rest⟩ := (bookable_cons books found key.symm amount active covered
      previewed.tail).mp all
    obtain ⟨db', imported, ⟨others, added, agree⟩, states⟩ := ih previewed.tail rest
    obtain ⟨p, before, tenant, on, method, value⟩ := books.payment
    refine ⟨db', ?_, ⟨p :: others, ?_, .cons ⟨tenant, on.trans key, ?_, ?_⟩ agree⟩, ?_⟩
    · simp only [List.map_cons, importRows, do_eq_ok, Prod.mk.injEq]
      exact ⟨_, registered, _, imported, rfl, by rw [List.length_cons, Nat.add_comm]⟩
    · rw [added, before, List.append_assoc, List.singleton_append]
    · rw [method]
      rcases previewed.method row List.mem_cons_self with is | is <;> simp [is]
    · rw [value]
      exact amount
    · simp only [List.map_cons, rowStates, registered, List.forall_mem_cons]
      refine ⟨fun cash s' c' a resolved has => ?_, states⟩
      rw [resolve_eq_some student opened] at resolved
      cases resolved
      obtain rfl : a = m := Option.some.inj (has.symm.trans amount)
      rw [isCash_toDto] at cash
      exact covered (of_decide_eq_true cash)

end

/-! ### The preview and the confirmation -/

theorem toDecimal_nonneg {x : Number} {a : ℚ} (positive : x.isNonPositive = false)
    (decimal : x.toDecimal = some a) : 0 ≤ a := by
  cases x with
  | nan => cases decimal
  | infinity negative => cases decimal
  | finite v =>
    have above : 0 < v := by simpa [Number.isNonPositive] using positive
    simp only [Number.toDecimal, if_neg above.ne', Option.some.injEq] at decimal
    rw [← decimal]
    exact toPrecision_nonneg above.le

theorem previewRow_accepted {rowIndex : ℕ} {cells : SheetRow} {row : ValidRow}
    (accepted : previewRow db t rowIndex cells = some (.inr row)) :
    (row.method = .cash ∨ row.method = .cheque) ∧ row.amount.isNonPositive = false := by
  simp only [previewRow] at accepted
  split at accepted
  · cases accepted
  · split at accepted
    · cases accepted
    · split at accepted
      · cases accepted
      · split_ifs at accepted with amount
        all_goals simp only [Option.some.injEq, Sum.inr.injEq, reduceCtorEq] at accepted
        all_goals subst accepted
        all_goals exact ⟨by simp, by simpa using fun nonPositive => amount (Or.inr nonPositive)⟩

theorem previewPaymentExcel_previewed {sheet : List SheetRow} {reply : PreviewReply}
    (done : previewPaymentExcel db t sheet = .ok reply) : Previewed reply.validRows := by
  simp only [previewPaymentExcel, do_eq_ok, exists_const] at done
  obtain ⟨-, rfl⟩ := done
  have accepted : ∀ row ∈ ((numbered sheet).filterMap fun x =>
      previewRow db t x.2 x.1).filterMap Sum.getRight?,
      (row.method = .cash ∨ row.method = .cheque) ∧ row.amount.isNonPositive = false := by
    intro row mem
    obtain ⟨outcome, mem, right⟩ := List.mem_filterMap.mp mem
    obtain ⟨⟨cells, i⟩, -, done⟩ := List.mem_filterMap.mp mem
    obtain rfl := Sum.getRight?_eq_some_iff.mp right
    exact previewRow_accepted done
  exact ⟨fun row mem => (accepted row mem).1,
    fun row mem a decimal => toDecimal_nonneg (accepted row mem).2 decimal⟩

/-- **The preview and the confirmation agree.** Confirming the rows of a preview on the database it
was made on books each of them as announced if and only if each finds its contract still open and
its amount covered after the rows before it, and the receipt numbers drawn are new. -/
theorem booksAll_iff (db : Db) (env : ℕ → Env) (t r : Id) (sheet : List SheetRow)
    (reply : PreviewReply) (previewed : previewPaymentExcel db t sheet = .ok reply) :
    BooksAll env t r reply.validRows db ↔ Bookable env t 0 reply.validRows db := by
  have rows := previewPaymentExcel_previewed previewed
  generalize reply.validRows = V at rows ⊢
  constructor
  · rintro ⟨⟨booked, added, agree⟩, count, covered⟩
    cases outcome : confirmPaymentImport env t r (V.map (·.toDto)) db with
    | ok result =>
      obtain ⟨db', answer⟩ := result
      rw [outcome] at added
      exact bookable_of_importRows rows (confirmPaymentImport_ok outcome)
        (count db' answer outcome) added agree covered
    | error e =>
      -- Nothing is booked, so nothing was announced.
      rw [outcome] at added
      obtain rfl : booked = [] := List.self_eq_append_right.mp added
      cases agree
      exact ⟨fun _ _ _ split => by simp at split, List.nodup_nil, nofun⟩
  · intro all
    obtain ⟨db', imported, ⟨booked, added, agree⟩, covered⟩ := importRows_of_bookable rows all
    cases V with
    | nil => exact ⟨⟨[], (List.append_nil _).symm, .nil⟩, nofun, nofun⟩
    | cons row rest =>
      obtain ⟨answer, confirmed⟩ : ∃ answer,
          confirmPaymentImport env t r ((row :: rest).map (·.toDto)) db = .ok (db', answer) := by
        simp only [confirmPaymentImport, do_eq_ok, exists_const]
        exact ⟨_, List.cons_ne_nil _ _, (db', _), imported, rfl⟩
      refine ⟨⟨booked, by rw [confirmed]; exact added, agree⟩, fun db'' reply' done => ?_, covered⟩
      have again := confirmPaymentImport_ok done
      rw [imported, Except.ok.injEq, Prod.mk.injEq] at again
      exact again.2.symm

namespace School

def paymentHeader : SheetRow := [.text "کد ملی دانش‌آموز", .text "نوع پرداخت", .text "مبلغ (تومان)",
  .text "تاریخ"]

def cashRow (amount : String) : SheetRow :=
  [.text "0012345678", .text "نقدی", .text amount, .text "1404/07/01"]

/-- Four thousand in cash for the school's contract, as it is previewed. -/
def previewedCash : ValidRow where
  rowIndex := 2
  identifier := "0012345678"
  contractId := 1
  studentName := "Sara Ahmadi"
  method := .cash
  amount := .finite 4000
  date := "1404/07/01"
  checkNumber := none
  checkSayadId := none
  bankName := none
  notes := none

end School

/-- The first of two rows pays the contract off; the second is accepted and then passed over. -/
theorem not_booksAll : ∃ db contract reply, School.signed = .ok (db, contract) ∧
    previewPaymentExcel db 1 [School.paymentHeader, School.cashRow "10000",
      School.cashRow "2000"] = .ok reply ∧
    ¬ BooksAll (School.draws 3) 1 9 reply.validRows db := by
  obtain ⟨⟨db, contract⟩, created, counts⟩ := Returns.exists (by decide +kernel :
    Returns School.signed fun x =>
      Returns (previewPaymentExcel x.1 1 [School.paymentHeader, School.cashRow "10000",
        School.cashRow "2000"]) fun reply => reply.validRows.length = 2 ∧
          Returns (confirmPaymentImport (School.draws 3) 1 9 (reply.validRows.map (·.toDto)) x.1)
            fun y => y.2.registeredCount = 1)
  obtain ⟨reply, previewed, accepted, counted⟩ := counts.exists
  obtain ⟨⟨db', answer⟩, confirmed, registered⟩ := counted.exists
  refine ⟨db, contract, reply, created, previewed, fun books => ?_⟩
  have count := books.count db' answer confirmed
  rw [accepted] at count
  simp only at registered
  omega

/-- One cash row, booked as it was announced. -/
theorem booksAll_once : ∃ db contract reply, School.signed = .ok (db, contract) ∧
    previewPaymentExcel db 1 [School.paymentHeader, School.cashRow "4000"] = .ok reply ∧
    reply.validRows = [School.previewedCash] ∧
    BooksAll (School.draws 3) 1 9 reply.validRows db := by
  obtain ⟨⟨db, contract⟩, created, student, opened, balance, receipts, accepted⟩ :=
    Returns.exists (by decide +kernel :
    Returns School.signed fun x =>
      findStudent x.1 1 "0012345678" = some School.student ∧
      (openContract x.1 1 [] 1).map (·.id) = some 1 ∧
      (x.1.contracts.find? 1).map (·.balanceRemaining.hundredths) = some 1000000 ∧
      takenReceiptNumbers x.1 1 = [] ∧
      Returns (previewPaymentExcel x.1 1 [School.paymentHeader, School.cashRow "4000"])
        fun reply => reply.validRows = [School.previewedCash])
  obtain ⟨reply, previewed, rows⟩ := accepted.exists
  refine ⟨db, contract, reply, created, previewed, rows,
    (booksAll_iff db (School.draws 3) 1 9 _ reply previewed).mpr ?_⟩
  rw [rows]
  obtain ⟨c, opened, key⟩ := Option.map_eq_some_iff.mp opened
  have decimal : School.previewedCash.amount.toDecimal = some 4000 := by decide +kernel
  refine ⟨fun earlier row later split => ?_, List.nodup_singleton _, fun n _ taken => ?_⟩
  · obtain ⟨rfl, rfl⟩ : earlier = [] ∧ row = School.previewedCash := by
      cases earlier with
      | nil => exact ⟨rfl, (List.cons.inj split).1.symm⟩
      | cons => simp at split
    refine ⟨⟨_, c, student, opened, key⟩, ⟨⟨400000, by decide⟩, ?_⟩, fun _ x a found has => ?_⟩
    · rw [decimal]
      norm_num [Money.value]
    · obtain rfl : a = 4000 := Option.some.inj (has.symm.trans decimal)
      have left : x.balanceRemaining.hundredths = 1000000 := by
        obtain ⟨y, here, is⟩ := Option.map_eq_some_iff.mp balance
        rw [Option.some.inj (found.symm.trans here)]
        exact is
      norm_num [Money.value, left, cashOn]
  · rw [receipts] at taken
    cases taken

end Rokad.Finance
