import Rokad.Finance.Collection

/-!
# The financial hold

A contract is on hold when one of its cheques is bounced, and the reason is kept only while
it is. Bouncing a cheque puts the contract on hold; cashing and replacing one look for
another bounced cheque before they release it. Setting a bounced cheque back to pending looks for
nothing (`not_onHold_of_reset`): it keeps the law only when another cheque is bounced, and in
every run in which that is so at each such change the law holds in every state
(`onHold_iff_bounced`).
-/

namespace Rokad.Finance

open Rokad.Base

/-- A cheque of the contract is bounced, leaving aside the one with the given key. -/
def BouncedBesides (db : Db) (k : Id) (id : Option Id) : Prop :=
  ∃ p ∈ db.payments.rows, p.feeContractId = k ∧ p.checkStatus = some .bounced ∧ some p.id ≠ id

/-- A cheque of the contract is bounced. -/
def Bounced (db : Db) (k : Id) : Prop :=
  ∃ p ∈ db.payments.rows, p.feeContractId = k ∧ p.checkStatus = some .bounced
deriving Decidable

/-- The law of the hold, for one contract: on hold if and only if a cheque is bounced, and
no reason without a hold. -/
def HoldLaw (db : Db) (k : Id) : Prop :=
  ∃ c, db.contracts.find? k = some c ∧ (c.hasFinancialHold = true ↔ Bounced db k) ∧
    (c.hasFinancialHold = false → c.financialHoldReason = none)

/-- The payments of a contract are of the tenant of the contract. -/
def OneTenant (db : Db) (k t : Id) : Prop :=
  (∃ c, db.contracts.find? k = some c ∧ c.tenantId = t) ∧
    ∀ p ∈ db.payments.rows, p.feeContractId = k → p.tenantId = t

/-- A bounced cheque of the contract is set back to pending only while another one of the
contract is bounced. -/
def NoLoneReset (k : Id) (db : Db) : Call → Prop
  | .updateChequeStatus _ t p _ dto =>
    match updateChequeStatus.read t p dto db with
    | .ok reading =>
      reading.contract.id = k → dto.status = .pending → reading.cheque.checkStatus = some .bounced →
          otherBounced db t reading.contract reading.cheque = true
    | .error _ => True
  | _ => True

instance (k : Id) (db : Db) : (call : Call) → Decidable (NoLoneReset k db call)
  | .updateChequeStatus .. => by
    dsimp only [NoLoneReset]
    split <;> infer_instance
  | .recordCashPayment .. | .recordChequePayment .. | .initiateOnlinePayment .. | .verifyPayment ..
  | .recordOfflinePayment .. | .confirmPaymentImport .. => isTrue trivial

/-! ### Which cheques are bounced -/

section

variable {db db' : Db} {k : Id}

theorem bounced_iff_besides : Bounced db k ↔ BouncedBesides db k none := by
  simp [Bounced, BouncedBesides]

theorem bounced_iff {id : Id} {cheque : FeePayment} (found : db.payments.find? id = some cheque) :
    Bounced db k ↔ BouncedBesides db k (some id) ∨
      cheque.feeContractId = k ∧ cheque.checkStatus = some .bounced := by
  constructor
  · rintro ⟨p, mem, contract, status⟩
    by_cases same : p.id = id
    · have row := db.payments.find?_key mem
      rw [show Record.key p = id from same, found] at row
      obtain rfl := Option.some_inj.mp row
      exact Or.inr ⟨contract, status⟩
    · exact Or.inl ⟨p, mem, contract, status, fun h => same (Option.some_inj.mp h)⟩
  · rintro (⟨p, mem, contract, status, -⟩ | ⟨contract, status⟩)
    · exact ⟨p, mem, contract, status⟩
    · exact ⟨cheque, mem_of_find? found, contract, status⟩

/-- A new payment is pending, and an update of the one left aside does not count. -/
theorem bouncedBesides_write {id : Option Id} {s : Statement}
    (creates : ∀ row, s = .createPayment row → row.checkStatus = some .pending)
    (updates : ∀ i data, s = .updatePayment i data → id = some i) (done : db.write s = .ok db') :
    BouncedBesides db' k id ↔ BouncedBesides db k id := by
  have payments := Db.write_payments done
  unfold BouncedBesides
  cases s <;> simp only at payments
  case createPayment row =>
      simp only [mem_insert payments]
      constructor
      · rintro ⟨p, mem | rfl, contract, status, differ⟩
        · exact ⟨p, mem, contract, status, differ⟩
        · simp [creates p rfl] at status
      · rintro ⟨p, mem, rest⟩
        exact ⟨p, Or.inl mem, rest⟩
  case updatePayment i data =>
      obtain rfl := updates i data rfl
      simp only [mem_update payments, ne_eq, Option.some.injEq]
      constructor
      · rintro ⟨p, ⟨mem, -⟩ | ⟨row, found, rfl⟩, contract, status, differ⟩
        · exact ⟨p, mem, contract, status, differ⟩
        · exact absurd (key_of_find? found) differ
      · rintro ⟨p, mem, contract, status, differ⟩
        exact ⟨p, Or.inl ⟨mem, differ⟩, contract, status, differ⟩
  all_goals rw [payments]

theorem bouncedBesides_changes {id : Id} (executes : Executes (Statement.Changes id) db db') :
    BouncedBesides db' k (some id) ↔ BouncedBesides db k (some id) := by
  refine executes.keeps
    (I := fun d => BouncedBesides d k (some id) ↔ BouncedBesides db k (some id))
    (fun d s d' admitted done before => (bouncedBesides_write ?_ ?_ done).trans before) Iff.rfl
  · rintro row rfl
    exact admitted.1.1
  · rintro i data rfl
    exact congrArg some (Eq.symm admitted)

theorem otherBounced_iff {t : Id} {contract : StudentFeeContract} {cheque : FeePayment}
    (tenants : ∀ p ∈ db.payments.rows, p.feeContractId = contract.id → p.tenantId = t) :
    otherBounced db t contract cheque = true ↔ BouncedBesides db contract.id (some cheque.id) := by
  simp only [otherBounced, List.any_eq_true, decide_eq_true_eq, BouncedBesides, ne_eq,
    Option.some.injEq]
  constructor
  · rintro ⟨p, mem, -, own, differ, status⟩
    exact ⟨p, mem, own, status, differ⟩
  · rintro ⟨p, mem, own, status, differ⟩
    exact ⟨p, mem, tenants p mem own, own, differ, status⟩

end

/-! ### One tenant -/

section

variable {db db' : Db} {k t : Id}

/-- A payment is created for a contract of its tenant, or in the place of a cheque. -/
def Statement.TenantSafe (db : Db) (s : Statement) : Prop :=
  s.ofCall ∧ ∀ row, s = .createPayment row → row.New db ∨ ∃ cheque, row.Replaces cheque db

theorem OneTenant.write {s : Statement} (oneTenant : OneTenant db k t) (safe : s.TenantSafe db)
    (done : db.write s = .ok db') : OneTenant db' k t := by
  obtain ⟨⟨c, found, tenant⟩, payments⟩ := oneTenant
  constructor
  · have same := Frame.contracts_of_write done safe.1 k
    rw [found] at same
    obtain ⟨c', found', core⟩ := Option.map_eq_some_iff.mp same
    have sameTenant : c'.core.tenantId = c.core.tenantId := by rw [core]
    exact ⟨c', found', sameTenant.trans tenant⟩
  · have written := Db.write_payments done
    cases s <;> simp only at written
    case createPayment row =>
        intro p mem own
        rcases (mem_insert written).mp mem with mem | rfl
        · exact payments p mem own
        · rcases safe.2 p rfl with ⟨-, c', found', same⟩ | ⟨cheque, -, q, replaced, contract, same⟩
          · rw [own, found] at found'
            obtain rfl := Option.some_inj.mp found'
            exact same.symm.trans tenant
          · exact same.trans (payments q (mem_of_find? replaced) (contract.symm.trans own))
    case updatePayment i data =>
        intro p mem own
        rcases (mem_update written).mp mem with ⟨mem, -⟩ | ⟨q, replaced, rfl⟩
        · exact payments p mem own
        · exact payments q (mem_of_find? replaced) own
    all_goals rw [written]; exact payments

theorem OneTenant.executes {P : Db → Statement → Prop} (oneTenant : OneTenant db k t)
    (executes : Executes P db db') (safe : ∀ d s, P d s → s.TenantSafe d) : OneTenant db' k t :=
  executes.keeps (I := fun d => OneTenant d k t)
    (fun d s _ admitted done oneTenant => oneTenant.write (safe d s admitted) done) oneTenant

theorem Statement.Changes.tenantSafe {cheque : Id} {s : Statement}
    (changes : s.Changes cheque db) : s.TenantSafe db := by
  constructor
  · cases s <;> trivial
  · rintro row rfl
    exact Or.inr ⟨cheque, changes⟩

theorem Call.Admits.tenantSafe {call : Call} {start : Db} {s : Statement}
    (admitted : call.Admits start db s) : s.TenantSafe db := by
  cases call with
  | updateChequeStatus env t cheque r dto => exact Statement.Changes.tenantSafe admitted
  | recordCashPayment | recordChequePayment | confirmPaymentImport =>
    refine ⟨admitted.ofCall, ?_⟩
    rintro row rfl
    exact Or.inl admitted
  | initiateOnlinePayment | verifyPayment | recordOfflinePayment =>
    refine ⟨admitted.ofCall, ?_⟩
    rintro row rfl
    exact admitted.elim

theorem OneTenant.exec (oneTenant : OneTenant db k t) (call : Call) :
    OneTenant (exec db call) k t :=
  oneTenant.executes (exec_executes db call) fun _ _ => Call.Admits.tenantSafe

end

/-! ### The hold of a contract -/

/-- The hold of a contract and its reason. -/
def Db.holdOf (db : Db) (k : Id) : Option (Bool × Option String) :=
  (db.contracts.find? k).map fun c => (c.hasFinancialHold, c.financialHoldReason)

section

variable {db db' : Db}

theorem holdLaw_iff {k : Id} : HoldLaw db k ↔
    ∃ h, db.holdOf k = some h ∧ (h.1 = true ↔ Bounced db k) ∧ (h.1 = false → h.2 = none) := by
  simp only [HoldLaw, Db.holdOf, Option.map_eq_some_iff]
  constructor
  · rintro ⟨c, found, law⟩
    exact ⟨_, ⟨c, found, rfl⟩, law⟩
  · rintro ⟨_, ⟨c, found, rfl⟩, law⟩
    exact ⟨c, found, law⟩

theorem holdOf_updateContract {id : Id} {data : ContractUpdate}
    (done : db.write (.updateContract id data) = .ok db') (k : Id) :
    db'.holdOf k = (db.holdOf k).map fun h =>
      if k = id then (data.hasFinancialHold.getD h.1, data.financialHoldReason.getD h.2)
      else h := by
  have found := Table.find?_update (Db.write_contracts done) k
  unfold Db.holdOf
  rw [found, Option.map_map, Option.map_map]
  congr 1
  funext c
  by_cases same : k = id <;> simp [same, ContractUpdate.apply]

/-- Any other statement leaves every hold. -/
theorem holdOf_write {s : Statement} (ofCall : s.ofCall)
    (keeps : ∀ id data, s = .updateContract id data → data.KeepsHold)
    (done : db.write s = .ok db') (k : Id) : db'.holdOf k = db.holdOf k := by
  cases s with
  | createContract row => exact ofCall.elim
  | updateContract id data =>
    obtain ⟨hold, reason⟩ := keeps id data rfl
    rw [holdOf_updateContract done, hold, reason]
    simp
  | _ =>
    have contracts := Db.write_contracts done
    simp only at contracts
    unfold Db.holdOf
    rw [contracts]

theorem holdOf_congr (contracts : db'.contracts = db.contracts) (k : Id) :
    db'.holdOf k = db.holdOf k := by
  unfold Db.holdOf
  rw [contracts]

end

/-! ### Calls that change no status -/

theorem HoldLaw.executes {P : Db → Statement → Prop} {db db' : Db} {k : Id}
    (law : HoldLaw db k) (executes : Executes P db db')
    (plain : ∀ d s, P d s → s.Records d ∨ s.Settles db d) : HoldLaw db' k := by
  refine executes.keeps (I := fun d => HoldLaw d k) (fun d s d' admitted done law => ?_) law
  obtain ⟨h, hold, iff, reason⟩ := holdLaw_iff.mp law
  have bounced : Bounced d' k ↔ Bounced d k := by
    rw [bounced_iff_besides, bounced_iff_besides]
    refine bouncedBesides_write ?_ ?_ done
    · rintro row rfl
      rcases plain _ _ admitted with new | none
      · exact new.1.1
      · exact none.elim
    · rintro i data rfl
      rcases plain _ _ admitted with none | none <;> exact none.elim
  have same : d'.holdOf k = d.holdOf k := by
    refine holdOf_write ?_ ?_ done k
    · rcases plain _ _ admitted with admitted | admitted <;> cases s <;> trivial
    · rintro id data rfl
      rcases plain _ _ admitted with keeps | keeps <;> exact keeps
  exact holdLaw_iff.mpr ⟨h, same.trans hold, iff.trans bounced.symm, reason⟩

/-! ### A status change -/

namespace updateChequeStatus

variable {db db' : Db} {env : Env} {t r : Id} {dto : UpdateChequeStatusDto}
  {reading : ChequeReading}

/-- What a status change makes of the hold `h` of the contract, when `other` says that another
cheque is bounced. -/
def HoldAfter (dto : UpdateChequeStatusDto) (reading : ChequeReading) (other : Prop)
    (h h' : Bool × Option String) : Prop :=
  (dto.status = .cashed ∧ reading.cheque.checkStatus ≠ some .cashed ∧ (h'.1 = true ↔ other) ∧
    (h'.1 = false → h'.2 = none)) ∨
  (dto.status = .bounced ∧ h'.1 = true) ∨
  (dto.status = .replaced ∧ (other ∧ h' = h ∨ ¬ other ∧ h' = (false, none))) ∨
  (dto.status = .cashed ∧ reading.cheque.checkStatus = some .cashed ∧ h' = h) ∨
  (dto.status = .pending ∧ h' = h)

theorem cashCheque_holdOf (done : cashCheque env t r reading db = .ok db') (k : Id) :
    db'.holdOf k = (db.holdOf k).map fun h =>
      if k = reading.contract.id then
        (otherBounced db t reading.contract reading.cheque,
          if otherBounced db t reading.contract reading.cheque then
            reading.contract.financialHoldReason else none)
      else h := by
  obtain ⟨db₁, db₂, balanced, credited, receipted⟩ := cashCheque_ok done
  obtain ⟨m, -, written⟩ := writeBalance_ok balanced
  rw [holdOf_congr (Db.write_contracts receipted), holdOf_congr (creditInstallment_frame credited).2.1,
    holdOf_updateContract written]
  rfl

theorem replacement_holdOf {id : Option Id} (done : replacement env t r dto reading db = .ok (db', id))
    (k : Id) : db'.holdOf k = db.holdOf k := by
  unfold replacement at done
  split at done
  · obtain ⟨amount, -, -, created⟩ := replaceByCheque_ok done
    exact holdOf_congr (Db.write_contracts created) k
  · obtain ⟨amount, db₁, db₂, -, -, created, balanced, receipted⟩ := replaceByCash_ok done
    obtain ⟨m, -, written⟩ := writeBalance_ok balanced
    rw [holdOf_congr (Db.write_contracts receipted), holdOf_updateContract written,
      holdOf_congr (Db.write_contracts created)]
    simp
  · cases done
    rfl

theorem releaseHold_holdOf (done : releaseHold t reading db = .ok db') (k : Id) :
    db'.holdOf k = (db.holdOf k).map fun h =>
      if k = reading.contract.id ∧ otherBounced db t reading.contract reading.cheque = false then
        (false, none)
      else h := by
  rcases releaseHold_ok done with ⟨bounced, rfl⟩ | ⟨clear, written⟩
  · simp [bounced]
  · rw [holdOf_updateContract written]
    simp [clear]

/-- The hold of the cheque's contract after the call, and every other hold as before. -/
theorem applyStatus_holdOf {id : Option Id} {k : Id} {h : Bool × Option String}
    (done : applyStatus env t r dto reading db = .ok (db', id))
    (cheque : db.payments.find? reading.cheque.id = some reading.cheque)
    (contract : reading.contract.id = reading.cheque.feeContractId)
    (oneTenant : k = reading.contract.id → OneTenant db k t)
    (tenant : reading.cheque.tenantId = t) (before : db.holdOf k = some h) :
    ∃ h', db'.holdOf k = some h' ∧
      (k ≠ reading.contract.id → h' = h) ∧
      (k = reading.contract.id →
        HoldAfter dto reading (BouncedBesides db k (some reading.cheque.id)) h h') := by
  have other : k = reading.contract.id → (otherBounced db t reading.contract reading.cheque = true ↔
        BouncedBesides db k (some reading.cheque.id)) := by
    rintro rfl
    exact otherBounced_iff (oneTenant rfl).2
  rcases applyStatus_ok done with ⟨status, open_, -, cashed⟩ | ⟨status, -, bounced⟩ |
    ⟨status, db₁, replaced, released⟩ | ⟨status, again, -, rfl⟩ | ⟨status, -, rfl⟩
  · refine ⟨_, by rw [cashCheque_holdOf cashed, before, Option.map_some], fun differ => ?_,
      fun own => Or.inl ⟨status, open_, ?_⟩⟩
    · rw [if_neg differ]
    · rw [if_pos own]
      refine ⟨other own, fun clear => ?_⟩
      simp only at clear
      simp [clear]
  · refine ⟨_, by rw [holdOf_updateContract bounced, before, Option.map_some], fun differ => ?_,
      fun own => Or.inr (Or.inl ⟨status, ?_⟩)⟩
    · rw [if_neg differ]
    · rw [if_pos own]
      rfl
  · have executes := replacement_executes replaced cheque contract tenant
    have later : k = reading.contract.id →
        (otherBounced db₁ t reading.contract reading.cheque = true ↔
          BouncedBesides db k (some reading.cheque.id)) := by
      intro own
      have oneTenant₁ := (oneTenant own).executes executes fun _ _ =>
        Statement.Changes.tenantSafe
      rw [← bouncedBesides_changes executes, own]
      exact otherBounced_iff (own ▸ oneTenant₁.2)
    refine ⟨_, by rw [releaseHold_holdOf released, replacement_holdOf replaced, before,
      Option.map_some], fun differ => ?_, fun own => Or.inr (Or.inr (Or.inl ⟨status, ?_⟩))⟩
    · rw [if_neg fun both => differ both.1]
    · rw [← later own]
      cases bounced : otherBounced db₁ t reading.contract reading.cheque with
      | true => exact Or.inl ⟨rfl, by simp⟩
      | false => exact Or.inr ⟨by simp, by simp [own]⟩
  · exact ⟨h, before, fun _ => rfl, fun _ => Or.inr (Or.inr (Or.inr (Or.inl ⟨status, again, rfl⟩)))⟩
  · exact ⟨h, before, fun _ => rfl, fun _ => Or.inr (Or.inr (Or.inr (Or.inr ⟨status, rfl⟩)))⟩

end updateChequeStatus

section

variable {db db' : Db} {k : Id}

theorem HoldLaw.updateChequeStatus {env : Env} {t p r tenant : Id} {dto : UpdateChequeStatusDto}
    {updated : FeePayment} (law : HoldLaw db k) (oneTenant : OneTenant db k tenant)
    (noReset : NoLoneReset k db (.updateChequeStatus env t p r dto))
    (done : updateChequeStatus env t p r dto db = .ok (db', updated)) : HoldLaw db' k := by
  have besides : BouncedBesides db' k (some p) ↔ BouncedBesides db k (some p) :=
    bouncedBesides_changes (updateChequeStatus_executes done)
  have status := updateChequeStatus_status done
  obtain ⟨reading, read, ran⟩ := updateChequeStatus_ok done
  simp only [NoLoneReset, read] at noReset
  obtain ⟨found, ofTenant, contract, -, stays⟩ := updateChequeStatus.read_ok read
  obtain ⟨db₁, id, applied, updated⟩ := updateChequeStatus.transaction_ok ran
  have key : reading.cheque.id = p := key_of_find? found
  have contractKey : reading.contract.id = reading.cheque.feeContractId :=
    key_of_find? contract
  subst key
  obtain ⟨h, hold, iff, reason⟩ := holdLaw_iff.mp law
  have ownTenant : k = reading.contract.id → OneTenant db k t := by
    intro own
    have same : reading.cheque.tenantId = tenant :=
      oneTenant.2 reading.cheque (mem_of_find? found) (contractKey.symm.trans own.symm)
    rwa [← ofTenant, same]
  obtain ⟨h', hold', others, after⟩ := updateChequeStatus.applyStatus_holdOf applied found
    contractKey ownTenant ofTenant hold
  -- The row of the cheque after the call.
  obtain ⟨row', found', core⟩ :=
    (Frame.of_executes (updateChequeStatus_executes done) fun _ _ changes =>
      (Statement.Changes.tenantSafe changes).1).payments _ _ found
  have rowContract : row'.core.feeContractId = reading.cheque.core.feeContractId := by rw [core]
  simp only [FeePayment.core, ← contractKey] at rowContract
  have rowStatus : row'.checkStatus = some dto.status := by
    simpa [Db.chequeStatus, found'] using status
  have bounced' := bounced_iff (k := k) found'
  have bounced := bounced_iff (k := k) found
  rw [besides, rowContract, rowStatus, Option.some_inj] at bounced'
  rw [← contractKey] at bounced
  refine holdLaw_iff.mpr ⟨h', (holdOf_congr (Db.write_contracts updated) k).trans hold', ?_⟩
  by_cases own : k = reading.contract.id
  · have other : otherBounced db t reading.contract reading.cheque = true ↔
        BouncedBesides db k (some reading.cheque.id) := by
      subst own
      exact otherBounced_iff (ownTenant rfl).2
    simp only [own.symm, true_and] at bounced bounced'
    rcases after own with ⟨new, -, holds, clears⟩ | ⟨new, holds⟩ |
      ⟨new, ⟨besides, rfl⟩ | ⟨clear, rfl⟩⟩ | ⟨new, again, rfl⟩ | ⟨new, rfl⟩
    · simp only [new, reduceCtorEq, or_false] at bounced'
      exact ⟨holds.trans bounced'.symm, clears⟩
    · simp [bounced', new, holds]
    · exact ⟨by simp [iff, bounced, bounced', besides], reason⟩
    · simp [bounced', new, clear]
    · simp only [new, reduceCtorEq, or_false] at bounced'
      simp only [again, Option.some.injEq, reduceCtorEq, or_false] at bounced
      exact ⟨iff.trans (bounced.trans bounced'.symm), reason⟩
    · refine ⟨?_, reason⟩
      simp only [new, reduceCtorEq, or_false] at bounced'
      rw [iff, bounced, bounced']
      exact or_iff_left_of_imp fun lone => other.mp (noReset own.symm new lone)
  · rw [others own]
    have differ : reading.contract.id ≠ k := fun same => own same.symm
    simp only [differ, false_and, or_false] at bounced bounced'
    exact ⟨iff.trans (bounced.trans bounced'.symm), reason⟩

theorem HoldLaw.exec {tenant : Id} (law : HoldLaw db k) (oneTenant : OneTenant db k tenant)
    {call : Call} (noReset : NoLoneReset k db call) : HoldLaw (exec db call) k := by
  have executes := exec_executes db call
  cases call with
  | updateChequeStatus env t p r dto =>
    cases done : Finance.updateChequeStatus env t p r dto db with
    | error e => simpa only [Finance.exec, done, committed] using law
    | ok reply =>
      simp only [Finance.exec, done, committed]
      exact law.updateChequeStatus oneTenant noReset done
  | recordCashPayment | recordChequePayment | confirmPaymentImport =>
    exact law.executes executes fun _ _ => Or.inl
  | initiateOnlinePayment | verifyPayment | recordOfflinePayment =>
    exact law.executes executes fun _ _ => Or.inr

/-- A contract starts without payments, and not on hold. -/
theorem Opened.holdLaw {contract : StudentFeeContract} (opened : Opened db db' contract) :
    HoldLaw db' contract.id ∧ OneTenant db' contract.id contract.tenantId := by
  have none : ∀ p ∈ db'.payments.rows, p.feeContractId ≠ contract.id := by
    intro p mem
    rw [opened.payments] at mem
    rw [opened.fresh]
    exact contract_ne_fresh db.foreignKeys.payment_contract mem
  refine ⟨⟨contract, opened.found, ?_, fun _ => opened.noHold.2⟩,
    ⟨contract, opened.found, rfl⟩, fun p mem own => absurd own (none p mem)⟩
  rw [opened.noHold.1]
  simp only [Bool.false_eq_true, false_iff]
  rintro ⟨p, mem, own, -⟩
  exact none p mem own

/-- **The hold.** From the contract `createContract` wrote, every run that sets no lone bounced
cheque of it back to pending has the contract on hold exactly when a cheque is bounced. -/
theorem onHold_iff_bounced {db₀ db : Db} {t : Id} {dto : CreateFeeContractDto}
    {contract : StudentFeeContract} (created : createContract db₀ t dto = .ok (db, contract))
    {calls : List Call} (noReset : Along exec (NoLoneReset contract.id) db calls) :
    HoldLaw (run exec db calls) contract.id := by
  refine (run_invariant
    (I := fun d => HoldLaw d contract.id ∧ OneTenant d contract.id contract.tenantId)
    (fun d call noReset inv => ⟨inv.1.exec inv.2 noReset, inv.2.exec call⟩)
    (createContract_spec created).1.holdLaw noReset).1

end

/-- Two cheques bounce; one is set back to pending, the other cashed. -/
def School.bounces : List Call :=
  [.recordChequePayment 1 9 (cheque 3000), .recordChequePayment 1 9 (cheque 2000 "6543210987654321"),
   setStatus 1 1 { status := .bounced }, setStatus 2 2 { status := .bounced },
   setStatus 3 1 { status := .pending }, setStatus 4 2 { status := .cashed }]

theorem onHold_iff_bounced_school : ∃ db contract, School.signed = .ok (db, contract) ∧
    HoldLaw (run exec db School.bounces) contract.id := by
  obtain ⟨⟨db, contract⟩, created, noReset⟩ := Returns.exists (by decide +kernel :
    Returns School.signed fun x =>
      Along exec (NoLoneReset x.2.id) x.1 School.bounces)
  exact ⟨db, contract, created, onHold_iff_bounced created noReset⟩

/-- A bounced cheque is set back to pending: no cheque is bounced, and the hold stays. -/
theorem not_onHold_of_reset :
    ¬ ∀ (db₀ db : Db) (t : Id) (dto : CreateFeeContractDto) (contract : StudentFeeContract),
      createContract db₀ t dto = .ok (db, contract) →
      ∀ calls, AllSucceed db calls → HoldLaw (run exec db calls) contract.id := by
  intro claim
  obtain ⟨⟨db, contract⟩, created, succeed, onHold, notBounced⟩ :=
    Returns.exists (by decide +kernel : Returns School.signed fun x =>
        let calls := [.recordChequePayment 1 9 (School.cheque 3000),
          School.setStatus 1 1 { status := .bounced }, School.setStatus 2 1 { status := .pending }]
        AllSucceed x.1 calls ∧
          ((run exec x.1 calls).contracts.find? x.2.id).any (·.hasFinancialHold) = true ∧
          ¬ Bounced (run exec x.1 calls) x.2.id)
  obtain ⟨c, found, iff, -⟩ := claim _ db _ _ contract created _ succeed
  rw [found] at onHold
  exact notBounced (iff.mp onHold)

end Rokad.Finance
