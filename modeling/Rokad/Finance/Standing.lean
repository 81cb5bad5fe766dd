import Rokad.Finance.Books

/-!
# Where a contract stands

The standing of a contract is its balance and its status. Every payment path computes both itself,
and they all move it the same way: the balance goes down by the amount, not below zero, and when
nothing is left before it is stored, the contract is completed.
-/

namespace Rokad.Finance

open Rokad.Base

structure Standing where
  balance : Money
  status : FeeContractStatus

def StudentFeeContract.standing (c : StudentFeeContract) : Standing := ⟨c.balanceRemaining, c.status⟩

def Db.standing (db : Db) (k : Id) : Option Standing := (db.contracts.find? k).map (·.standing)

/-- A standing before and after a payment. -/
structure Pays (before : Standing) (amount : ℚ) (after : Standing) : Prop where
  balance : Money.store (finalBalance before.balance amount) = some after.balance
  status : after.status =
    if finalBalance before.balance amount = 0 then .completed else before.status

/-- A step pays its booking on the contract, and leaves every other contract where it stands. -/
def Moves (db db' : Db) : Option Booking → Prop
  | none => db'.standing = db.standing
  | some b => ∃ before after, db.standing b.contractId = some before ∧ Pays before b.amount after ∧
      db'.standing = Function.update db.standing b.contractId (some after)

/-! ### Statements -/

variable {db db₁ db₂ db' : Db} {b : Option Booking}

theorem standing_congr (same : db'.contracts = db.contracts) : db'.standing = db.standing := by
  unfold Db.standing
  rw [same]

theorem standing_of_find {k : Id} {c : StudentFeeContract} (found : db.contracts.find? k = some c) :
    db.standing k = some c.standing := by
  rw [Db.standing, found, Option.map_some]

/-- A step that moves no standing may come before or after one that does. -/
theorem Moves.between (moves : Moves db₁ db₂ b) (before : db₁.standing = db.standing)
    (after : db'.standing = db₂.standing) : Moves db db' b := by
  cases b with
  | none => exact after.trans (Eq.trans moves before)
  | some b =>
    obtain ⟨s, s', found, pays, moved⟩ := moves
    exact ⟨s, s', before ▸ found, pays, by rw [after, moved, before]⟩

theorem standing_updateContract {id : Id} {data : ContractUpdate}
    (done : db.write (.updateContract id data) = .ok db') (noBalance : data.balanceRemaining = none)
    (noStatus : data.status = none) : db'.standing = db.standing := by
  have updated := Db.write_contracts done
  simp only at updated
  funext k
  rw [Db.standing, Table.find?_update updated, Option.map_map, Db.standing]
  congr 1
  funext c
  by_cases hit : k = id <;>
    simp [hit, StudentFeeContract.standing, ContractUpdate.apply, noBalance, noStatus]

/-- The balance a payment leaves is written on the contract as it was read. -/
theorem writeFinalBalance_moves {c : StudentFeeContract} {inst : Option FeeInstallment} {a : ℚ}
    {data : ContractUpdate} (current : db.contracts.find? c.id = some c)
    (done : writeBalance db c (finalBalance c.balanceRemaining a) data = .ok db') :
    Moves db db' (some ⟨c.id, inst, a⟩) := by
  obtain ⟨left, stored, written⟩ := writeBalance_ok done
  have updated := Db.write_contracts written
  simp only at updated
  refine ⟨c.standing, ⟨left, _⟩, standing_of_find current, ⟨stored, rfl⟩, ?_⟩
  funext k
  by_cases hit : k = c.id
  · subst hit
    rw [Function.update_self, Db.standing, find?_update_self updated current]
    rfl
  · rw [Function.update_of_ne hit, Db.standing, Table.find?_update_of_ne updated hit, Db.standing]

theorem debitContract_moves {k : Id} {inst : Option FeeInstallment} {a : ℚ} {c : StudentFeeContract}
    (found : db.contracts.find? k = some c) (done : debitContract db (some k) a = .ok db') :
    Moves db db' (some ⟨k, inst, a⟩) := by
  rcases debitContract_ok done with ⟨missing, -⟩ | ⟨c', found', balanced⟩
  · simp [found] at missing
  · obtain rfl : c' = c := by simpa [found] using found'.symm
    obtain rfl : c'.id = k := key_of_find? found
    exact writeFinalBalance_moves found balanced

end Rokad.Finance
