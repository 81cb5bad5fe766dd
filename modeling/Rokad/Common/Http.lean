import Rokad.Base.Fallible
import Rokad.Base.Table

/-!
# Failures

How a service call fails: an HTTP exception with its message, an error of the host, or the
database refusing a statement.
-/

namespace Rokad.Common

open Rokad.Base

abbrev Id := ℕ

/-! ### Enumerations of the schema -/

inductive UserRole where
  | superAdmin | schoolAdmin | teacher | student | parent | staff | coach
deriving DecidableEq

def UserRole.text : UserRole → String
  | superAdmin => "SUPER_ADMIN"
  | schoolAdmin => "SCHOOL_ADMIN"
  | teacher => "TEACHER"
  | student => "STUDENT"
  | parent => "PARENT"
  | staff => "STAFF"
  | coach => "COACH"

/-- Super and school administrators. -/
def UserRole.isAdmin (role : UserRole) : Bool := role = .superAdmin ∨ role = .schoolAdmin

def UserRole.isStaffOrAdmin (role : UserRole) : Bool :=
  role = .superAdmin || role = .schoolAdmin || role = .staff

inductive UserStatus where
  | active | suspended | pendingActivation
deriving DecidableEq

inductive EnrollmentStatus where
  | active | transferred | graduated | dropped
deriving DecidableEq

/-! ### Failures -/

inductive DatabaseProblem where
  | uniqueConstraint | foreignKey | numericOverflow | recordNotFound | requiredRelation
deriving DecidableEq

inductive Failure where
  | notFound (message : String)
  | badRequest (message : String)
  | conflict (message : String)
  | forbidden (message : String)
  | unauthorized (message : String)
  | tooManyRequests (message : String) (remainingSeconds : ℤ)
  | thrown (message : String)
  | database (problem : DatabaseProblem)
deriving DecidableEq

/-- What a call returns, unless it throws. -/
abbrev Result := Except Failure

def unreachable : Failure := .thrown "Can't reach database server"

variable {α : Type} [Record α]

/-- `INSERT` of one row. -/
def insertRow (t : Table α) (row : α) : Result (Table α) :=
  orFail (t.insert row) (.database .uniqueConstraint)

/-- `UPDATE` of the row with this key. -/
def updateRow (t : Table α) (id : Id) (f : α → α)
    (keep : ∀ a, Record.key (f a) = Record.key a) : Result (Table α) :=
  orFail (t.update id f keep)
    (.database (if t.has (some id) then .uniqueConstraint else .recordNotFound))

/-- The row a foreign key refers to exists. -/
def referred (parent : Table α) (fk : Option Id) : Result Unit :=
  require (parent.has fk = true) (.database .foreignKey)

@[simp] theorem insertRow_eq_ok {t t' : Table α} {row : α} :
    insertRow t row = .ok t' ↔ t.insert row = some t' := orFail_eq_ok

@[simp] theorem updateRow_eq_ok {t t' : Table α} {id : Id} {f : α → α}
    {keep : ∀ a, Record.key (f a) = Record.key a} :
    updateRow t id f keep = .ok t' ↔ t.update id f keep = some t' := orFail_eq_ok

@[simp] theorem referred_eq_ok {parent : Table α} {fk : Option Id} {u : Unit} :
    referred parent fk = .ok u ↔ parent.has fk = true := require_eq_ok

end Rokad.Common
