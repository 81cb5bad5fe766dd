import Rokad.Common.Jalali
import Rokad.Sms.Service

/-!
# Parents' phones, and the log

Whom automatic messages about a student go to: `resolveParentPhonesForStudent`, and the log that
each of them is recorded in. Rows of the log stand in the order of their creation.
-/

namespace Rokad.Sms

open Rokad.Base Rokad.Common

/-! ### Students -/

structure User where
  id : Id
  (firstName lastName : String := "")
  phone : Option String := none

/-- A parent who is linked to a student. -/
structure LinkedParent where
  user : User
  workPhone : Option String := none

/-- A student with what is included. -/
structure StudentProfile where
  id : Id
  user : User
  (fatherPhone fatherFullName motherPhone motherFullName : Option String := none)
  parentLinks : List LinkedParent := []

instance : Record StudentProfile := { key := (·.id) }

structure Recipient where
  (phone name : String)
  userId : Option Id := none
deriving DecidableEq

def User.fullName (u : User) : String := trim (u.firstName ++ " " ++ u.lastName)

/-- `addPhone`: a phone that is long enough and not there yet. -/
def addPhone (phones : List Recipient) (rawPhone : Option String) (name : String)
    (userId : Option Id := none) : List Recipient :=
  match truthy rawPhone with
  | none => phones
  | some rawPhone =>
    let cleaned := cleanPhone rawPhone
    if 10 ≤ jsLength cleaned ∧ cleaned ∉ phones.map (·.phone) then
      phones ++ [⟨cleaned, name, userId⟩]
    else phones

def resolveParentPhonesForStudent (s : StudentProfile) : List Recipient :=
  let named (fullName : Option String) (title : String) : String :=
    (truthy fullName).getD (trim (title ++ " " ++ s.user.firstName ++ " " ++ s.user.lastName))
  let phones := addPhone [] s.fatherPhone (named s.fatherFullName "پدر")
  let phones := addPhone phones s.motherPhone (named s.motherFullName "مادر")
  s.parentLinks.foldl (fun phones link =>
    addPhone phones (truthy link.user.phone <|> link.workPhone)
      ((truthy (some link.user.fullName)).getD "ولی محترم") (some link.user.id)) phones

/-- The parents, or else the student. -/
def recipientsOf (s : StudentProfile) (studentName : String) : List Recipient :=
  match resolveParentPhonesForStudent s, truthy s.user.phone with
  | [], some phone => [⟨phone, studentName, some s.user.id⟩]
  | parents, _ => parents

/-! ### The log -/

inductive SmsType where
  | autoAbsence | autoChequeDue
deriving DecidableEq

inductive SmsStatus where
  | sent | failed
deriving DecidableEq

inductive AttendanceStatus where
  | absent | tardy

/-- What an automatic message is about. -/
inductive Metadata where
  | absence (studentId : Id) (studentName date : String) (periodNumber : Option ℤ)
      (attendanceStatus : AttendanceStatus) (delayMinutes : Option ℤ)
  | chequeDue (chequeId : Id) (dueDays : ℤ) (dueDate : String)

structure SmsLog where
  (id tenantId : Id)
  (recipientPhone recipientName : String)
  recipientUserId : Option Id
  type : SmsType
  message : String
  provider : ProviderName
  status : SmsStatus
  errorMessage : Option String
  metadata : Metadata
  sentAt : Instant

instance : Record SmsLog := { key := (·.id) }

structure SmsTemplate where
  body : String
  isEnabled : Bool := true

/-- `setHours(0, 0, 0, 0)`, where local time is ahead by `offset` milliseconds. -/
def startOfDay (offset : ℤ) (t : Instant) : Instant := t - (t + offset) % 86400000

end Rokad.Sms
