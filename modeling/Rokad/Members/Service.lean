import Rokad.Members.Credential
import Rokad.Members.Statement

/-!
# Members

`MembersService`: students and teachers are recorded by the school, and every student gets one
account for the parents. Each call is one transaction. Phones are taken as they are given.

What a transaction does to classrooms and lessons is `placed`: it goes through or fails the whole.
Columns that no account is found by or named with are left out.
-/

namespace Rokad.Members

open Rokad.Base Rokad.Auth
open Rokad.Common (Id Instant UserRole normalizePersianDigits)

structure MemberHost where
  lower : String → String
  /-- `argon2.hash`, with the salt that it draws -/
  hash : ℕ → String → String
  /-- what the error of a failure says -/
  message : Failure → String

/-- The database after a transaction: the same if it fails. -/
def settled (db : Db) : Result Db → Db
  | .ok next => next
  | .error _ => db

/-- What a call draws, and what becomes of the class or the lessons it names. -/
structure Env where
  draws : Draws
  placed : Result Unit := .ok ()

/-! ### The account of the parents -/

structure ParentInfo where
  (studentNationalCode fatherFullName motherFullName fatherPhone motherPhone phone
    studentLastName : Option String := none)

/-- A student as `syncParentForStudent` is given one, with the user if it was read. -/
structure StudentSync where
  profile : StudentProfile
  user : Option User
  info : ParentInfo

namespace StudentSync

variable (sync : StudentSync)

/-- The phone of a parent, unless it is that of the student. -/
def parentPhone : Option String :=
  let rawParentPhone := truthy sync.info.fatherPhone <|> truthy sync.info.motherPhone <|>
    truthy sync.profile.fatherPhone <|> truthy sync.profile.motherPhone
  let studentUserPhone := truthy (sync.user.bind (·.phone)) <|> truthy sync.info.phone
  rawParentPhone.filter fun phone => some phone ≠ studentUserPhone

def nationalCode : Option String :=
  truthy sync.info.studentNationalCode <|> sync.profile.nationalCode

def rawFullName : String :=
  trim ((truthy sync.info.fatherFullName <|> truthy sync.info.motherFullName <|>
    truthy sync.profile.fatherFullName <|> truthy sync.profile.motherFullName).getD "")

/-- The first word and the rest, as `split(' ')` takes them. -/
def names : String × String :=
  let pLastName := (truthy (some (trim ((truthy sync.info.studentLastName <|>
    truthy (sync.user.map (·.lastName))).getD "")))).getD "صادقی"
  if sync.rawFullName = "" then ("ولی دانش‌آموز", pLastName)
  else
    let first := sync.rawFullName.toList.takeWhile (· ≠ ' ')
    let rest := (sync.rawFullName.toList.dropWhile (· ≠ ' ')).drop 1
    (String.ofList first, (truthy (some (String.ofList rest))).getD pLastName)

end StudentSync

/-- The account the parents get: the one linked to the student, one that is found, or a new one. -/
inductive ParentAccount where
  | linked (parent : Profile) (updatePhone : Option String)
  | found (user : User)
  | new (phone : Option String)
deriving DecidableEq

section

variable (t : Tables) (tenantId : Id)

/-- The first user of the tenant who has the phone. -/
def phoneOwner (phone : String) : Option User :=
  t.users.rows.find? fun u => u.tenantId = tenantId ∧ u.phone = some phone

def linkedParent (studentId : Id) : Option Profile :=
  (t.links.rows.find? fun l => l.tenantId = tenantId ∧ l.studentId = studentId).bind fun l =>
    t.parents.find? l.parentId

def parentAccount (studentId : Id) (username : String) (parentPhone : Option String) :
    ParentAccount :=
  match linkedParent t tenantId studentId with
  | some parent => .linked parent (parentPhone.filter fun phone =>
    (t.users.rows.find? fun u =>
      u.tenantId = tenantId ∧ u.phone = some phone ∧ u.id ≠ parent.userId).isNone)
  | none =>
    match t.users.rows.find? fun u => u.tenantId = tenantId ∧
        (u.username = some username ∨ parentPhone.isSome ∧ u.phone = parentPhone) with
    | some user =>
      if user.role = .parent then .found user
      else
        match t.users.rows.find? fun u => u.tenantId = tenantId ∧ u.username = some username with
        | some user => .found user
        | none => .new none
    | none => .new (parentPhone.filter fun phone => (phoneOwner t tenantId phone).isNone)

end

variable (x : MemberHost) (tenantId : Id)

def parentCredentials (sync : StudentSync) (draws : Draws) : ParentCredentials :=
  generateParentCredentials sync.nationalCode sync.parentPhone draws

def StudentSync.account (t : Tables) (sync : StudentSync) (draws : Draws) : ParentAccount :=
  parentAccount t tenantId sync.profile.id (parentCredentials sync draws).username
    sync.parentPhone

/-- The parent profile of the user, which is created if there is none. -/
def ensureParentProfile (userId : Id) (db : Db) : Result (Db × Id) :=
  match db.parents.rows.find? fun p => p.userId = userId with
  | some profile => .ok (db, profile.id)
  | none => do
      let parentId := db.parents.fresh
      let db ← db.createParentProfile { id := parentId, tenantId, userId }
      pure (db, parentId)

def syncParentForStudent (sync : StudentSync) (draws : Draws) (db : Db) : Result Db :=
  let parentCreds := parentCredentials sync draws
  let parentPasswordHash := x.hash draws.parentSeed parentCreds.finalPassword
  let (pFirstName, pLastName) := sync.names
  match sync.account tenantId db.toTables draws with
  | .linked parent updatePhone =>
    let named := truthy (some sync.rawFullName)
    db.updateUser parent.userId
      { username := some parentCreds.username
        passwordHash := some parentPasswordHash
        phone := updatePhone
        firstName := named.map fun _ => pFirstName
        lastName := named.map fun _ => pLastName }
  | .found user => do
      let (db, parentId) ← ensureParentProfile tenantId user.id db
      let db ← db.updateUser user.id { passwordHash := some parentPasswordHash }
      db.createLink { id := 0, tenantId, parentId, studentId := sync.profile.id }
  | .new createPhone => do
      let userId := db.users.fresh
      let db ← db.createUser
        { id := userId
          tenantId
          firstName := pFirstName
          lastName := pLastName
          phone := createPhone
          username := some parentCreds.username
          passwordHash := parentPasswordHash
          role := .parent }
      let parentId := db.parents.fresh
      let db ← db.createParentProfile { id := parentId, tenantId, userId }
      db.createLink { id := 0, tenantId, parentId, studentId := sync.profile.id }

/-- The rest of a transaction that has recorded the student. -/
def finish (env : Env) (recorded : Result (Db × StudentSync)) : Result Db := do
  let (db, sync) ← recorded
  env.placed
  syncParentForStudent x tenantId sync env.draws db

/-! ### Students -/

structure CreateStudentDto where
  (firstName lastName phone : String)
  (studentCode studentNumber nationalCode fatherFullName fatherPhone motherFullName motherPhone
    studentMobile password : Option String := none)

def CreateStudentDto.userPhone (dto : CreateStudentDto) : String :=
  (truthy dto.studentMobile).getD dto.phone

/-- The checks of `createStudent`, and the user and the profile it creates. -/
def createStudentAccount (dto : CreateStudentDto) (draws : Draws) (db : Db) :
    Result (Db × StudentSync) := do
  let creds := generateUnifiedCredentials x.lower (db.tenants.find? tenantId) dto.nationalCode
    (some dto.phone) dto.password draws
  let studentCode := (truthy (dto.studentCode.map trim) <|>
    truthy (dto.studentNumber.map trim)).getD
      (deriveStudentCode (truthy dto.nationalCode <|> creds.nationalId) (some dto.phone) draws)
  require (¬ db.students.rows.any fun p => p.tenantId = tenantId ∧
      (p.studentCode = studentCode ∨ creds.nationalId.isSome ∧ p.nationalCode = creds.nationalId))
    (.conflict ("شماره دانش‌آموزی یا کد ملی '" ++ studentCode ++ "' قبلاً ثبت شده است"))
  require (¬ db.users.rows.any fun u => u.tenantId = tenantId ∧ (u.username = some creds.username ∨
        creds.nationalId.isSome ∧ u.nationalId = creds.nationalId))
    (.conflict ("کاربر با کد ملی / نام کاربری '" ++ creds.username ++
      "' قبلاً در این مرکز ثبت شده است"))
  let user : User :=
    { id := db.users.fresh
      tenantId
      firstName := dto.firstName
      lastName := dto.lastName
      phone := some dto.userPhone
      username := some creds.username
      nationalId := creds.nationalId
      passwordHash := x.hash draws.memberSeed creds.finalPassword
      role := .student }
  let db ← db.createUser user
  let profile : StudentProfile :=
    { id := db.students.fresh
      tenantId
      userId := user.id
      studentCode
      nationalCode := dto.nationalCode
      fatherFullName := dto.fatherFullName
      fatherPhone := dto.fatherPhone
      motherFullName := dto.motherFullName
      motherPhone := dto.motherPhone }
  let db ← db.createStudentProfile profile
  pure (db,
    { profile
      user := some user
      info :=
        { studentNationalCode := creds.nationalId <|> dto.nationalCode
          fatherFullName := dto.fatherFullName
          motherFullName := dto.motherFullName
          fatherPhone := dto.fatherPhone
          motherPhone := dto.motherPhone
          phone := some dto.phone
          studentLastName := some dto.lastName } })

def createStudent (dto : CreateStudentDto) (env : Env) (db : Db) : Result Db :=
  finish x tenantId env (createStudentAccount x tenantId dto env.draws db)

/-- A field that is there may be null, where null is written. -/
structure UpdateStudentDto where
  (firstName lastName phone studentMobile studentCode : Option String := none)
  (nationalCode fatherFullName fatherPhone motherFullName
    motherPhone : Option (Option String) := none)

def UpdateStudentDto.userPhone (dto : UpdateStudentDto) : Option String :=
  truthy dto.studentMobile <|> truthy dto.phone

def findStudent (t : Tables) (studentId : Id) : Option StudentProfile :=
  t.students.rows.find? fun p => p.id = studentId ∧ p.tenantId = tenantId

/-- The student `updateStudent` finds, and what it writes to the user and the profile. -/
def updateStudentAccount (studentId : Id) (dto : UpdateStudentDto) (db : Db) :
    Result (Db × StudentSync) := do
  let profile ← orFail (findStudent tenantId db.toTables studentId)
    (.notFound "پروفایل دانش‌آموز یافت نشد")
  let db ← db.updateUser profile.userId
    { firstName := truthy dto.firstName
      lastName := truthy dto.lastName
      phone := dto.userPhone
      nationalId := truthy dto.nationalCode.join }
  let data : StudentUpdate :=
    { studentCode := truthy dto.studentCode
      nationalCode := dto.nationalCode
      fatherFullName := dto.fatherFullName
      fatherPhone := dto.fatherPhone
      motherFullName := dto.motherFullName
      motherPhone := dto.motherPhone }
  let db ← db.updateStudentProfile profile.id data
  let updated := data.apply profile
  let user := db.users.find? profile.userId
  pure (db,
    { profile := updated
      user
      info :=
        { studentNationalCode := updated.nationalCode
          fatherFullName := updated.fatherFullName
          motherFullName := updated.motherFullName
          fatherPhone := updated.fatherPhone
          motherPhone := updated.motherPhone
          phone := user.bind (·.phone)
          studentLastName := user.map (·.lastName) } })

def updateStudent (studentId : Id) (dto : UpdateStudentDto) (env : Env) (db : Db) :
    Result Db :=
  finish x tenantId env (updateStudentAccount tenantId studentId dto db)

/-- The user is a teacher, a member of staff, a coach or a parent. -/
def hasProfile (t : Tables) (userId : Id) : Bool :=
  [t.teachers, t.staff, t.coaches, t.parents].any fun profiles =>
    profiles.rows.any fun p => p.userId = userId

/-- The profile goes, and with the last profile the account. Rows outside this database may refuse
that (`refused`): the transaction is aborted then, so the suspension that is to take the place of the
deletion fails as well. -/
def deleteStudent (studentId : Id) (refused : Bool) (db : Db) : Result Db := do
  let student ← orFail (findStudent tenantId db.toTables studentId)
    (.notFound "دانش‌آموز مورد نظر در این مدرسه یافت نشد")
  let db := db.deleteStudentProfile student.id
  if hasProfile db.toTables student.userId then pure db
  else if refused then .error (.database .foreignKey)
  else pure (db.deleteUser student.userId)

/-! ### Teachers -/

structure CreateTeacherDto where
  (firstName lastName phone : String)
  (nationalCode email password : Option String := none)

def createTeacher (dto : CreateTeacherDto) (env : Env) (db : Db) : Result Db := do
  let creds := generateUnifiedCredentials x.lower (db.tenants.find? tenantId) dto.nationalCode
    (some dto.phone) dto.password env.draws
  let userId := db.users.fresh
  let db ← db.createUser
    { id := userId
      tenantId
      firstName := dto.firstName
      lastName := dto.lastName
      phone := some dto.phone
      username := if creds.username ≠ dto.phone then some creds.username else none
      nationalId := creds.nationalId
      email := dto.email
      passwordHash := x.hash env.draws.memberSeed creds.finalPassword
      role := .teacher }
  let db ← db.createTeacherProfile { id := 0, tenantId, userId }
  env.placed
  pure db

end Rokad.Members
