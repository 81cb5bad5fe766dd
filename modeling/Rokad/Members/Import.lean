import Rokad.Members.Service

/-!
# Importing students

`bulkImportStudents`: each row of a sheet is one transaction, which updates the student it is about
or records a new one. A row that fails is reported and the next one follows.
-/

namespace Rokad.Members

open Rokad.Base Rokad.Auth
open Rokad.Common (Id normalizePersianDigits)

/-! ### Rows -/

/-- The columns of a row that hold a value, with its text. -/
abbrev ImportRow := List (String × String)

/-- What the import of a row draws. -/
structure RowEnv extends Env where
  /-- `Math.floor(Math.random() * 1000000000)`, for a row without a phone -/
  phone : ℕ
  /-- the same, for a phone that is taken -/
  safePhone : ℕ

def randomPhone (drawn : ℕ) : String := "09" ++ padZeros 9 (toString drawn)

/-- `String(x).trim()`, unless it is empty. -/
def nonBlank (s : String) : Option String := truthy (some (trim s))

section

variable (lower : String → String)

def cleanStr (s : String) : String :=
  lower (trim (withoutSpaces (String.ofList
    (s.toList.filter fun c => c ∉ [':', '：', '\u200c', '\u200b']))))

/-- The column under one of the names, or else under one that reads like it. -/
def extractField (row : ImportRow) (keys : List String) : Option String :=
  (keys.findSome? fun key => (row.lookup key).bind nonBlank) <|>
    row.findSome? fun (rowKey, rowVal) =>
      if cleanStr lower rowKey ∈ keys.map (cleanStr lower) then nonBlank rowVal else none

structure ImportItem where
  (firstName lastName : String)
  (nationalCode fatherFullName fatherPhone motherFullName motherPhone studentMobile
    studentCode : Option String)

def readItem (row : ImportRow) : ImportItem where
  firstName := (extractField lower row
    ["نام", "نام کوچک", "نام دانش آموز", "نام دانش‌آموز", "firstName"]).getD "دانش‌آموز"
  lastName := (extractField lower row
    ["نام خانوادگی", "نام‌خانوادگی", "فامیل", "lastName"]).getD "بدون فامیل"
  nationalCode := extractField lower row
    ["کد ملی", "کدملی", "کد_ملی", "کد ملی دانش آموز", "کد ملی دانش‌آموز", "nationalCode"]
  fatherFullName := extractField lower row
    ["نام و نام‌خانوادگی پدر", "نام و نام خانوادگی پدر", "fatherFullName"]
  fatherPhone := extractField lower row
    ["شماره همراه پدر", "موبایل پدر", "تلفن پدر", "fatherPhone"]
  motherFullName := extractField lower row
    ["نام و نام‌خانوادگی مادر", "نام و نام خانوادگی مادر", "motherFullName"]
  motherPhone := extractField lower row
    ["شماره همراه مادر", "موبایل مادر", "تلفن مادر", "motherPhone"]
  studentMobile := extractField lower row
    ["شماره همراه دانش‌آموز", "شماره همراه دانش آموز", "موبایل دانش آموز", "موبایل دانش‌آموز",
      "شماره همراه", "studentMobile"]
  studentCode := extractField lower row ["شماره دانش آموزی", "شماره دانش‌آموزی", "studentCode"]

end

namespace ImportItem

variable (item : ImportItem)

/-- The phone of the student, or of a parent, or one that is drawn. -/
def phone (env : RowEnv) : String :=
  (item.studentMobile <|> item.fatherPhone <|> item.motherPhone).getD (randomPhone env.phone)

def creds (lower : String → String) (tenant : Option Tenant) (env : RowEnv) :
    UnifiedCredentials :=
  generateUnifiedCredentials lower tenant item.nationalCode (some (item.phone env)) none env.draws

def code (creds : UnifiedCredentials) (env : RowEnv) : String :=
  item.studentCode.getD (deriveStudentCode (item.nationalCode <|> creds.nationalId)
    (some (item.phone env)) env.draws)

end ImportItem

/-! ### One row -/

variable (x : MemberHost) (tenantId : Id)

/-- The student with the code or the national code, or whose account has the national code or the
user name. -/
def existingStudent (t : Tables) (creds : UnifiedCredentials) (studentCode : String) :
    Option (StudentProfile × User) :=
  let byCode := do
    let profile ← t.students.rows.find? fun p => p.tenantId = tenantId ∧
      (p.studentCode = studentCode ∨ creds.nationalId.isSome ∧ p.nationalCode = creds.nationalId)
    let user ← t.users.find? profile.userId
    pure (profile, user)
  let byAccount := do
    let user ← t.users.rows.find? fun u => u.tenantId = tenantId ∧ u.role = .student ∧
      (creds.nationalId.isSome ∧ u.nationalId = creds.nationalId ∨ u.username = some creds.username)
    let profile ← t.students.rows.find? fun p => p.userId = user.id
    pure (profile, user)
  byCode <|> byAccount

/-- The phone a row leaves an account that is there. -/
def keptPhone (phone : String) : Option String :=
  if "0900000000".toList.isPrefixOf phone.toList then none else some phone

/-- A student who is there: the parents are looked for with the profile as it was. -/
def updateImported (item : ImportItem) (creds : UnifiedCredentials) (studentCode phone : String)
    (profile : StudentProfile) (user : User) (db : Db) : Result (Db × StudentSync) := do
  let db ← db.updateUser user.id
    { firstName := if item.firstName ≠ "دانش‌آموز" then some item.firstName else none
      lastName := if item.lastName ≠ "بدون فامیل" then some item.lastName else none
      phone := keptPhone phone
      nationalId := creds.nationalId }
  let db ← db.updateStudentProfile profile.id
    { studentCode := some studentCode
      nationalCode := creds.nationalId.map some
      fatherFullName := item.fatherFullName.map some
      fatherPhone := item.fatherPhone.map some
      motherFullName := item.motherFullName.map some
      motherPhone := item.motherPhone.map some }
  pure (db,
    { profile
      user := some user
      info :=
        { studentNationalCode := creds.nationalId <|> profile.nationalCode
          fatherFullName := item.fatherFullName <|> profile.fatherFullName
          motherFullName := item.motherFullName <|> profile.motherFullName
          fatherPhone := item.fatherPhone <|> profile.fatherPhone
          motherPhone := item.motherPhone <|> profile.motherPhone
          phone := some phone
          studentLastName := some item.lastName } })

/-- The phone a new account gets: one that no account of the school has. -/
def safePhone (t : Tables) (phone : String) (env : RowEnv) : String :=
  if (phoneOwner t tenantId phone).isSome then randomPhone env.safePhone else phone

def createImported (item : ImportItem) (creds : UnifiedCredentials) (studentCode phone : String)
    (env : RowEnv) (db : Db) : Result (Db × StudentSync) := do
  let userId := db.users.fresh
  let db ← db.createUser
    { id := userId
      tenantId
      firstName := item.firstName
      lastName := item.lastName
      phone := some (safePhone tenantId db.toTables phone env)
      username := some creds.username
      nationalId := creds.nationalId
      passwordHash := x.hash env.draws.memberSeed creds.finalPassword
      role := .student }
  let profile : StudentProfile :=
    { id := db.students.fresh
      tenantId
      userId
      studentCode
      nationalCode := creds.nationalId
      fatherFullName := item.fatherFullName
      fatherPhone := item.fatherPhone
      motherFullName := item.motherFullName
      motherPhone := item.motherPhone }
  let db ← db.createStudentProfile profile
  pure (db,
    { profile
      user := none
      info :=
        { studentNationalCode := creds.nationalId
          fatherFullName := item.fatherFullName
          motherFullName := item.motherFullName
          fatherPhone := item.fatherPhone
          motherPhone := item.motherPhone
          phone := some phone
          studentLastName := some item.lastName } })

/-- The student the row is about, if there is one. -/
def ImportItem.existing (item : ImportItem) (env : RowEnv) (t : Tables) :
    Option (StudentProfile × User) :=
  let creds := item.creds x.lower (t.tenants.find? tenantId) env
  existingStudent tenantId t creds (item.code creds env)

def importAccount (item : ImportItem) (env : RowEnv) (db : Db) :
    Result (Db × StudentSync) :=
  let creds := item.creds x.lower (db.tenants.find? tenantId) env
  let studentCode := item.code creds env
  match item.existing x tenantId env db.toTables with
  | some (profile, user) =>
    updateImported item creds studentCode (item.phone env) profile user db
  | none => createImported x tenantId item creds studentCode (item.phone env) env db

def importRow (item : ImportItem) (env : RowEnv) (db : Db) : Result Db :=
  finish x tenantId env.toEnv (importAccount x tenantId item env db)

/-! ### All rows -/

structure ImportResults where
  total : ℕ
  (success created updated failed : ℕ := 0)
  errors : List String := []

def ImportResults.count (results : ImportResults) (existing : Bool) : ImportResults :=
  if existing then { results with success := results.success + 1, updated := results.updated + 1 }
  else { results with success := results.success + 1, created := results.created + 1 }

/-- `row[key] || row[key + ':'] || ''` -/
def rowLabel (row : ImportRow) (key : String) : String :=
  (truthy (row.lookup key) <|> truthy (row.lookup (key ++ ":"))).getD ""

def ImportResults.fail (results : ImportResults) (i : ℕ) (row : ImportRow) (e : Failure) :
    ImportResults :=
  { results with
    failed := results.failed + 1
    errors := results.errors ++ ["ردیف " ++ toString (i + 1) ++ " (" ++ rowLabel row "نام" ++ " " ++
      rowLabel row "نام خانوادگی" ++ "): " ++ x.message e] }

/-- The rows from the `i`th on. A row may be null; to report that one fails throws. -/
def importRows : ℕ → List (Option ImportRow × RowEnv) → Db → ImportResults →
    Db × Option ImportResults
  | _, [], db, results => (db, some results)
  | i, (row, env) :: rest, db, results =>
    let item := readItem x.lower (row.getD [])
    match importRow x tenantId item env db with
    | .ok next => importRows (i + 1) rest next
        (results.count (item.existing x tenantId env db.toTables).isSome)
    | .error e =>
      match row with
      | none => (db, none)
      | some row => importRows (i + 1) rest db (results.fail x i row e)

def bulkImportStudents (rows : List (Option ImportRow × RowEnv)) (db : Db) :
    Db × Option ImportResults :=
  importRows x tenantId 0 rows db { total := rows.length }

end Rokad.Members
