import Rokad.Members.Import

/-!
# Calls about students

`createStudent`, `updateStudent` and each row of `bulkImportStudents` are transactions of one shape:
they record a student, with the user, and give the parents an account. `record_cases` and
`syncParentForStudent_ok` say what a transaction that went through did; what every transaction keeps
a call keeps, and so a run (`StudentCall.keeps`).
-/

namespace Rokad.Members

open Rokad.Base Rokad.Auth
open Rokad.Common (Id)

inductive Transaction where
  | create (dto : CreateStudentDto) (env : Env)
  | update (studentId : Id) (dto : UpdateStudentDto) (env : Env)
  | row (item : ImportItem) (env : RowEnv)

inductive StudentCall where
  | createStudent (dto : CreateStudentDto) (env : Env)
  | updateStudent (studentId : Id) (dto : UpdateStudentDto) (env : Env)
  | bulkImportStudents (rows : List (Option ImportRow × RowEnv))

section

variable (x : MemberHost) (A : Id)

namespace Transaction

def env : Transaction → Env
  | .create _ env | .update _ _ env => env
  | .row _ env => env.toEnv

/-- The first part of a transaction: the student and the user. -/
def record (db : Db) : Transaction → Result (Db × StudentSync)
  | .create dto env => createStudentAccount x A dto env.draws db
  | .update studentId dto _ => updateStudentAccount A studentId dto db
  | .row item env => importAccount x A item env db

def commit (db : Db) (move : Transaction) : Result Db :=
  finish x A move.env (move.record x A db)

end Transaction

/-- The database after a call. -/
def StudentCall.step (db : Db) : StudentCall → Db
  | .createStudent dto env => settled db (Members.createStudent x A dto env db)
  | .updateStudent studentId dto env => settled db (Members.updateStudent x A studentId dto env db)
  | .bulkImportStudents rows => (Members.bulkImportStudents x A rows db).1

/-- `P` holds of every row, in the state the rows before it left. -/
def RowsMeet (P : Db → Transaction → Prop) : List (Option ImportRow × RowEnv) → Db → Prop
  | [], _ => True
  | (row, env) :: rest, db =>
    let item := readItem x.lower (row.getD [])
    P db (.row item env) ∧
      match importRow x A item env db with
      | .ok next => RowsMeet P rest next
      | .error _ => row.isSome → RowsMeet P rest db

/-- `P` holds of every transaction of the call, in the state it starts from. -/
def StudentCall.Meets (P : Db → Transaction → Prop) (db : Db) : StudentCall → Prop
  | .createStudent dto env => P db (.create dto env)
  | .updateStudent studentId dto env => P db (.update studentId dto env)
  | .bulkImportStudents rows => RowsMeet x A P rows db

variable {x A} {P Q : Db → Transaction → Prop} {I : Db → Prop} {db db' : Db}

/-! ### What every transaction keeps -/

theorem settled_keeps {result : Result Db} (keep : ∀ next, result = .ok next → I next)
    (start : I db) : I (settled db result) := by
  cases result with
  | ok next => exact keep next rfl
  | error e => exact start

section

variable (keep : ∀ db move next, P db move → move.commit x A db = .ok next → I db → I next)
include keep

/-- Induction on the rows: each moves the database by one transaction, or not at all. -/
theorem importRows_keeps
    {rows : List (Option ImportRow × RowEnv)} (meet : RowsMeet x A P rows db) (start : I db) (i : ℕ)
    (results : ImportResults) : I (importRows x A i rows db results).1 := by
  induction rows generalizing db i results with
  | nil => exact start
  | cons first rest ih =>
    obtain ⟨row, env⟩ := first
    obtain ⟨meets, later⟩ := meet
    unfold importRows
    dsimp only
    cases done : importRow x A (readItem x.lower (row.getD [])) env db with
    | ok next =>
      rw [done] at later
      exact ih later (keep db (.row _ env) next meets done start) _ _
    | error e =>
      rw [done] at later
      cases row with
      | none => exact start
      | some row => exact ih (later rfl) start _ _

/-- What every transaction keeps that meets `P` a call keeps. -/
theorem StudentCall.keeps
    {call : StudentCall} (meets : call.Meets x A P db) (start : I db) : I (call.step x A db) := by
  cases call with
  | createStudent dto env =>
    exact settled_keeps (fun next done => keep db (.create dto env) next meets done start) start
  | updateStudent studentId dto env =>
    exact settled_keeps (fun next done => keep db (.update studentId dto env) next meets done start)
      start
  | bulkImportStudents rows => exact importRows_keeps keep meets start 0 _

end

/-- A transaction records the student and then gives the parents their account. -/
theorem Transaction.commit_ok {move : Transaction} (done : move.commit x A db = .ok db') :
    ∃ mid sync, move.record x A db = .ok (mid, sync) ∧ move.env.placed = .ok () ∧
      syncParentForStudent x A sync move.env.draws mid = .ok db' := by
  obtain ⟨⟨mid, sync⟩, recorded, done⟩ := bind_eq_ok.mp done
  obtain ⟨⟨⟩, placed, synced⟩ := bind_eq_ok.mp done
  exact ⟨mid, sync, recorded, placed, synced⟩

end

/-! ### The student -/

/-- A student is created, with the user. -/
structure Creates (A : Id) (db db' : Db) (user : User) (profile : StudentProfile) : Prop where
  school : user.tenantId = A ∧ profile.tenantId = A
  role : user.role = .student
  owner : profile.userId = user.id
  users : db.users.insert user = some db'.users
  students : db.students.insert profile = some db'.students
  tables : db'.toTables = { db.toTables with users := db'.users, students := db'.students }

/-- What is written to a student who is there, and to the user. -/
structure Updates (db db' : Db) (profile : StudentProfile) (data : UserUpdate)
    (changes : StudentUpdate) : Prop where
  found : profile ∈ db.students.rows
  username : data.username = none
  passwordHash : data.passwordHash = none
  users : db.users.update profile.userId data.apply data.key_apply = some db'.users
  students : db.students.update profile.id changes.apply changes.key_apply = some db'.students
  tables : db'.toTables = { db.toTables with users := db'.users, students := db'.students }

/-- What `updateStudent` writes to the user, and to the profile. -/
def UpdateStudentDto.userUpdate (dto : UpdateStudentDto) : UserUpdate where
  firstName := truthy dto.firstName
  lastName := truthy dto.lastName
  phone := dto.userPhone
  nationalId := truthy dto.nationalCode.join

def UpdateStudentDto.changes (dto : UpdateStudentDto) : StudentUpdate where
  studentCode := truthy dto.studentCode
  nationalCode := dto.nationalCode
  fatherFullName := dto.fatherFullName
  fatherPhone := dto.fatherPhone
  motherFullName := dto.motherFullName
  motherPhone := dto.motherPhone

/-- The student `updateStudent` finds the parents of. -/
def UpdateStudentDto.sync (dto : UpdateStudentDto) (profile : StudentProfile) (user : User) :
    StudentSync :=
  let updated := dto.changes.apply profile
  let user := dto.userUpdate.apply user
  { profile := updated
    user := some user
    info :=
      { studentNationalCode := updated.nationalCode
        fatherFullName := updated.fatherFullName
        motherFullName := updated.motherFullName
        fatherPhone := updated.fatherPhone
        motherPhone := updated.motherPhone
        phone := user.phone
        studentLastName := some user.lastName } }

section

variable {x : MemberHost} {A : Id} {db mid db' : Db} {sync : StudentSync} {draws : Draws}

theorem creates {user : User} {profile : StudentProfile} (school : user.tenantId = A)
    (inSchool : profile.tenantId = A) (role : user.role = .student)
    (owner : profile.userId = user.id) (isFresh : user.id = db.users.fresh)
    (profileFresh : profile.id = mid.students.fresh) (created : db.createUser user = .ok mid)
    (profiled : mid.createStudentProfile profile = .ok db') : Creates A db db' user profile := by
  obtain ⟨inserted, same⟩ := Db.createUser_ok created
  have students : mid.students = db.students := by rw [same]
  have added := Db.createStudentProfile_inserted profiled
  have last := Db.createStudentProfile_ok profiled
  have users : db'.users = mid.users := by rw [last]
  refine ⟨⟨school, inSchool⟩, role, owner, ?_, ?_, ?_⟩
  · rw [users, ← inserted, ← isFresh]
  · rw [← added, ← profileFresh, students]
  · rw [last, same]

theorem updates {profile : StudentProfile} {data : UserUpdate} {changes : StudentUpdate}
    (found : profile ∈ db.students.rows) (username : data.username = none)
    (passwordHash : data.passwordHash = none)
    (updated : db.updateUser profile.userId data = .ok mid)
    (profiled : mid.updateStudentProfile profile.id changes = .ok db') :
    Updates db db' profile data changes := by
  obtain ⟨written, same⟩ := Db.updateUser_ok updated
  have students : mid.students = db.students := by rw [same]
  have changed := Db.updateStudentProfile_updated profiled
  have last := Db.updateStudentProfile_ok profiled
  have users : db'.users = mid.users := by rw [last]
  refine ⟨found, username, passwordHash, ?_, ?_, ?_⟩
  · rw [users, written]
  · rw [← changed, students]
  · rw [last, same]

theorem createStudentAccount_ok {dto : CreateStudentDto}
    (done : createStudentAccount x A dto draws db = .ok (db', sync)) :
    let creds := generateUnifiedCredentials x.lower (db.tenants.find? A) dto.nationalCode
      (some dto.phone) dto.password draws
    ∃ user, Creates A db db' user sync.profile ∧ user.phone = some dto.userPhone ∧
      user.username = some creds.username ∧ user.nationalId = creds.nationalId ∧
      sync.profile.nationalCode = dto.nationalCode ∧
      sync.info.studentNationalCode = (creds.nationalId <|> dto.nationalCode) := by
  obtain ⟨-, -, done⟩ := bind_eq_ok.mp done
  obtain ⟨-, -, done⟩ := bind_eq_ok.mp done
  obtain ⟨mid, created, done⟩ := bind_eq_ok.mp done
  obtain ⟨last, profiled, done⟩ := bind_eq_ok.mp done
  cases done
  exact ⟨_, creates rfl rfl rfl rfl rfl rfl created profiled, rfl, rfl, rfl, rfl, rfl⟩

theorem updateStudentAccount_ok {studentId : Id} {dto : UpdateStudentDto}
    (done : updateStudentAccount A studentId dto db = .ok (db', sync)) :
    ∃ profile user, findStudent A db.toTables studentId = some profile ∧
      db.users.find? profile.userId = some user ∧
      Updates db db' profile dto.userUpdate dto.changes ∧ sync = dto.sync profile user := by
  obtain ⟨profile, found, done⟩ := bind_eq_ok.mp done
  obtain ⟨mid, updated, done⟩ := bind_eq_ok.mp done
  obtain ⟨last, profiled, done⟩ := bind_eq_ok.mp done
  cases done
  have isFound := orFail_eq_ok.mp found
  obtain ⟨written, -⟩ := Db.updateUser_ok updated
  obtain ⟨user, isUser⟩ := Table.find?_of_update written
  have users : db'.users = mid.users := by rw [Db.updateStudentProfile_ok profiled]
  have after : db'.users.find? profile.userId = some (dto.userUpdate.apply user) := by
    rw [users]
    exact find?_update_self written isUser
  refine ⟨profile, user, isFound, isUser,
    updates (List.mem_of_find?_eq_some isFound) rfl rfl updated profiled, ?_⟩
  rw [after]
  rfl

/-- The student a row is about is there, with the user. -/
theorem existing_spec {item : ImportItem} {env : RowEnv} {t : Tables} {profile : StudentProfile}
    {user : User} (existing : item.existing x A env t = some (profile, user)) :
    profile ∈ t.students.rows ∧ user ∈ t.users.rows ∧ user.id = profile.userId := by
  unfold ImportItem.existing existingStudent at existing
  dsimp only at existing
  simp only [Option.orElse_eq_orElse, Option.orElse_eq_or, Option.or_eq_some_iff,
    Option.bind_eq_bind, Option.pure_def, Option.bind_eq_some_iff, Option.some.injEq,
    Prod.mk.injEq] at existing
  rcases existing with found | ⟨-, found⟩
  · obtain ⟨_, isProfile, _, isUser, rfl, rfl⟩ := found
    exact ⟨List.mem_of_find?_eq_some isProfile, mem_of_find? isUser, key_of_find? isUser⟩
  · obtain ⟨_, isUser, _, isProfile, rfl, rfl⟩ := found
    have owner := List.find?_some isProfile
    simp only [decide_eq_true_eq] at owner
    exact ⟨List.mem_of_find?_eq_some isProfile, List.mem_of_find?_eq_some isUser, owner.symm⟩

theorem importAccount_ok {item : ImportItem} {env : RowEnv}
    (done : importAccount x A item env db = .ok (db', sync)) :
    let creds := item.creds x.lower (db.tenants.find? A) env
    (∃ profile user data changes, item.existing x A env db.toTables = some (profile, user) ∧
      Updates db db' profile data changes ∧ data.phone = keptPhone (item.phone env) ∧
      data.nationalId = creds.nationalId ∧ changes.studentCode = some (item.code creds env) ∧
      changes.nationalCode = creds.nationalId.map some ∧ sync.profile = profile ∧
      sync.info.studentNationalCode = (creds.nationalId <|> profile.nationalCode)) ∨
    item.existing x A env db.toTables = none ∧
      ∃ user, Creates A db db' user sync.profile ∧
        user.phone = some (safePhone A db.toTables (item.phone env) env) ∧
        user.username = some creds.username ∧ user.nationalId = creds.nationalId ∧
        sync.profile.nationalCode = creds.nationalId ∧
        sync.info.studentNationalCode = creds.nationalId := by
  unfold importAccount at done
  dsimp only at done ⊢
  split at done
  · rename_i profile user existing
    obtain ⟨mid, updated, done⟩ := bind_eq_ok.mp done
    obtain ⟨last, profiled, done⟩ := bind_eq_ok.mp done
    cases done
    obtain ⟨mem, -, owner⟩ := existing_spec existing
    rw [owner] at updated
    exact .inl ⟨profile, user, _, _, existing, updates mem rfl rfl updated profiled, rfl, rfl, rfl,
      rfl, rfl, rfl⟩
  · rename_i existing
    obtain ⟨mid, created, done⟩ := bind_eq_ok.mp done
    obtain ⟨last, profiled, done⟩ := bind_eq_ok.mp done
    cases done
    exact .inr ⟨existing, _, creates rfl rfl rfl rfl rfl rfl created profiled, rfl, rfl, rfl, rfl,
      rfl⟩

/-- Users who were there keep their user names, passwords and roles. -/
theorem Updates.user {profile : StudentProfile} {data : UserUpdate} {changes : StudentUpdate}
    (updated : Updates db db' profile data changes) {u : User} (mem : u ∈ db.users.rows) :
    ∃ u' ∈ db'.users.rows, u'.id = u.id ∧ u'.tenantId = u.tenantId ∧ u'.username = u.username ∧
      u'.passwordHash = u.passwordHash ∧ u'.role = u.role := by
  by_cases written : u.id = profile.userId
  · refine ⟨data.apply u, (mem_update updated.users).mpr (.inr ⟨u, ?_, rfl⟩), rfl, rfl, ?_, ?_, rfl⟩
    · exact written ▸ find?_key _ mem
    · simp [UserUpdate.apply, updated.username]
    · simp [UserUpdate.apply, updated.passwordHash]
  · exact ⟨u, (mem_update updated.users).mpr (.inl ⟨mem, written⟩), rfl, rfl, rfl, rfl, rfl⟩

theorem Updates.userBefore {profile : StudentProfile} {data : UserUpdate} {changes : StudentUpdate}
    (updated : Updates db db' profile data changes) {u' : User} (mem : u' ∈ db'.users.rows) :
    ∃ u ∈ db.users.rows, u.id = u'.id ∧ u.username = u'.username ∧
      u.passwordHash = u'.passwordHash ∧ u.role = u'.role := by
  rcases (mem_update updated.users).mp mem with ⟨before, -⟩ | ⟨u, found, rfl⟩
  · exact ⟨u', before, rfl, rfl, rfl, rfl⟩
  · refine ⟨u, mem_of_find? found, rfl, ?_, ?_, rfl⟩
    · simp [UserUpdate.apply, updated.username]
    · simp [UserUpdate.apply, updated.passwordHash]

/-- A student is created or updated, and user names, passwords and roles of those who were there
stay. -/
theorem record_cases {move : Transaction} (recorded : move.record x A db = .ok (db', sync)) :
    (∃ user, Creates A db db' user sync.profile) ∨
      ∃ profile data changes, Updates db db' profile data changes ∧ sync.profile.id = profile.id := by
  cases move with
  | create dto env =>
    obtain ⟨user, created, -⟩ := createStudentAccount_ok recorded
    exact .inl ⟨user, created⟩
  | update studentId dto env =>
    obtain ⟨profile, user, -, -, updated, rfl⟩ := updateStudentAccount_ok recorded
    exact .inr ⟨profile, _, _, updated, rfl⟩
  | row item env =>
    rcases importAccount_ok recorded with
      ⟨profile, user, data, changes, -, updated, -, -, -, -, same, -⟩ | ⟨-, user, created, -⟩
    · exact .inr ⟨profile, data, changes, updated, by rw [same]⟩
    · exact .inl ⟨user, created⟩

end

/-! ### The parents -/

/-- The user has a parent profile, which may be new, and a new link ties it to the student. -/
def Joins (A studentId userId : Id) (t t' : Tables) : Prop :=
  ∃ (parent : Profile) (link : ParentStudentLink), parent.userId = userId ∧
    (∀ p, p ∈ t'.parents.rows ↔ p ∈ t.parents.rows ∨ p = parent) ∧
    link.tenantId = A ∧ link.parentId = parent.id ∧ link.studentId = studentId ∧
    t.links.insert link = some t'.links

variable {x : MemberHost} {A : Id} {db mid db' : Db} {sync : StudentSync} {draws : Draws}

theorem ensureParentProfile_ok {userId parentId : Id}
    (done : ensureParentProfile A userId db = .ok (db', parentId)) :
    db'.toTables = { db.toTables with parents := db'.parents } ∧
      ∃ parent, parent.userId = userId ∧ parent.id = parentId ∧
        ∀ p, p ∈ db'.parents.rows ↔ p ∈ db.parents.rows ∨ p = parent := by
  unfold ensureParentProfile at done
  split at done
  · rename_i parent found
    cases done
    have owner := List.find?_some found
    simp only [decide_eq_true_eq] at owner
    refine ⟨rfl, parent, owner, rfl, fun p => ⟨Or.inl, ?_⟩⟩
    rintro (mem | rfl)
    · exact mem
    · exact List.mem_of_find?_eq_some found
  · obtain ⟨last, profiled, done⟩ := bind_eq_ok.mp done
    cases done
    exact ⟨Db.createParentProfile_ok profiled, _, rfl, rfl,
      fun p => mem_insert (Db.createParentProfile_inserted profiled)⟩

/-- What the parents of a student are given. -/
theorem syncParentForStudent_ok (done : syncParentForStudent x A sync draws db = .ok db') :
    let creds := parentCredentials sync draws
    db'.students = db.students ∧
      match sync.account A db.toTables draws with
      | .linked parent phone => db'.parents = db.parents ∧ db'.links = db.links ∧
          ∃ data : UserUpdate, data.phone = phone ∧ data.username = some creds.username ∧
            data.passwordHash = some (x.hash draws.parentSeed creds.finalPassword) ∧ data.nationalId = none ∧
            db.users.update parent.userId data.apply data.key_apply = some db'.users
      | .found user => Joins A sync.profile.id user.id db.toTables db'.toTables ∧
          ∃ data : UserUpdate, data.username = none ∧
            data.passwordHash = some (x.hash draws.parentSeed creds.finalPassword) ∧ data.nationalId = none ∧
            db.users.update user.id data.apply data.key_apply = some db'.users
      | .new _ => ∃ user : User, Joins A sync.profile.id user.id db.toTables db'.toTables ∧
          user.role = .parent ∧ user.username = some creds.username ∧
          user.passwordHash = x.hash draws.parentSeed creds.finalPassword ∧
          db.users.insert user = some db'.users := by
  unfold syncParentForStudent at done
  dsimp only at done ⊢
  cases account : sync.account A db.toTables draws with
  | linked parent phone =>
    rw [account] at done
    obtain ⟨written, same⟩ := Db.updateUser_ok done
    exact ⟨by rw [same], by rw [same], by rw [same], _, rfl, rfl, rfl, rfl, written⟩
  | found user =>
    rw [account] at done
    dsimp only at done
    obtain ⟨⟨mid, parentId⟩, profiled, done⟩ := bind_eq_ok.mp done
    obtain ⟨last, updated, linked⟩ := bind_eq_ok.mp done
    obtain ⟨same, parent, owner, rfl, parents⟩ := ensureParentProfile_ok profiled
    obtain ⟨written, sameLast⟩ := Db.updateUser_ok updated
    have sameEnd := Db.createLink_ok linked
    have inserted := Db.createLink_inserted linked
    have users : db'.users = last.users := by rw [sameEnd]
    have before : mid.users = db.users := by rw [same]
    have profiles : db'.parents = mid.parents := by rw [sameEnd, sameLast]
    have links : last.links = db.links := by rw [sameLast, same]
    refine ⟨by rw [sameEnd, sameLast, same], ⟨parent, _, owner, ?_, rfl, rfl, rfl, links ▸ inserted⟩,
      { passwordHash := some (x.hash draws.parentSeed (parentCredentials sync draws).finalPassword) },
      rfl, rfl, rfl, ?_⟩
    · rw [profiles]
      exact parents
    · rw [users, ← before]
      exact written
  | new phone =>
    rw [account] at done
    obtain ⟨mid, created, done⟩ := bind_eq_ok.mp done
    obtain ⟨last, profiled, linked⟩ := bind_eq_ok.mp done
    obtain ⟨inserted, same⟩ := Db.createUser_ok created
    have sameLast := Db.createParentProfile_ok profiled
    have added := Db.createParentProfile_inserted profiled
    have sameEnd := Db.createLink_ok linked
    have joined := Db.createLink_inserted linked
    have users : db'.users = mid.users := by rw [sameEnd, sameLast]
    have before : mid.parents = db.parents := by rw [same]
    have profiles : db'.parents = last.parents := by rw [sameEnd]
    have links : last.links = db.links := by rw [sameLast, same]
    refine ⟨by rw [sameEnd, sameLast, same], _,
      ⟨{ id := mid.parents.fresh, tenantId := A, userId := db.users.fresh }, _, rfl, ?_, rfl, ?_, rfl,
        links ▸ joined⟩, rfl, rfl, rfl, users ▸ inserted⟩
    · intro p
      rw [profiles, ← before]
      exact mem_insert added
    · rfl

end Rokad.Members
