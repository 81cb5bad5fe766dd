import Rokad.Members.Students

/-!
# One student for each national code

A code is stored as it is given to `createStudent` and `updateStudent`, and normalized by an import;
a user gets it normalized from `createStudent` and an import, and as it is given from
`updateStudent`. `createStudent` and an import look for the normal form among what is stored,
`updateStudent` looks for nothing.

The duplicate checks find every student with the code while the users carry the codes in their normal
form (`Registered`). This is kept by `createStudent` and by imports on their own, but for a row that
finds its student by the number or the user name and not by the code; what `updateStudent` writes
must be in normal form and new (`KeepsCodes`).

* `OnlyFor.created`, `OnlyFor.imported`: what the checks come to.
* `codes_unique`: in a run of such calls no two students ever have one code.
* `not_codes_unique`: a code that `updateStudent` wrote in Persian digits is not found.
-/

namespace Rokad.Members

open Rokad.Base Rokad.Auth
open Rokad.Common (Id)

/-! ### Codes -/

/-- The student has the national code, in some spelling. -/
def SameCode (p : StudentProfile) (code : Option String) : Prop :=
  normalizeNationalCode code ≠ "" ∧
    normalizeNationalCode p.nationalCode = normalizeNationalCode code
deriving Decidable

theorem SameCode.symm {p q : StudentProfile} (same : SameCode p q.nationalCode) :
    SameCode q p.nationalCode :=
  ⟨same.2 ▸ same.1, same.2.symm⟩

/-- No two students of the school have one national code, and the users of all carry theirs. -/
structure CodesUnique (A : Id) (t : Tables) : Prop where
  unique : ∀ p ∈ t.students.rows, ∀ q ∈ t.students.rows, p.tenantId = A → q.tenantId = A →
    SameCode p q.nationalCode → p = q
  carried : ∀ p ∈ t.students.rows, p.tenantId = A → ∀ u ∈ t.users.rows, u.id = p.userId →
    normalizeNationalCode u.nationalId = normalizeNationalCode p.nationalCode

/-- What the duplicate checks rest on: the user of a student is one of the school and carries the
code in its normal form, and every user who is a student has a profile. -/
structure Registered (A : Id) (t : Tables) : Prop extends CodesUnique A t where
  enrolled : ∀ p ∈ t.students.rows, p.tenantId = A → ∀ u ∈ t.users.rows, u.id = p.userId →
    u.tenantId = A ∧ u.role = .student ∧ (normalizeNationalCode p.nationalCode ≠ "" →
      u.nationalId = some (normalizeNationalCode p.nationalCode))
  profiled : ∀ u ∈ t.users.rows, u.tenantId = A → u.role = .student →
    ∃ p ∈ t.students.rows, p.userId = u.id

/-! ### Calls that keep the codes apart -/

section

variable (t : Tables)

/-- No student of the school other than the one has the code. -/
def OnlyFor (A : Id) (student : Option Id) (code : Option String) : Prop :=
  ∀ p ∈ t.students.rows, p.tenantId = A → SameCode p code → student = some p.id
deriving Decidable

/-- Another user of the school of the user has the phone or the user name. -/
def NameTakenFrom (userId : Id) (phone username : Option String) : Prop :=
  ∃ own ∈ t.users.rows, own.id = userId ∧ ∃ u ∈ t.users.rows, u.id ≠ userId ∧
    u.tenantId = own.tenantId ∧
    (sameText phone u.phone = true ∨ sameText username u.username = true)

/-- Another student of the school has the student code. -/
def NumberTaken (profile : StudentProfile) (studentCode : Option String) : Prop :=
  ∃ p ∈ t.students.rows, p.id ≠ profile.id ∧ p.tenantId = profile.tenantId ∧
    studentCode = some p.studentCode

/-- The account that is linked to the student cannot get the user name. -/
def ParentNameTaken (A : Id) (profile : StudentProfile) (username : String) : Prop :=
  ∃ parent, linkedParent t A profile.id = some parent ∧
    NameTakenFrom t parent.userId none (some username)

end

section

variable (x : MemberHost) (A : Id)

/-- Nothing is in the way of what is written to the student and to the account of the parents. -/
def UpdateStudentDto.Free (dto : UpdateStudentDto) (draws : Draws) (profile : StudentProfile)
    (user : User) (t : Tables) : Prop :=
  ¬ NameTakenFrom t user.id dto.userPhone none ∧
    ¬ NumberTaken t profile (truthy dto.studentCode) ∧
    ¬ ParentNameTaken t A profile (parentCredentials (dto.sync profile user) draws).username

def ImportItem.FreeToUpdate (item : ImportItem) (env : RowEnv) (profile : StudentProfile)
    (user : User) (t : Tables) : Prop :=
  let creds := item.creds x.lower (t.tenants.find? A) env
  ¬ NameTakenFrom t user.id (keptPhone (item.phone env)) none ∧
    ¬ NumberTaken t profile (some (item.code creds env)) ∧
    ¬ ParentNameTaken t A profile (generateParentCredentials creds.nationalId none env.draws).username

/-- Where nothing is in its way, `updateStudent` writes a code in its normal form that no other
student has, and takes no code away; and a row that finds a student of another code brings one that
nobody has. -/
def KeepsCodes (db : Db) (move : Transaction) : Prop :=
  move.env.placed = .ok () →
    match move with
    | .create _ _ => True
    | .update studentId dto env => ∀ profile user code,
        findStudent A db.toTables studentId = some profile →
        db.users.find? profile.userId = some user → dto.nationalCode = some code →
        dto.Free A env.draws profile user db.toTables →
        (normalizeNationalCode code ≠ "" → code = some (normalizeNationalCode code)) ∧
        OnlyFor db.toTables A (some profile.id) code ∧
          (truthy code = none → normalizeNationalCode profile.nationalCode = "")
    | .row item env => ∀ profile user code,
        item.existing x A env db.toTables = some (profile, user) →
        (item.creds x.lower (db.tenants.find? A) env).nationalId = some code →
        ¬ SameCode profile (some code) → item.FreeToUpdate x A env profile user db.toTables →
        profile.tenantId = A → OnlyFor db.toTables A none (some code)

end

/-! ### What is in the way of a write -/

section

variable {x : MemberHost} {A : Id} {db mid db' : Db}

theorem not_nameTakenFrom {userId : Id} {data : UserUpdate} {users : Table User}
    (updated : db.users.update userId data.apply data.key_apply = some users) :
    ¬ NameTakenFrom db.toTables userId data.phone data.username := by
  rintro ⟨own, memOwn, isOwn, u, mem, differ, sameSchool, taken⟩
  obtain ⟨row, found, clear, -⟩ := Table.update_spec.mp updated
  obtain rfl : row = own := db.users.eq_of_key_eq (mem_of_find? found) memOwn
    ((key_of_find? found).trans isOwn.symm)
  have apart := clear u mem differ
  rcases taken with phone | name
  · obtain ⟨p, given, has⟩ := sameText_iff.mp phone
    simp [Record.clash, UserUpdate.apply, sameSchool, given, has, sameText] at apart
  · obtain ⟨p, given, has⟩ := sameText_iff.mp name
    simp [Record.clash, UserUpdate.apply, sameSchool, given, has, sameText] at apart

theorem not_numberTaken {profile : StudentProfile} (found : profile ∈ db.students.rows)
    {changes : StudentUpdate} {students : Table StudentProfile}
    (updated : db.students.update profile.id changes.apply changes.key_apply = some students) :
    ¬ NumberTaken db.toTables profile changes.studentCode := by
  rintro ⟨p, mem, differ, sameSchool, taken⟩
  obtain ⟨row, isRow, clear, -⟩ := Table.update_spec.mp updated
  cases (find?_key db.students found).symm.trans isRow
  have apart := clear p mem differ
  simp [Record.clash, StudentUpdate.apply, sameSchool, taken] at apart

/-- The parents of a student who was updated got their user name. -/
theorem not_parentNameTaken {profile : StudentProfile} {data : UserUpdate} {changes : StudentUpdate}
    (updated : Updates db mid profile data changes) {sync : StudentSync}
    (isStudent : sync.profile.id = profile.id) {draws : Draws}
    (synced : syncParentForStudent x A sync draws mid = .ok db') :
    ¬ ParentNameTaken db.toTables A profile (parentCredentials sync draws).username := by
  rintro ⟨parent, linked, own, memOwn, isOwn, u, mem, differ, sameSchool, taken⟩
  have linkedMid : linkedParent mid.toTables A sync.profile.id = some parent := by
    rw [updated.tables, isStudent]
    exact linked
  obtain ⟨phone, account⟩ : ∃ phone, sync.account A mid.toTables draws = .linked parent phone := by
    unfold StudentSync.account parentAccount
    rw [linkedMid]
    exact ⟨_, rfl⟩
  obtain ⟨-, rest⟩ := syncParentForStudent_ok synced
  rw [account] at rest
  obtain ⟨-, -, written, -, name, -, -, done⟩ := rest
  obtain ⟨own', memOwn', sameOwn, schoolOwn, -⟩ := updated.user memOwn
  obtain ⟨u', mem', sameId, school, sameName, -⟩ := updated.user mem
  refine not_nameTakenFrom done ⟨own', memOwn', sameOwn.trans isOwn, u', mem', ?_, ?_, .inr ?_⟩
  · rw [sameId]
    exact differ
  · rw [school, schoolOwn, sameSchool]
  · rw [name, sameName]
    exact taken.resolve_left (by simp [sameText])

end

/-! ### What the checks find -/

section

variable {x : MemberHost} {A : Id} {db mid : Db} {sync : StudentSync}

/-- A student who has the code has a user whom the checks find by it. -/
theorem Registered.user_of_code (registered : Registered A db.toTables) {p : StudentProfile}
    (mem : p ∈ db.students.rows) (inSchool : p.tenantId = A) {code : Option String}
    (same : SameCode p code) : ∃ u ∈ db.users.rows, u.tenantId = A ∧ u.role = .student ∧
      u.nationalId = truthy (some (normalizeNationalCode code)) := by
  obtain ⟨u, found⟩ := has_some_iff.mp (db.foreignKeys.student_user p mem)
  have memUser := mem_of_find? found
  obtain ⟨school, role, carries⟩ :=
    registered.enrolled p mem inSchool u memUser (key_of_find? found)
  refine ⟨u, memUser, school, role, ?_⟩
  rw [carries (same.2 ▸ same.1), same.2, truthy, if_neg same.1]

theorem OnlyFor.created {dto : CreateStudentDto} {draws : Draws}
    (done : createStudentAccount x A dto draws db = .ok (mid, sync))
    (registered : Registered A db.toTables) : OnlyFor db.toTables A none dto.nationalCode := by
  obtain ⟨⟨⟩, -, done⟩ := bind_eq_ok.mp done
  obtain ⟨⟨⟩, newUser, -⟩ := bind_eq_ok.mp done
  rw [require_eq_ok] at newUser
  intro p mem inSchool same
  obtain ⟨u, memUser, school, -, carries⟩ := registered.user_of_code mem inSchool same
  refine absurd (List.any_eq_true.mpr ⟨u, memUser, decide_eq_true ⟨school, .inr ⟨?_, carries⟩⟩⟩)
    newUser
  rw [nationalId_eq, truthy, if_neg same.1]
  rfl

theorem OnlyFor.imported {item : ImportItem} {env : RowEnv}
    (missing : item.existing x A env db.toTables = none) (registered : Registered A db.toTables) :
    OnlyFor db.toTables A none item.nationalCode := by
  intro p mem inSchool same
  obtain ⟨u, memUser, school, role, carries⟩ := registered.user_of_code mem inSchool same
  unfold ImportItem.existing existingStudent at missing
  dsimp only at missing
  simp only [Option.orElse_eq_orElse, Option.orElse_eq_or, Option.or_eq_none_iff,
    Option.bind_eq_bind, Option.pure_def, Option.bind_eq_none_iff] at missing
  -- The account is found, if not this one then another, and has a profile.
  let creds := item.creds x.lower (db.tenants.find? A) env
  have given : creds.nationalId = truthy (some (normalizeNationalCode item.nationalCode)) := rfl
  have isFound : (db.users.rows.find? fun u => u.tenantId = A ∧ u.role = .student ∧
      (creds.nationalId.isSome ∧ u.nationalId = creds.nationalId ∨
        u.username = some creds.username)).isSome := by
    refine List.find?_isSome.mpr ⟨u, memUser, decide_eq_true ⟨school, role, .inl ⟨?_, carries⟩⟩⟩
    rw [given, truthy, if_neg same.1]
    rfl
  obtain ⟨other, found⟩ := Option.isSome_iff_exists.mp isFound
  have own := List.find?_some found
  simp only [decide_eq_true_eq] at own
  obtain ⟨profile, memProfile, owner⟩ :=
    registered.profiled other (List.mem_of_find?_eq_some found) own.1 own.2.1
  have hasProfile : (db.students.rows.find? fun p => p.userId = other.id).isSome :=
    List.find?_isSome.mpr ⟨profile, memProfile, decide_eq_true owner⟩
  obtain ⟨its, isIts⟩ := Option.isSome_iff_exists.mp hasProfile
  exact absurd (missing.2 other found its isIts) (Option.some_ne_none _)

end

/-! ### What keeps the codes -/

/-- The students are the same, and who is new is none. -/
structure LeavesCodes (db db' : Db) : Prop where
  students : db'.students = db.students
  users : ∀ u' ∈ db'.users.rows, (∃ u ∈ db.users.rows, u.id = u'.id ∧ u.tenantId = u'.tenantId ∧
    u.role = u'.role ∧ u.nationalId = u'.nationalId) ∨
      u'.role = .parent ∧ ∀ u ∈ db.users.rows, u.id ≠ u'.id

section

variable {x : MemberHost} {A : Id} {db db' : Db}

/-- The account of the parents is none of a student's national code. -/
theorem LeavesCodes.sync {sync : StudentSync} {draws : Draws}
    (done : syncParentForStudent x A sync draws db = .ok db') : LeavesCodes db db' := by
  obtain ⟨students, rest⟩ := syncParentForStudent_ok done
  have ofUpdate {data : UserUpdate} {userId : Id} (same : data.nationalId = none)
      (updated : db.users.update userId data.apply data.key_apply = some db'.users) :
      LeavesCodes db db' := by
    refine ⟨students, fun u' mem => .inl ?_⟩
    rcases (mem_update updated).mp mem with ⟨before, -⟩ | ⟨u, found, rfl⟩
    · exact ⟨u', before, rfl, rfl, rfl, rfl⟩
    · exact ⟨u, mem_of_find? found, rfl, rfl, rfl, by simp [UserUpdate.apply, same]⟩
  cases account : sync.account A db.toTables draws with
  | linked parent phone =>
    rw [account] at rest
    obtain ⟨-, -, data, -, -, -, same, updated⟩ := rest
    exact ofUpdate same updated
  | found user =>
    rw [account] at rest
    obtain ⟨-, data, -, -, same, updated⟩ := rest
    exact ofUpdate same updated
  | new phone =>
    rw [account] at rest
    obtain ⟨user, -, role, -, -, inserted⟩ := rest
    refine ⟨students, fun u' mem => ?_⟩
    rcases (mem_insert inserted).mp mem with before | rfl
    · exact .inl ⟨u', before, rfl, rfl, rfl, rfl⟩
    · exact .inr ⟨role, (insert_spec.mp inserted).2.1⟩

/-- The user of a student was there before, and is of the same school, role and code. -/
theorem LeavesCodes.user (leaves : LeavesCodes db db') {p : StudentProfile}
    (mem : p ∈ db'.students.rows) {u' : User} (memUser : u' ∈ db'.users.rows)
    (owner : u'.id = p.userId) : p ∈ db.students.rows ∧ ∃ u ∈ db.users.rows, u.id = p.userId ∧
      u.tenantId = u'.tenantId ∧ u.role = u'.role ∧ u.nationalId = u'.nationalId := by
  rw [leaves.students] at mem
  refine ⟨mem, ?_⟩
  rcases leaves.users u' memUser with ⟨u, before, same, rest⟩ | ⟨-, fresh⟩
  · exact ⟨u, before, same.trans owner, rest⟩
  · obtain ⟨u, found⟩ := has_some_iff.mp (db.foreignKeys.student_user p mem)
    exact absurd ((key_of_find? found).trans owner.symm) (fresh u (mem_of_find? found))

/-- A student and the user after a student was created. -/
theorem Creates.owned {user : User} {profile : StudentProfile}
    (created : Creates A db db' user profile) {p : StudentProfile} (mem : p ∈ db'.students.rows)
    {u : User} (memUser : u ∈ db'.users.rows) (owner : u.id = p.userId) :
    p ∈ db.students.rows ∧ u ∈ db.users.rows ∨ p = profile ∧ u = user := by
  have fresh := (insert_spec.mp created.users).2.1
  rcases (mem_insert created.students).mp mem with before | rfl <;>
  rcases (mem_insert created.users).mp memUser with userBefore | rfl
  · exact .inl ⟨before, userBefore⟩
  · obtain ⟨other, found⟩ := has_some_iff.mp (db.foreignKeys.student_user p before)
    exact absurd ((key_of_find? found).trans owner.symm)
      (fresh other (mem_of_find? found))
  · exact absurd (owner.trans created.owner) (fresh u userBefore)
  · exact .inr ⟨rfl, rfl⟩

/-- A student and the user after a student was updated. -/
theorem Updates.owned {profile : StudentProfile} {data : UserUpdate} {changes : StudentUpdate}
    (updated : Updates db db' profile data changes) {p : StudentProfile}
    (mem : p ∈ db'.students.rows) {u : User} (memUser : u ∈ db'.users.rows)
    (owner : u.id = p.userId) : p ∈ db.students.rows ∧ u ∈ db.users.rows ∨
      p = changes.apply profile ∧ ∃ before ∈ db.users.rows, before.id = profile.userId ∧
        u = data.apply before := by
  have known : db.students.find? profile.id = some profile := find?_key _ updated.found
  rcases (mem_update updated.students).mp mem with ⟨before, differ⟩ | ⟨_, isOne, rfl⟩
  · rcases (mem_update updated.users).mp memUser with ⟨userBefore, -⟩ | ⟨other, found, rfl⟩
    · exact .inl ⟨before, userBefore⟩
    · -- A user has one profile.
      have sameUser : p.userId = profile.userId := owner.symm.trans (key_of_find? found)
      have clash := db.students.no_clash p before profile updated.found differ
      simp [Record.clash, sameUser] at clash
  · cases known.symm.trans isOne
    rcases (mem_update updated.users).mp memUser with ⟨-, other⟩ | ⟨other, found, rfl⟩
    · exact absurd owner other
    · exact .inr ⟨rfl, other, mem_of_find? found, key_of_find? found, rfl⟩

namespace Registered

theorem leaves (leaves : LeavesCodes db db') (start : Registered A db.toTables) :
    Registered A db'.toTables where
  unique := by
    rw [leaves.students]
    exact start.unique
  carried p mem inSchool u' memUser owner := by
    obtain ⟨before, u, memU, isOwner, -, -, code⟩ := leaves.user mem memUser owner
    exact code ▸ start.carried p before inSchool u memU isOwner
  enrolled p mem inSchool u' memUser owner := by
    obtain ⟨before, u, memU, isOwner, school, role, code⟩ := leaves.user mem memUser owner
    rw [← school, ← role, ← code]
    exact start.enrolled p before inSchool u memU isOwner
  profiled u' memUser school role := by
    rw [leaves.students]
    rcases leaves.users u' memUser with ⟨u, before, same, school', role', -⟩ | ⟨parent, -⟩
    · exact same ▸ start.profiled u before (school'.trans school) (role'.trans role)
    · cases role.symm.trans parent

/-- A student with a code that no other has. -/
theorem creates {user : User} {profile : StudentProfile} (created : Creates A db db' user profile)
    (carries : user.nationalId = truthy (some (normalizeNationalCode profile.nationalCode)))
    (only : OnlyFor db.toTables A none profile.nationalCode) (start : Registered A db.toTables) :
    Registered A db'.toTables where
  unique p memP q memQ ofP ofQ same := by
    rcases (mem_insert created.students).mp memP with before | rfl <;>
    rcases (mem_insert created.students).mp memQ with beforeQ | rfl
    · exact start.unique p before q beforeQ ofP ofQ same
    · cases only p before ofP same
    · cases only q beforeQ ofQ same.symm
    · rfl
  carried p mem inSchool u memUser owner := by
    rcases created.owned mem memUser owner with ⟨before, userBefore⟩ | ⟨rfl, rfl⟩
    · exact start.carried p before inSchool u userBefore owner
    · rw [carries, normalizeNationalCode_truthy, normalizeNationalCode_idem]
  enrolled p mem inSchool u memUser owner := by
    rcases created.owned mem memUser owner with ⟨before, userBefore⟩ | ⟨rfl, rfl⟩
    · exact start.enrolled p before inSchool u userBefore owner
    · exact ⟨created.school.1, created.role, fun coded => by rw [carries, truthy, if_neg coded]⟩
  profiled u memUser school role := by
    rcases (mem_insert created.users).mp memUser with before | rfl
    · obtain ⟨p, mem, owner⟩ := start.profiled u before school role
      exact ⟨p, (mem_insert created.students).mpr (.inl mem), owner⟩
    · exact ⟨profile, (mem_insert created.students).mpr (.inr rfl), created.owner⟩

/-- A student whose code no other has, and whose user carries it. -/
theorem updates {profile : StudentProfile} {data : UserUpdate} {changes : StudentUpdate}
    (updated : Updates db db' profile data changes)
    (carries : profile.tenantId = A → ∀ u ∈ db.users.rows, u.id = profile.userId →
      let code := (changes.apply profile).nationalCode
      normalizeNationalCode (data.apply u).nationalId = normalizeNationalCode code ∧
        (normalizeNationalCode code ≠ "" →
          (data.apply u).nationalId = some (normalizeNationalCode code)))
    (only : profile.tenantId = A →
      OnlyFor db.toTables A (some profile.id) (changes.apply profile).nationalCode)
    (start : Registered A db.toTables) : Registered A db'.toTables where
  unique p memP q memQ ofP ofQ same := by
    have known : db.students.find? profile.id = some profile := find?_key _ updated.found
    rcases (mem_update updated.students).mp memP with ⟨before, differ⟩ | ⟨_, isOne, rfl⟩ <;>
    rcases (mem_update updated.students).mp memQ with ⟨beforeQ, differQ⟩ | ⟨_, isOne', rfl⟩
    · exact start.unique p before q beforeQ ofP ofQ same
    · cases known.symm.trans isOne'
      exact absurd (Option.some.inj (only ofQ p before ofP same)).symm differ
    · cases known.symm.trans isOne
      exact absurd (Option.some.inj (only ofP q beforeQ ofQ same.symm)).symm differQ
    · rw [Option.some.inj (isOne.symm.trans isOne')]
  carried p mem inSchool u memUser owner := by
    rcases updated.owned mem memUser owner with ⟨before, userBefore⟩ | ⟨rfl, was, memWas, isOwner, rfl⟩
    · exact start.carried p before inSchool u userBefore owner
    · exact (carries inSchool was memWas isOwner).1
  enrolled p mem inSchool u memUser owner := by
    rcases updated.owned mem memUser owner with ⟨before, userBefore⟩ | ⟨rfl, was, memWas, isOwner, rfl⟩
    · exact start.enrolled p before inSchool u userBefore owner
    · obtain ⟨school, role, -⟩ := start.enrolled profile updated.found inSchool was memWas isOwner
      exact ⟨school, role, (carries inSchool was memWas isOwner).2⟩
  profiled u memUser school role := by
    have kept : ∀ p ∈ db.students.rows, ∃ p' ∈ db'.students.rows, p'.userId = p.userId := by
      intro p mem
      by_cases isOne : p.id = profile.id
      · exact ⟨changes.apply p, (mem_update updated.students).mpr
          (.inr ⟨p, isOne ▸ find?_key _ mem, rfl⟩), rfl⟩
      · exact ⟨p, (mem_update updated.students).mpr (.inl ⟨mem, isOne⟩), rfl⟩
    obtain ⟨before, memBefore, same, school', role'⟩ : ∃ before ∈ db.users.rows,
        before.id = u.id ∧ before.tenantId = A ∧ before.role = .student := by
      rcases (mem_update updated.users).mp memUser with ⟨before, -⟩ | ⟨other, found, rfl⟩
      · exact ⟨u, before, rfl, school, role⟩
      · exact ⟨other, mem_of_find? found, rfl, school, role⟩
    obtain ⟨p, mem, owner⟩ := start.profiled before memBefore school' role'
    obtain ⟨p', mem', owner'⟩ := kept p mem
    exact ⟨p', mem', owner'.trans (owner.trans same)⟩

/-- The student keeps the code. -/
theorem onlyFor_self (start : Registered A db.toTables) {profile : StudentProfile}
    (mem : profile ∈ db.students.rows) (inSchool : profile.tenantId = A) {code : Option String}
    (same : normalizeNationalCode profile.nationalCode = normalizeNationalCode code) :
    OnlyFor db.toTables A (some profile.id) code := fun p memP ofP has => by
  rw [start.unique p memP profile mem ofP inSchool ⟨same ▸ has.1, has.2.trans same.symm⟩]

/-- A student whose code is not written. -/
theorem updates_same {profile : StudentProfile} {data : UserUpdate} {changes : StudentUpdate}
    (updated : Updates db db' profile data changes) (sameId : data.nationalId = none)
    (sameCode : changes.nationalCode = none) (start : Registered A db.toTables) :
    Registered A db'.toTables := by
  have kept : (changes.apply profile).nationalCode = profile.nationalCode := by
    simp [StudentUpdate.apply, sameCode]
  refine start.updates updated (fun inSchool u mem isOwner => ?_) fun inSchool => ?_
  · simp only [kept, UserUpdate.apply, sameId]
    exact ⟨start.carried profile updated.found inSchool u mem isOwner,
      (start.enrolled profile updated.found inSchool u mem isOwner).2.2⟩
  · rw [kept]
    exact start.onlyFor_self updated.found inSchool rfl

section

variable {mid : Db} {sync : StudentSync} {draws : Draws}

theorem createStudentAccount {dto : CreateStudentDto}
    (done : Members.createStudentAccount x A dto draws db = .ok (mid, sync))
    (start : Registered A db.toTables) : Registered A mid.toTables := by
  obtain ⟨user, created, -, -, nationalId, code, -⟩ := createStudentAccount_ok done
  refine start.creates created ?_ ?_
  · rw [nationalId, nationalId_eq, code]
  · rw [code]
    exact .created done start

theorem updateStudentAccount {studentId : Id} {dto : UpdateStudentDto}
    (keeps : ∀ profile user code, findStudent A db.toTables studentId = some profile →
      db.users.find? profile.userId = some user → dto.nationalCode = some code →
      dto.Free A draws profile user db.toTables →
      (normalizeNationalCode code ≠ "" → code = some (normalizeNationalCode code)) ∧
      OnlyFor db.toTables A (some profile.id) code ∧
        (truthy code = none → normalizeNationalCode profile.nationalCode = ""))
    (done : Members.updateStudentAccount A studentId dto db = .ok (mid, sync))
    (synced : syncParentForStudent x A sync draws mid = .ok db')
    (start : Registered A db.toTables) : Registered A mid.toTables := by
  obtain ⟨profile, user, found, isUser, updated, rfl⟩ := updateStudentAccount_ok done
  have owner : user.id = profile.userId := key_of_find? isUser
  cases given : dto.nationalCode with
  | none =>
    refine start.updates_same updated ?_ given
    change truthy dto.nationalCode.join = none
    rw [given]
    rfl
  | some code =>
    have free : dto.Free A draws profile user db.toTables := by
      refine ⟨?_, not_numberTaken updated.found updated.students,
        not_parentNameTaken updated rfl synced⟩
      rw [owner]
      exact not_nameTakenFrom updated.users
    have newCode : (dto.changes.apply profile).nationalCode = code := by
      change dto.nationalCode.getD profile.nationalCode = code
      rw [given]
      rfl
    obtain ⟨normal, only, cleared⟩ := keeps profile user code found isUser given free
    refine start.updates updated (fun inSchool u mem isOwner => ?_) fun inSchool => ?_
    · have written : (dto.userUpdate.apply u).nationalId = (truthy code <|> u.nationalId) := by
        change (truthy dto.nationalCode.join <|> u.nationalId) = _
        rw [given, Option.join_some]
      dsimp only
      rw [newCode, written]
      cases text : truthy code with
      | some s =>
        obtain ⟨rfl, -⟩ := truthy_eq_some_iff.mp text
        exact ⟨rfl, normal⟩
      | none =>
        -- No code is written to the user, who had none.
        rw [← normalizeNationalCode_truthy code, text]
        refine ⟨?_, fun coded => absurd rfl coded⟩
        exact (start.carried profile updated.found inSchool u mem isOwner).trans (cleared text)
    · rw [newCode]
      exact only

theorem importAccount {item : ImportItem} {env : RowEnv}
    (keeps : ∀ profile user code, item.existing x A env db.toTables = some (profile, user) →
      (item.creds x.lower (db.tenants.find? A) env).nationalId = some code →
      ¬ SameCode profile (some code) → item.FreeToUpdate x A env profile user db.toTables →
      profile.tenantId = A → OnlyFor db.toTables A none (some code))
    (done : Members.importAccount x A item env db = .ok (mid, sync))
    (synced : syncParentForStudent x A sync env.draws mid = .ok db')
    (start : Registered A db.toTables) : Registered A mid.toTables := by
  rcases importAccount_ok done with
    ⟨profile, user, data, changes, existing, updated, phone, nationalId, number, code, same, info⟩ |
    ⟨missing, user, created, -, -, nationalId, code, -⟩
  · have owner : user.id = profile.userId := (existing_spec existing).2.2
    cases national : (item.creds x.lower (db.tenants.find? A) env).nationalId with
    | none =>
      rw [national] at nationalId code
      exact start.updates_same updated nationalId code
    | some text =>
      have digits := nationalId_spec x.lower national
      have normal : normalizeNationalCode (some text) = text := by
        rw [ImportItem.creds, nationalId_eq] at national
        obtain rfl := Option.some.inj (truthy_eq_some_iff.mp national).1
        exact normalizeNationalCode_idem _
      rw [national] at nationalId code info
      have isCode : sync.nationalCode = some text := by
        unfold StudentSync.nationalCode
        rw [info]
        simp [truthy, digits.1]
      have free : item.FreeToUpdate x A env profile user db.toTables := by
        have notTaken := not_nameTakenFrom updated.users
        have notNumber := not_numberTaken updated.found updated.students
        have notParent := not_parentNameTaken updated (by rw [same]) synced
        rw [phone, updated.username, ← owner] at notTaken
        rw [number] at notNumber
        rw [parentCredentials, isCode, generateParentCredentials_of_code digits.2] at notParent
        refine ⟨notTaken, notNumber, ?_⟩
        rw [national, generateParentCredentials_of_code digits.2]
        exact notParent
      have newCode : (changes.apply profile).nationalCode = some text := by
        simp [StudentUpdate.apply, code]
      refine start.updates updated (fun inSchool u mem isOwner => ?_) fun inSchool => ?_
      · rw [newCode]
        simp [UserUpdate.apply, nationalId, normal]
      · rw [newCode]
        by_cases has : SameCode profile (some text)
        · exact start.onlyFor_self updated.found inSchool has.2
        · -- The row has found a student of another code.
          intro p mem ofP same
          cases keeps profile user text existing national has free inSchool p mem ofP same
  · have only : OnlyFor db.toTables A none item.nationalCode := .imported missing start
    have normal : normalizeNationalCode sync.profile.nationalCode =
        normalizeNationalCode item.nationalCode := by
      rw [code]
      exact normalizeNationalCode_nationalId ..
    refine start.creates created ?_ fun p mem ofP same =>
      only p mem ofP ⟨normal ▸ same.1, same.2.trans normal⟩
    rw [nationalId, normal]
    rfl

end

/-- A transaction that keeps the codes apart. -/
theorem commit {move : Transaction} (keeps : KeepsCodes x A db move)
    (done : move.commit x A db = .ok db') (start : Registered A db.toTables) :
    Registered A db'.toTables := by
  obtain ⟨mid, sync, recorded, placed, synced⟩ := Transaction.commit_ok done
  refine leaves (.sync synced) ?_
  have keeps := keeps placed
  cases move with
  | create dto env => exact start.createStudentAccount recorded
  | update studentId dto env => exact start.updateStudentAccount keeps recorded synced
  | row item env => exact start.importAccount keeps recorded synced

end Registered

end

/-- **Students who are kept apart stay apart.** Where the users carry the codes of the students in
their normal form, and in a run in which `updateStudent` writes only new codes in normal form and no
row gives a student the code of another, no two students of the school ever have one code, and every
user carries that of the student. -/
theorem codes_unique (x : MemberHost) (A : Id) (db : Db) (calls : List StudentCall)
    (start : Registered A db.toTables)
    (keep : Along (StudentCall.step x A) (fun db call => call.Meets x A (KeepsCodes x A) db) db calls)
    {reached : List StudentCall} (isReached : reached <+: calls) :
    CodesUnique A (run (StudentCall.step x A) db reached).toTables := by
  obtain ⟨rest, rfl⟩ := isReached
  exact (run_invariant (I := fun db => Registered A db.toTables)
    (fun _ _ meets before => StudentCall.keeps
      (I := fun db => Registered A db.toTables)
      (fun _ _ _ keeps done before => before.commit keeps done) meets before)
    start (along_append.mp keep).1).toCodesUnique

namespace Register

def host : MemberHost where
  lower := toLowerCase
  hash _ password := "hash of " ++ password
  message _ := "Unique constraint failed"

def school : Tenant := { id := 7, name := "هنرستان رکاد", slug := "rokad-boys", theme := .male }

def tenants : Table Tenant := ⟨[school], by decide +kernel, by decide +kernel⟩

def noStudents : Db where
  tenants
  foreignKeys := by constructor <;> decide +kernel

def env : Env := { draws := { now := 1000, studentCode := 10000000 } }

def amir : CreateStudentDto :=
  { firstName := "امیر", lastName := "راد", phone := "09121234567",
    nationalCode := some "0012345678" }

def sina : CreateStudentDto :=
  { firstName := "سینا", lastName := "نوری", phone := "09127654321",
    nationalCode := some "0087654321" }

/-- The code of the first student turns out to be another, and is written in Persian digits. -/
def corrected : List StudentCall :=
  [.createStudent amir env, .updateStudent 1 { nationalCode := some (some "۰۰۸۷۶۵۴۳۲۱") } env]

/-- Two students in different digits; the second comes again in the other ones. -/
def recorded : List StudentCall :=
  [.createStudent amir env, .createStudent { sina with nationalCode := some "۸۷" } env,
    .createStudent { sina with phone := "09350000000", nationalCode := some "87" } env]

/-- The code of the first is corrected. -/
def renumbered : List StudentCall :=
  recorded ++ [.updateStudent 1 { nationalCode := some (some "0011111111") } env]

theorem registered : Registered 7 noStudents.toTables where
  unique := List.forall_mem_nil _
  carried := List.forall_mem_nil _
  enrolled := List.forall_mem_nil _
  profiled := List.forall_mem_nil _

theorem nobody : OnlyFor (run (StudentCall.step host 7) noStudents recorded).toTables 7 none
    (some "0011111111") := by
  decide +kernel

end Register

/-- Two students have codes in different digits; who comes with the code of the second in other
digits is refused, and the first gets a new code. -/
theorem codes_unique_amir : CodesUnique 7
      (run (StudentCall.step Register.host 7) Register.noStudents Register.renumbered).toTables ∧
    (run (StudentCall.step Register.host 7) Register.noStudents
      Register.renumbered).students.rows.map (·.nationalCode) =
        [some "0011111111", some "۸۷"] := by
  refine ⟨codes_unique Register.host 7 Register.noStudents Register.renumbered Register.registered
    ⟨fun _ => trivial, fun _ => trivial, fun _ => trivial, ?_, trivial⟩ (List.prefix_refl _),
    by decide +kernel⟩
  intro _ profile user code _ _ given _
  obtain rfl : some "0011111111" = code := Option.some.inj given
  refine ⟨fun _ => by decide +kernel, fun p mem inSchool same => ?_, fun none => ?_⟩
  · cases Register.nobody p mem inSchool same
  · exact absurd none (by decide)

/-- The corrected code and the new one are the same. -/
theorem Register.two_students : (run (StudentCall.step Register.host 7) Register.noStudents
      (Register.corrected ++ [.createStudent Register.sina Register.env])).students.rows.map
        (fun p => (p.id, p.tenantId, normalizeNationalCode p.nationalCode)) =
      [(1, 7, "0087654321"), (2, 7, "0087654321")] := by
  decide +kernel

/-- A new student gets the code of the one whose code was corrected. -/
theorem not_codes_unique :
    Registered 7 Register.noStudents.toTables ∧
      ¬ CodesUnique 7 (run (StudentCall.step Register.host 7) Register.noStudents
        (Register.corrected ++ [.createStudent Register.sina Register.env])).toTables := by
  constructor
  · exact Register.registered
  · rintro ⟨unique, -⟩
    obtain ⟨p, rest, rows, first, others⟩ := List.map_eq_cons_iff.mp Register.two_students
    obtain ⟨q, rfl, second⟩ := List.map_eq_singleton_iff.mp others
    rw [Prod.mk.injEq, Prod.mk.injEq] at first second
    have same : SameCode p q.nationalCode := by
      unfold SameCode
      rw [first.2.2, second.2.2]
      decide
    obtain rfl := unique p (rows ▸ List.mem_cons_self) q
      (rows ▸ List.mem_cons_of_mem _ List.mem_cons_self) first.2.1 second.2.1 same
    exact absurd (first.1.symm.trans second.1) (by decide)

end Rokad.Members
