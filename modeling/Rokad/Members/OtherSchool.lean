import Rokad.Auth.SwitchSchool
import Rokad.Members.Import

/-!
# What a school records, and who gets into another

`switchSchool` takes a phone for a person, and the member service writes phones as they are given.
So whoever records accounts of one school decides which accounts of another they lead to.

`Opens` says which those are. A statement that gives no account a phone it meets an account of the
other school by leaves them as they were (`Isolates`), and so does a run of calls that make only
such statements.
-/

namespace Rokad.Members

open Rokad.Base Rokad.Auth
open Rokad.Common (Id Instant)

/-! ### Getting into another school -/

/-- The account `v` of `B` is active and has the phone of the account `u` of `A`. -/
def Opens (A B : Id) (t : Tables) (u v : Id) : Prop :=
  ∃ phone, (∃ own ∈ t.users.rows, own.id = u ∧ own.tenantId = A ∧ truthy own.phone = some phone) ∧
    ∃ other ∈ t.users.rows, other.id = v ∧ other.tenantId = B ∧ other.status = .active ∧
      other.phone = some phone

/-- The user `u` is of `A`, and a switch of his to the school named, which is `B`, gives him tokens
of the account `v`. -/
def SwitchesTo (sha256 : String → String) (A B : Id) (s : State) (u : Id) (slug : String)
    (client : Client) (rawRefreshToken : String) (v : Id) : Prop :=
  (∃ own ∈ s.db.users.rows, own.id = u ∧ own.tenantId = A) ∧
    ∃ answer, ((switchSchool sha256 u slug client rawRefreshToken).run exec s).2 = .ok answer ∧
      answer.tenant.id = B ∧ answer.user.id = v

section

variable {sha256 : String → String} {A B u v : Id} {s : State} {slug : String} {client : Client}
  {rawRefreshToken : String}

/-- Two accounts of a school with one phone are one. -/
theorem activeByPhone_eq {t : Tables} {other : User} (mem : other ∈ t.users.rows)
    (active : other.status = .active) {phone : String} (has : other.phone = some phone) :
    t.activeByPhone other.tenantId phone = some other := by
  unfold Tables.activeByPhone
  cases found : t.users.rows.find? fun u =>
      u.tenantId = other.tenantId ∧ u.phone = some phone ∧ u.status = .active with
  | none =>
    have missed := List.find?_eq_none.mp found other mem
    simp [has, active] at missed
  | some first =>
    have spec := List.find?_some found
    simp only [decide_eq_true_eq] at spec
    obtain ⟨sameTenant, samePhone, -⟩ := spec
    by_contra differ
    have apart := t.users.no_clash first (List.mem_of_find?_eq_some found) other mem
      fun keys => differ (congrArg some
        (t.users.eq_of_key_eq (List.mem_of_find?_eq_some found) mem keys))
    simp [Record.clash, sameTenant, samePhone, has, sameText] at apart

/-- A user gets into an account of the school named exactly if it opens to him, and the token that
was drawn is new. -/
theorem switchesTo_iff : SwitchesTo sha256 A B s u slug client rawRefreshToken v ↔
    (∃ tenant, s.db.namedTenant slug = some tenant ∧ tenant.id = B) ∧
      Opens A B s.db.toTables u v ∧ Unused s.db.toTables (sha256 rawRefreshToken) := by
  constructor
  · rintro ⟨⟨own, memOwn, rfl, ofA⟩, answer, answered, ofB, isV⟩
    rcases switchSchool_cases sha256 s own.id slug client rawRefreshToken with
      ⟨-, e, same⟩ | ⟨tenant, user, target, same⟩
    · rw [same] at answered
      cases answered
    · rw [same] at answered
      obtain ⟨pair, issued, rfl⟩ := map_eq_ok.mp answered
      obtain ⟨u, phone, found, has, -, -, mem, inTenant, samePhone, active⟩ :=
        switchTarget_spec target
      cases (find?_key _ memOwn).symm.trans found
      have named : s.db.namedTenant slug = some tenant := by
        simp only [Tables.switchTarget, Option.bind_eq_bind, Option.pure_def,
          Option.bind_eq_some_iff] at target
        obtain ⟨_, -, named, isNamed, _, -, rest⟩ := target
        cases rest
        exact isNamed
      exact ⟨⟨tenant, named, ofB⟩,
        ⟨phone, ⟨own, memOwn, rfl, ofA, has⟩, user, mem, isV, inTenant.trans ofB, active,
          samePhone⟩,
        (issueTokens_ok_iff sha256 s mem client rawRefreshToken).mp ⟨pair, issued⟩⟩
  · rintro ⟨⟨tenant, named, rfl⟩, ⟨phone, ⟨own, memOwn, rfl, ofA, has⟩, other, mem, rfl, ofB,
      active, samePhone⟩, unused⟩
    have target : s.db.switchTarget own.id slug = some (tenant, other) := by
      have found : s.db.users.find? own.id = some own := find?_key _ memOwn
      simp [Tables.switchTarget, found, has, named, ← ofB, activeByPhone_eq mem active samePhone]
    obtain ⟨pair, issued⟩ :=
      (issueTokens_ok_iff sha256 s mem client rawRefreshToken).mpr unused
    refine ⟨⟨own, memOwn, rfl, ofA⟩, ⟨tenant, other, pair⟩, ?_, rfl, rfl⟩
    rcases switchSchool_cases sha256 s own.id slug client rawRefreshToken with
      ⟨missing, -⟩ | ⟨_, _, target', same⟩
    · cases missing.symm.trans target
    · cases target'.symm.trans target
      rw [same]
      exact map_eq_ok.mpr ⟨pair, issued, rfl⟩

end

/-! ### Phones that are written -/

/-- A phone is given to a new account, or over that of an account that is there. -/
inductive PhoneWrite where
  | new (phone : Option String)
  | old (userId : Id) (phone : Option String)

section

variable (t : Tables)

def NotActive (B : Id) (phone : String) : Prop :=
  ∀ other ∈ t.users.rows, other.tenantId = B → other.status = .active → other.phone ≠ some phone
deriving Decidable

def NotOf (A : Id) (phone : String) : Prop :=
  ∀ own ∈ t.users.rows, own.tenantId = A → own.phone ≠ some phone

/-- An account of `A` and one of `B` do not meet by the phone that is written: that of `A` gets it,
or, where a profile of `A` is of an account of `B`, that of `B`. -/
def PhoneWrite.Harmless (A B : Id) : PhoneWrite → Prop
  | .new phone => ∀ p, truthy phone = some p → NotActive t B p
  | .old userId phone => ∀ p, truthy phone = some p → ∀ row, t.users.find? userId = some row →
      row.phone = some p ∨ (row.tenantId = A → NotActive t B p) ∧
        (row.tenantId = B → row.status = .active → NotOf t A p)

end

/-! ### What a statement opens -/

/-- From one state to the next no account of `B` came to open to a user of `A`, and the schools, the
tokens and the sessions are the same. -/
structure Isolates (A B : Id) (t t' : Tables) : Prop where
  tenants : t'.tenants = t.tenants
  tokens : t'.tokens = t.tokens
  sessions : t'.sessions = t.sessions
  opens : ∀ u v, Opens A B t' u v → Opens A B t u v

namespace Isolates

variable {A B : Id} {t t' t'' : Tables} {db db' : Db}

theorem refl (A B : Id) (t : Tables) : Isolates A B t t := ⟨rfl, rfl, rfl, fun _ _ opens => opens⟩

theorem trans (first : Isolates A B t t') (second : Isolates A B t' t'') : Isolates A B t t'' where
  tenants := second.tenants.trans first.tenants
  tokens := second.tokens.trans first.tokens
  sessions := second.sessions.trans first.sessions
  opens u v opens := first.opens u v (second.opens u v opens)

/-- A statement on another table. -/
theorem of_tables (same : db'.toTables = t') (tenants : t'.tenants = t.tenants)
    (tokens : t'.tokens = t.tokens) (sessions : t'.sessions = t.sessions)
    (users : t'.users = t.users) : Isolates A B t db'.toTables := by
  subst same
  refine ⟨tenants, tokens, sessions, fun u v opens => ?_⟩
  unfold Opens at opens
  rwa [users] at opens

theorem createUser (apart : A ≠ B) {row : User} (done : db.createUser row = .ok db')
    (ofA : row.tenantId = A) (harmless : (PhoneWrite.new row.phone).Harmless db.toTables A B) :
    Isolates A B db.toTables db'.toTables := by
  obtain ⟨inserted, same⟩ := Db.createUser_ok done
  refine ⟨by rw [same], by rw [same], by rw [same], ?_⟩
  rintro u v ⟨phone, ⟨own, memOwn, isU, ofOwn, has⟩, other, memOther, isV, ofB, active, samePhone⟩
  rcases (mem_insert inserted).mp memOther with before | rfl
  · rcases (mem_insert inserted).mp memOwn with ownBefore | rfl
    · exact ⟨phone, ⟨own, ownBefore, isU, ofOwn, has⟩, other, before, isV, ofB, active, samePhone⟩
    · exact absurd samePhone (harmless phone has other before ofB active)
  · exact absurd (ofA.symm.trans ofB) apart

theorem updateUser (apart : A ≠ B) {userId : Id} {data : UserUpdate}
    (done : db.updateUser userId data = .ok db') (status : data.status = none)
    (harmless : (PhoneWrite.old userId data.phone).Harmless db.toTables A B) :
    Isolates A B db.toTables db'.toTables := by
  obtain ⟨updated, same⟩ := Db.updateUser_ok done
  refine ⟨by rw [same], by rw [same], by rw [same], ?_⟩
  rintro u v ⟨phone, ⟨own, memOwn, isU, ofA, has⟩, other, memOther, isV, ofB, active, samePhone⟩
  obtain ⟨isPhone, nonempty⟩ := truthy_eq_some_iff.mp has
  rcases (mem_update updated).mp memOwn with ⟨ownBefore, -⟩ | ⟨row, found, rfl⟩ <;>
  rcases (mem_update updated).mp memOther with ⟨before, -⟩ | ⟨row', found', rfl⟩
  · exact ⟨phone, ⟨own, ownBefore, isU, ofA, has⟩, other, before, isV, ofB, active, samePhone⟩
  · have wasActive : row'.status = .active := by simpa [UserUpdate.apply, status] using active
    cases written : data.phone with
    | none =>
      have kept : row'.phone = some phone := by
        simpa [UserUpdate.apply, written] using samePhone
      exact ⟨phone, ⟨own, ownBefore, isU, ofA, has⟩, row', mem_of_find? found', isV, ofB,
        wasActive, kept⟩
    | some p =>
      obtain rfl : p = phone := by simpa [UserUpdate.apply, written] using samePhone
      have given : truthy data.phone = some p := truthy_eq_some_iff.mpr ⟨written, nonempty⟩
      rcases harmless p given row' found' with kept | ⟨-, alone⟩
      · exact ⟨p, ⟨own, ownBefore, isU, ofA, has⟩, row', mem_of_find? found', isV, ofB,
          wasActive, kept⟩
      · exact absurd isPhone (alone ofB wasActive own ownBefore ofA)
  · cases written : data.phone with
    | none =>
      have kept : truthy row.phone = some phone := by
        simpa [UserUpdate.apply, written] using has
      exact ⟨phone, ⟨row, mem_of_find? found, isU, ofA, kept⟩, other, before, isV, ofB,
        active, samePhone⟩
    | some p =>
      obtain rfl : p = phone := by simpa [UserUpdate.apply, written] using isPhone
      have given : truthy data.phone = some p := truthy_eq_some_iff.mpr ⟨written, nonempty⟩
      rcases harmless p given row found with kept | ⟨alone, -⟩
      · have was : truthy row.phone = some p := truthy_eq_some_iff.mpr ⟨kept, nonempty⟩
        exact ⟨p, ⟨row, mem_of_find? found, isU, ofA, was⟩, other, before, isV, ofB, active,
          samePhone⟩
      · exact absurd samePhone (alone ofA other before ofB active)
  · cases found.symm.trans found'
    exact absurd (ofA.symm.trans ofB) apart

end Isolates

/-! ### What a call opens -/

/-- The phone the parents of a student get. -/
def ParentAccount.write : ParentAccount → PhoneWrite
  | .linked parent updatePhone => .old parent.userId updatePhone
  | .found user => .old user.id none
  | .new phone => .new phone

section

variable (x : MemberHost) (A B : Id)

/-- A transaction that goes through gives no phone away: the `write` to the account of the student,
in the state before, nor that to the account of the parents, in the state the student left. -/
def Keeps (env : Env) (write : PhoneWrite) (recorded : Result (Db × StudentSync)) (db : Db) :
    Prop :=
  ∀ db', finish x A env recorded = .ok db' → write.Harmless db.toTables A B ∧
    ∀ mid sync, recorded = .ok (mid, sync) →
      (sync.account A mid.toTables env.draws).write.Harmless mid.toTables A B

def updateWrite (studentId : Id) (dto : UpdateStudentDto) (t : Tables) : PhoneWrite :=
  match findStudent A t studentId with
  | some profile => .old profile.userId dto.userPhone
  | none => .new none

def importWrite (item : ImportItem) (env : RowEnv) (t : Tables) : PhoneWrite :=
  match item.existing x A env t with
  | some (_, user) => .old user.id (keptPhone (item.phone env))
  | none => .new (some (safePhone A t (item.phone env) env))

/-- Each row that is imported gives no phone away, in the state the rows before it left. -/
def RowsKeep : List (Option ImportRow × RowEnv) → Db → Prop
  | [], _ => True
  | (row, env) :: rest, db =>
    let item := readItem x.lower (row.getD [])
    Keeps x A B env.toEnv (importWrite x A item env db.toTables) (importAccount x A item env db)
      db ∧
    match importRow x A item env db with
    | .ok next => RowsKeep rest next
    | .error _ => row.isSome → RowsKeep rest db

inductive MemberCall where
  | createStudent (dto : CreateStudentDto) (env : Env)
  | updateStudent (studentId : Id) (dto : UpdateStudentDto) (env : Env)
  | bulkImportStudents (rows : List (Option ImportRow × RowEnv))
  | createTeacher (dto : CreateTeacherDto) (env : Env)

namespace MemberCall

/-- The database after a call. -/
def step (db : Db) : MemberCall → Db
  | .createStudent dto env => settled db (Members.createStudent x A dto env db)
  | .updateStudent studentId dto env => settled db (Members.updateStudent x A studentId dto env db)
  | .bulkImportStudents rows => (Members.bulkImportStudents x A rows db).1
  | .createTeacher dto env => settled db (Members.createTeacher x A dto env db)

/-- The call gives no account a phone by which an account of `A` meets one of `B`. -/
def Harmless (db : Db) : MemberCall → Prop
  | .createStudent dto env => Keeps x A B env (.new (some dto.userPhone))
      (createStudentAccount x A dto env.draws db) db
  | .updateStudent studentId dto env => Keeps x A B env (updateWrite A studentId dto db.toTables)
      (updateStudentAccount A studentId dto db) db
  | .bulkImportStudents rows => RowsKeep x A B rows db
  | .createTeacher dto env => ∀ db', Members.createTeacher x A dto env db = .ok db' →
      (PhoneWrite.new (some dto.phone)).Harmless db.toTables A B

end MemberCall

variable {x A B} {db db' : Db}

theorem Isolates.ensureParentProfile {userId parentId : Id}
    (done : Members.ensureParentProfile A userId db = .ok (db', parentId)) :
    Isolates A B db.toTables db'.toTables := by
  unfold Members.ensureParentProfile at done
  split at done
  · cases done
    exact .refl A B _
  · obtain ⟨mid, profiled, done⟩ := bind_eq_ok.mp done
    cases done
    exact .of_tables (Db.createParentProfile_ok profiled) rfl rfl rfl rfl

section

variable (apart : A ≠ B)
include apart

/-- The parents of a student get an account. -/
theorem Isolates.sync {sync : StudentSync} {draws : Draws}
    (harmless : (sync.account A db.toTables draws).write.Harmless db.toTables A B)
    (done : syncParentForStudent x A sync draws db = .ok db') :
    Isolates A B db.toTables db'.toTables := by
  unfold syncParentForStudent at done
  dsimp only at done
  cases account : sync.account A db.toTables draws with
  | linked parent updatePhone =>
    rw [account] at harmless done
    exact .updateUser apart done rfl harmless
  | found user =>
    rw [account] at done
    dsimp only at done
    obtain ⟨⟨mid, parentId⟩, profiled, done⟩ := bind_eq_ok.mp done
    obtain ⟨last, updated, linked⟩ := bind_eq_ok.mp done
    exact ((Isolates.ensureParentProfile profiled).trans
      (.updateUser apart updated rfl fun p given => by cases given)).trans
      (.of_tables (Db.createLink_ok linked) rfl rfl rfl rfl)
  | new phone =>
    rw [account] at harmless done
    obtain ⟨mid, created, done⟩ := bind_eq_ok.mp done
    obtain ⟨last, profiled, linked⟩ := bind_eq_ok.mp done
    exact ((Isolates.createUser apart created rfl harmless).trans
      (.of_tables (Db.createParentProfile_ok profiled) rfl rfl rfl rfl)).trans
      (.of_tables (Db.createLink_ok linked) rfl rfl rfl rfl)

/-- A transaction that records a student and then the parents. -/
theorem Isolates.finish {env : Env} {write : PhoneWrite}
    {recorded : Result (Db × StudentSync)}
    (student : ∀ mid sync, recorded = .ok (mid, sync) → write.Harmless db.toTables A B →
      Isolates A B db.toTables mid.toTables)
    (keeps : Keeps x A B env write recorded db)
    (done : Members.finish x A env recorded = .ok db') :
    Isolates A B db.toTables db'.toTables := by
  obtain ⟨harmless, parents⟩ := keeps db' done
  obtain ⟨⟨mid, sync⟩, isRecorded, done⟩ := bind_eq_ok.mp done
  obtain ⟨_, -, synced⟩ := bind_eq_ok.mp done
  exact (student mid sync isRecorded harmless).trans
    (.sync apart (parents mid sync isRecorded) synced)

theorem Isolates.createStudentAccount {dto : CreateStudentDto} {draws : Draws}
    {sync : StudentSync} (harmless : (PhoneWrite.new (some dto.userPhone)).Harmless db.toTables A B)
    (done : Members.createStudentAccount x A dto draws db = .ok (db', sync)) :
    Isolates A B db.toTables db'.toTables := by
  obtain ⟨-, -, done⟩ := bind_eq_ok.mp done
  obtain ⟨-, -, done⟩ := bind_eq_ok.mp done
  obtain ⟨mid, created, done⟩ := bind_eq_ok.mp done
  obtain ⟨last, profiled, done⟩ := bind_eq_ok.mp done
  cases done
  exact (Isolates.createUser apart created rfl harmless).trans
    (.of_tables (Db.createStudentProfile_ok profiled) rfl rfl rfl rfl)

theorem Isolates.updateStudentAccount {studentId : Id} {dto : UpdateStudentDto}
    {sync : StudentSync}
    (harmless : (updateWrite A studentId dto db.toTables).Harmless db.toTables A B)
    (done : Members.updateStudentAccount A studentId dto db = .ok (db', sync)) :
    Isolates A B db.toTables db'.toTables := by
  obtain ⟨profile, found, done⟩ := bind_eq_ok.mp done
  obtain ⟨mid, updated, done⟩ := bind_eq_ok.mp done
  obtain ⟨last, profiled, done⟩ := bind_eq_ok.mp done
  cases done
  rw [updateWrite, orFail_eq_ok.mp found] at harmless
  exact (Isolates.updateUser apart updated rfl harmless).trans
    (.of_tables (Db.updateStudentProfile_ok profiled) rfl rfl rfl rfl)

theorem Isolates.importAccount {item : ImportItem} {env : RowEnv}
    {sync : StudentSync}
    (harmless : (importWrite x A item env db.toTables).Harmless db.toTables A B)
    (done : Members.importAccount x A item env db = .ok (db', sync)) :
    Isolates A B db.toTables db'.toTables := by
  unfold Members.importAccount at done
  unfold importWrite at harmless
  dsimp only at done
  split at done
  · rename_i profile user existing
    rw [existing] at harmless
    obtain ⟨mid, updated, done⟩ := bind_eq_ok.mp done
    obtain ⟨last, profiled, done⟩ := bind_eq_ok.mp done
    cases done
    exact (Isolates.updateUser apart updated rfl harmless).trans
      (.of_tables (Db.updateStudentProfile_ok profiled) rfl rfl rfl rfl)
  · rename_i existing
    rw [existing] at harmless
    obtain ⟨mid, created, done⟩ := bind_eq_ok.mp done
    obtain ⟨last, profiled, done⟩ := bind_eq_ok.mp done
    cases done
    exact (Isolates.createUser apart created rfl harmless).trans
      (.of_tables (Db.createStudentProfile_ok profiled) rfl rfl rfl rfl)

/-- Induction on the rows: each moves the database by one transaction, or not at all. -/
theorem Isolates.importRows {rows : List (Option ImportRow × RowEnv)}
    (keep : RowsKeep x A B rows db) (i : ℕ) (results : ImportResults) :
    Isolates A B db.toTables (Members.importRows x A i rows db results).1.toTables := by
  induction rows generalizing db i results with
  | nil => exact .refl A B _
  | cons first rest ih =>
    obtain ⟨row, env⟩ := first
    obtain ⟨keeps, later⟩ := keep
    unfold Members.importRows
    dsimp only
    cases done : importRow x A (readItem x.lower (row.getD [])) env db with
    | ok next =>
      rw [done] at later
      exact (Isolates.finish apart (fun _ _ isRecorded harmless =>
        .importAccount apart harmless isRecorded) keeps done).trans (ih later _ _)
    | error e =>
      rw [done] at later
      cases row with
      | none => exact .refl A B _
      | some row => exact ih (later rfl) _ _

theorem Isolates.createTeacher {dto : CreateTeacherDto} {env : Env}
    (harmless : (PhoneWrite.new (some dto.phone)).Harmless db.toTables A B)
    (done : Members.createTeacher x A dto env db = .ok db') :
    Isolates A B db.toTables db'.toTables := by
  obtain ⟨mid, created, done⟩ := bind_eq_ok.mp done
  obtain ⟨last, profiled, done⟩ := bind_eq_ok.mp done
  obtain ⟨_, -, done⟩ := bind_eq_ok.mp done
  cases done
  exact (Isolates.createUser apart created rfl harmless).trans
    (.of_tables (Db.createTeacherProfile_ok profiled) rfl rfl rfl rfl)

end

theorem Isolates.settled {result : Result Db}
    (isolates : ∀ next, result = .ok next → Isolates A B db.toTables next.toTables) :
    Isolates A B db.toTables (Members.settled db result).toTables := by
  cases result with
  | ok next => exact isolates next rfl
  | error e => exact .refl A B _

theorem Isolates.step (apart : A ≠ B) {call : MemberCall} (harmless : call.Harmless x A B db) :
    Isolates A B db.toTables (call.step x A db).toTables := by
  cases call with
  | createStudent dto env =>
    exact .settled fun next done => .finish apart
      (fun _ _ isRecorded harmless => .createStudentAccount apart harmless isRecorded) harmless done
  | updateStudent studentId dto env =>
    exact .settled fun next done => .finish apart
      (fun _ _ isRecorded harmless => .updateStudentAccount apart harmless isRecorded) harmless done
  | bulkImportStudents rows => exact .importRows apart harmless 0 _
  | createTeacher dto env =>
    exact .settled fun next done => .createTeacher apart (harmless next done) done

end

/-- **What a school records opens no account of another.** If no call of a run gives an account a
phone by which an account of `A` meets one of `B`, then whoever gets into an account of `B` after
the run would have got into it before. -/
theorem records_open_nothing (x : MemberHost) (sha256 : String → String) {A B : Id} (apart : A ≠ B)
    (s : State) (calls : List MemberCall)
    (harmless : Along (MemberCall.step x A) (MemberCall.Harmless x A B) s.db calls) {u v : Id}
    {slug : String} {client : Client} {rawRefreshToken : String}
    (switches : SwitchesTo sha256 A B { s with db := run (MemberCall.step x A) s.db calls } u slug
      client rawRefreshToken v) :
    SwitchesTo sha256 A B s u slug client rawRefreshToken v := by
  have isolates : Isolates A B s.db.toTables
      (run (MemberCall.step x A) s.db calls).toTables :=
    run_invariant (I := fun db => Isolates A B s.db.toTables db.toTables)
      (fun _ _ keeps before => before.trans (.step apart keeps)) (.refl A B _) harmless
  obtain ⟨named, opens, unused⟩ := switchesTo_iff.mp switches
  refine switchesTo_iff.mpr ⟨?_, isolates.opens u v opens, ?_⟩
  · simpa only [Tables.namedTenant, isolates.tenants] using named
  · simpa only [Unused, isolates.tokens, isolates.sessions] using unused

namespace Desk

def host : MemberHost where
  lower := toLowerCase
  hash _ password := "hash of " ++ password
  message
    | .database _ => "Unique constraint failed"
    | .unauthorized m | .notFound m | .badRequest m | .forbidden m | .conflict m
    | .tooManyRequests m _ | .thrown m => m

def boys : Tenant := { id := 7, name := "هنرستان رکاد", slug := "rokad-boys", theme := .male }

def girls : Tenant := { id := 8, name := "هنرستان رکاد", slug := "rokad-girls", theme := .female }

/-- She teaches at one school. -/
def ziba : User :=
  { id := 4, tenantId := 7, phone := some "09121234567", passwordHash := "hash of b9121234567",
    firstName := "زیبا", lastName := "راد", role := .teacher }

/-- And heads the other. -/
def zibaElsewhere : User :=
  { id := 5, tenantId := 8, phone := some "09121234567", passwordHash := "hash of pass-5",
    firstName := "زیبا", lastName := "راد", role := .schoolAdmin }

def schools : Db where
  tenants := ⟨[boys, girls], by decide +kernel, by decide +kernel⟩
  users := ⟨[ziba, zibaElsewhere], by decide +kernel, by decide +kernel⟩
  foreignKeys := by constructor <;> decide +kernel

/-- She is not known to the first school. -/
def unknown : Db where
  tenants := ⟨[boys, girls], by decide +kernel, by decide +kernel⟩
  users := ⟨[zibaElsewhere], by decide +kernel, by decide +kernel⟩
  foreignKeys := by constructor <;> decide +kernel

def records (phone : String) : List MemberCall :=
  [.createTeacher { firstName := "نرگس", lastName := "نوری", phone }
    { draws := { now := 1000, studentCode := 10000000 } }]

/-- What a switch to the girls' school answers. -/
def switched (now : ℕ) : SwitchedSchool where
  tenant := girls
  user := zibaElsewhere
  tokens := firstPair zibaElsewhere { now } "r1"

end Desk

/-- Another teacher is recorded, and the one who is in both schools still goes from one to the
other. -/
theorem records_open_nothing_other :
    SwitchesTo id 7 8 { db := Desk.schools } 4 "rokad-girls" { now := 2000 } "r1" 5 :=
  records_open_nothing Desk.host id (by decide) { db := Desk.schools } (Desk.records "09129999999")
    ⟨fun _ _ p given => by
      obtain ⟨same, -⟩ := truthy_eq_some_iff.mp given
      cases same
      decide +kernel, trivial⟩
    ⟨⟨Desk.ziba, by decide +kernel, rfl, rfl⟩, Desk.switched 2000, by decide +kernel, rfl, rfl⟩

/-- A teacher who is recorded with the phone of the head of the other school gets into her
account. -/
theorem not_records_open_nothing : SwitchesTo id 7 8
        { db := run (MemberCall.step Desk.host 7) Desk.unknown (Desk.records "09121234567") }
        6 "rokad-girls" { now := 2000 } "r1" 5 ∧
      ¬ SwitchesTo id 7 8 { db := Desk.unknown } 6 "rokad-girls" { now := 2000 } "r1" 5 := by
  constructor
  · refine ⟨?_, Desk.switched 2000, by decide +kernel, rfl, rfl⟩
    decide +kernel
  · rintro ⟨⟨own, mem, isSix, -⟩, -⟩
    have all : ∀ u ∈ Desk.unknown.users.rows, u.id ≠ 6 := by decide +kernel
    exact all own mem isSix

end Rokad.Members
