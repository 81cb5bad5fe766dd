import Rokad.Auth.JwtStrategy
import Rokad.Members.Service

/-!
# Access and the account

An access token outlives what happens to its account. `JwtStrategy.validate` reads the row of the
user, unless the service has started without a database; and where there is no row it falls back on
the claims of the token.

`follows_account_iff` says when the answer follows the account, after any history of it: a service
that started with a database errs exactly on accounts that are gone, one that started without errs
on every account but those as good as on the day of the token.
-/

namespace Rokad.Access

open Rokad.Base Rokad.Auth
open Rokad.Common (Id Instant UserRole UserStatus)

/-! ### The history of an account -/

/-- A change of one user that leaves its school and the unique columns alone. -/
structure UserChange where
  apply : User → User
  key_apply : ∀ u, Record.key (apply u) = Record.key u
  clash_apply : ∀ u v, Record.clash (apply u) v = Record.clash u v
  tenantId_apply : ∀ u, (apply u).tenantId = u.tenantId
  isPlatformAdmin_apply : ∀ u, (apply u).isPlatformAdmin = u.isPlatformAdmin

def UserChange.status (status : UserStatus) : UserChange :=
  ⟨fun u => { u with status }, fun _ => rfl, fun _ _ => rfl, fun _ => rfl, fun _ => rfl⟩

def UserChange.role (role : UserRole) : UserChange :=
  ⟨fun u => { u with role }, fun _ => rfl, fun _ _ => rfl, fun _ => rfl, fun _ => rfl⟩

def changeUser (db : Db) (id : Id) (change : UserChange) : Db :=
  { db with
    users := db.users.updateMany (fun u => u.id = id) change.apply change.key_apply
      change.clash_apply
    foreignKeys :=
      { db.foreignKeys with
        user_tenant := db.foreignKeys.user_tenant.updateMany_child change.key_apply
          change.clash_apply fun u present => by rwa [change.tenantId_apply]
        family_user := db.foreignKeys.family_user.updateMany_parent change.key_apply
          change.clash_apply
        session_user := db.foreignKeys.session_user.updateMany_parent change.key_apply
          change.clash_apply
        student_user := db.foreignKeys.student_user.updateMany_parent change.key_apply
          change.clash_apply
        teacher_user := db.foreignKeys.teacher_user.updateMany_parent change.key_apply
          change.clash_apply
        coach_user := db.foreignKeys.coach_user.updateMany_parent change.key_apply
          change.clash_apply
        staff_user := db.foreignKeys.staff_user.updateMany_parent change.key_apply
          change.clash_apply
        parent_user := db.foreignKeys.parent_user.updateMany_parent change.key_apply
          change.clash_apply } }

def withStatus (status : TenantStatus) (tenant : Tenant) : Tenant := { tenant with status }

theorem key_withStatus (status : TenantStatus) (tenant : Tenant) :
    Record.key (withStatus status tenant) = Record.key tenant := rfl

def changeTenant (db : Db) (id : Id) (status : TenantStatus) : Db :=
  { db with
    tenants := db.tenants.updateMany (fun t => t.id = id) (withStatus status)
      (key_withStatus status) fun _ _ => rfl
    foreignKeys :=
      { db.foreignKeys with
        user_tenant := db.foreignKeys.user_tenant.updateMany_parent (key_withStatus status)
          fun _ _ => rfl } }

inductive AccountEvent where
  | setStatus (userId : Id) (status : UserStatus)
  | setRole (userId : Id) (role : UserRole)
  | setTenantStatus (tenantId : Id) (status : TenantStatus)
  | deleteStudent (tenantId studentId : Id) (refused : Bool)

/-- The database after an event; a deletion that fails leaves it as it was. -/
def AccountEvent.step (db : Db) : AccountEvent → Db
  | .setStatus userId status => changeUser db userId (.status status)
  | .setRole userId role => changeUser db userId (.role role)
  | .setTenantStatus tenantId status => changeTenant db tenantId status
  | .deleteStudent tenantId studentId refused =>
    Members.settled db (Members.deleteStudent tenantId studentId refused db)

/-- Every user was there before, of the same school and as much of a platform administrator. -/
def Descends (db db' : Db) : Prop :=
  ∀ row ∈ db'.users.rows, ∃ was ∈ db.users.rows, was.id = row.id ∧ was.tenantId = row.tenantId ∧
    was.isPlatformAdmin = row.isPlatformAdmin

namespace Descends

variable {db db' db'' : Db}

theorem of_subset (subset : db'.users.rows ⊆ db.users.rows) : Descends db db' :=
  fun row mem => ⟨row, subset mem, rfl, rfl, rfl⟩

theorem trans (first : Descends db db') (second : Descends db' db'') : Descends db db'' := by
  intro row mem
  obtain ⟨mid, memMid, id, tenantId, isPlatformAdmin⟩ := second row mem
  obtain ⟨was, memWas, id', tenantId', isPlatformAdmin'⟩ := first mid memMid
  exact ⟨was, memWas, id'.trans id, tenantId'.trans tenantId,
    isPlatformAdmin'.trans isPlatformAdmin⟩

theorem changeUser (db : Db) (id : Id) (change : UserChange) :
    Descends db (Access.changeUser db id change) := by
  intro row mem
  obtain ⟨was, memWas, rfl⟩ := List.mem_map.mp mem
  refine ⟨was, memWas, ?_⟩
  split
  · exact ⟨(change.key_apply was).symm, (change.tenantId_apply was).symm,
      (change.isPlatformAdmin_apply was).symm⟩
  · exact ⟨rfl, rfl, rfl⟩

theorem deleteStudent {tenantId studentId : Id} {refused : Bool}
    (done : Members.deleteStudent tenantId studentId refused db = .ok db') : Descends db db' := by
  obtain ⟨student, -, done⟩ := bind_eq_ok.mp done
  dsimp only at done
  split_ifs at done
  · cases done
    exact of_subset (List.Subset.refl _)
  · cases done
    exact of_subset fun _ mem => (Table.mem_deleteMany.mp mem).1

theorem step (db : Db) (event : AccountEvent) : Descends db (event.step db) := by
  cases event with
  | setStatus userId status => exact changeUser db userId _
  | setRole userId role => exact changeUser db userId _
  | setTenantStatus tenantId status => exact of_subset (List.Subset.refl _)
  | deleteStudent tenantId studentId refused =>
    change Descends db (Members.settled db (Members.deleteStudent tenantId studentId refused db))
    cases done : Members.deleteStudent tenantId studentId refused db with
    | ok next => exact deleteStudent done
    | error e => exact of_subset (List.Subset.refl _)

theorem run (db : Db) (events : List AccountEvent) :
    Descends db (Base.run AccountEvent.step db events) :=
  run_keeps (I := Descends db) (fun mid event before => before.trans (step mid event))
    (of_subset (List.Subset.refl _)) events

end Descends

/-! ### The answer and the account -/

/-- What `signAccessToken` was called with. -/
structure Signed where
  (userId tenantId : Id)
  role : UserRole
  isPlatformAdmin : Bool
  user : Option User := none
  issuedAt : Instant

def Signed.jwt (signed : Signed) : Jwt :=
  signAccessToken signed.userId signed.tenantId signed.role signed.isPlatformAdmin signed.user
    signed.issuedAt

/-- The token a login or a refresh issues for the user. -/
def Signed.of (user : User) (issuedAt : Instant) : Signed :=
  ⟨user.id, user.tenantId, user.role, user.isPlatformAdmin, some user, issuedAt⟩

/-- The account is active, and so is its school, or it is a platform administrator's. -/
def GoodStanding (t : Tables) (row : User) : Prop :=
  row.status = .active ∧
    ((∃ tenant, t.tenants.find? row.tenantId = some tenant ∧ tenant.status = .active) ∨
      row.isPlatformAdmin = true)

/-- A token is accepted as long as its account is there and in good standing, and as what the
account is now. -/
structure FollowsAccount (t : Tables) (userId : Id) (answer : Result RequestUser) :
    Prop where
  accepted_iff : (∃ r, answer = .ok r) ↔ ∃ row, t.users.find? userId = some row ∧ GoodStanding t row
  current : ∀ r, answer = .ok r → ∃ row, t.users.find? userId = some row ∧ r.id = row.id ∧
    r.tenantId = row.tenantId ∧ r.role = row.role ∧ r.isPlatformAdmin = row.isPlatformAdmin

section

variable {db : Db} {signed : Signed}

theorem goodStanding_iff {row : User} (mem : row ∈ db.users.rows) :
    GoodStanding db.toTables row ↔ row.status = .active ∧ Standing db.toTables row := by
  obtain ⟨tenant, found⟩ := has_some_iff.mp (db.foreignKeys.user_tenant row mem)
  simp [GoodStanding, Standing, found]

/-- A service that started with a database: only an account that is gone is not followed. -/
theorem follows_connected_iff : FollowsAccount db.toTables signed.userId
      (JwtStrategy.validate ⟨true, true⟩ db.toTables signed.jwt.payload) ↔
    ∃ row, db.users.find? signed.userId = some row := by
  rcases JwtStrategy.validate_cases ⟨true, true⟩ db.toTables signed.jwt.payload with
    ⟨off, -⟩ | ⟨-, missing | missing, same⟩ | ⟨user, -, -, found, ⟨good, same⟩ | ⟨bad, e, same⟩⟩
  · cases off
  · cases missing
  · rw [same]
    constructor
    · intro follows
      obtain ⟨row, found, -⟩ := follows.accepted_iff.mp ⟨_, rfl⟩
      exact ⟨row, found⟩
    · rintro ⟨row, found⟩
      cases found.symm.trans missing
  · rw [same]
    have stands := (goodStanding_iff (mem_of_find? found)).mpr good
    refine iff_of_true ⟨iff_of_true ⟨_, rfl⟩ ⟨user, found, stands⟩, ?_⟩ ⟨user, found⟩
    intro r accepted
    cases accepted
    exact ⟨user, found, rfl, rfl, rfl, rfl⟩
  · rw [same]
    refine iff_of_true ⟨iff_of_false (fun ⟨r, accepted⟩ => by cases accepted) ?_,
      fun r accepted => by cases accepted⟩ ⟨user, found⟩
    rintro ⟨row, found', stands⟩
    cases found.symm.trans found'
    exact bad ((goodStanding_iff (mem_of_find? found)).mp stands)

/-- A service that started without: only an account that is as the token has it is followed. -/
theorem follows_offline_iff : FollowsAccount db.toTables signed.userId
      (JwtStrategy.validate ⟨false, true⟩ db.toTables signed.jwt.payload) ↔
    ∃ row, db.users.find? signed.userId = some row ∧ GoodStanding db.toTables row ∧
      row.tenantId = signed.tenantId ∧ row.role = signed.role ∧
      row.isPlatformAdmin = signed.isPlatformAdmin := by
  have same : JwtStrategy.validate ⟨false, true⟩ db.toTables signed.jwt.payload =
      .ok (JwtStrategy.offlineUser signed.jwt.payload) := rfl
  rw [same]
  constructor
  · intro follows
    obtain ⟨row, found, stands⟩ := follows.accepted_iff.mp ⟨_, rfl⟩
    obtain ⟨row', found', -, tenantId, role, isPlatformAdmin⟩ := follows.current _ rfl
    cases found.symm.trans found'
    exact ⟨row, found, stands, tenantId.symm, role.symm, isPlatformAdmin.symm⟩
  · rintro ⟨row, found, stands, tenantId, role, isPlatformAdmin⟩
    refine ⟨iff_of_true ⟨_, rfl⟩ ⟨row, found, stands⟩, fun r accepted => ?_⟩
    cases accepted
    exact ⟨row, found, (key_of_find? found).symm, tenantId.symm, role.symm, isPlatformAdmin.symm⟩

end

/-- **Access follows the account, with two exceptions.** After every history, the answer to a token
that has not expired follows its account exactly if the account is there and, where the service
started without a database, is in good standing and still what the token says. Of a token that was
issued for a user of the start, what can differ by then is the role. -/
theorem follows_account_iff (db : Db) (events : List AccountEvent) (signed : Signed)
    (isConnected : Bool) (now : Instant) (unexpired : now < signed.jwt.expiresAt) :
    (FollowsAccount (run AccountEvent.step db events).toTables signed.userId
        (JwtStrategy.authenticate ⟨isConnected, true⟩ (run AccountEvent.step db events).toTables
          signed.jwt now) ↔
      ∃ row, (run AccountEvent.step db events).users.find? signed.userId = some row ∧
        (isConnected = false → GoodStanding (run AccountEvent.step db events).toTables row ∧
          row.tenantId = signed.tenantId ∧ row.role = signed.role ∧
          row.isPlatformAdmin = signed.isPlatformAdmin)) ∧
    ∀ user ∈ db.users.rows, signed = .of user signed.issuedAt →
      ∀ row, (run AccountEvent.step db events).users.find? signed.userId = some row →
        row.tenantId = signed.tenantId ∧ row.isPlatformAdmin = signed.isPlatformAdmin := by
  constructor
  · rw [JwtStrategy.authenticate, if_pos unexpired]
    cases isConnected with
    | true => simpa using follows_connected_iff
    | false => simpa using follows_offline_iff
  · intro user mem isOf row found
    obtain ⟨was, memWas, sameId, tenantId, isPlatformAdmin⟩ :=
      Descends.run db events row (mem_of_find? found)
    have isUser : was.id = user.id := by
      rw [sameId, isOf] at *
      exact key_of_find? found
    cases db.users.eq_of_key_eq memWas mem isUser
    rw [isOf]
    exact ⟨tenantId.symm, isPlatformAdmin.symm⟩

namespace Desk

def academy : Tenant := { id := 7, name := "هنرستان رکاد", slug := "rokad-boys" }

def pupil : User :=
  { id := 3, tenantId := 7, phone := some "09121234567", passwordHash := "hash of b1404",
    firstName := "امید", lastName := "راد" }

def enrolled : Db where
  tenants := ⟨[academy], by decide +kernel, by decide +kernel⟩
  users := ⟨[pupil], by decide +kernel, by decide +kernel⟩
  students := ⟨[{ id := 1, tenantId := 7, userId := 3, studentCode := "1404" }], by decide +kernel,
    by decide +kernel⟩
  foreignKeys := by constructor <;> decide +kernel

def pupilSigned : Signed := .of pupil 1000

/-- What a minute later is made of the token. -/
def later (isConnected : Bool) (events : List AccountEvent) : Result RequestUser :=
  JwtStrategy.authenticate ⟨isConnected, true⟩ (run AccountEvent.step enrolled events).toTables
    pupilSigned.jwt 61000

end Desk

/-- A suspension, with a database: the token is refused. -/
theorem follows_account_suspended :
    FollowsAccount (run AccountEvent.step Desk.enrolled [.setStatus 3 .suspended]).toTables 3
      (Desk.later true [.setStatus 3 .suspended]) :=
  (follows_account_iff Desk.enrolled [.setStatus 3 .suspended] Desk.pupilSigned true 61000
    (by decide)).1.mpr
    ⟨{ Desk.pupil with status := .suspended }, by decide +kernel, nofun⟩

/-- A student who is deleted is let in by a service with a database, and one who is suspended by a
service that started without. -/
theorem not_follows_account :
    ¬ FollowsAccount (run AccountEvent.step Desk.enrolled [.deleteStudent 7 1 false]).toTables 3
        (Desk.later true [.deleteStudent 7 1 false]) ∧
      ¬ FollowsAccount (run AccountEvent.step Desk.enrolled [.setStatus 3 .suspended]).toTables 3
        (Desk.later false [.setStatus 3 .suspended]) := by
  constructor
  · intro follows
    have accepted : Desk.later true [.deleteStudent 7 1 false] =
        .ok (JwtStrategy.fallbackUser Desk.pupilSigned.jwt.payload) := by
      decide +kernel
    obtain ⟨row, found, -⟩ := follows.accepted_iff.mp ⟨_, accepted⟩
    have gone : (run AccountEvent.step Desk.enrolled [.deleteStudent 7 1 false]).users.find? 3 =
        none := by
      decide +kernel
    cases gone.symm.trans found
  · intro follows
    have accepted : Desk.later false [.setStatus 3 .suspended] =
        .ok (JwtStrategy.offlineUser Desk.pupilSigned.jwt.payload) := by
      decide +kernel
    obtain ⟨row, found, active, -⟩ := follows.accepted_iff.mp ⟨_, accepted⟩
    have suspended : (run AccountEvent.step Desk.enrolled [.setStatus 3 .suspended]).users.find? 3 =
        some { Desk.pupil with status := .suspended } := by
      decide +kernel
    cases suspended.symm.trans found
    cases active

end Rokad.Access
