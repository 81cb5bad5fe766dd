import Rokad.Base.Process
import Rokad.Common.Http
import Rokad.Common.Jalali

/-!
# Roles and permissions

The tables of the role module with the columns it reads or writes. A permission is given by
its code, which is unique. Roles and overrides are deleted softly, by a `deletedAt`. A `Db`
in which a user holds a role that does not exist cannot be built.

What a user may do is computed from its base role, the roles it holds and its overrides
(`computePermissions`). Nothing of it looks at a `deletedAt`.
-/

namespace Rokad.Rbac

open Rokad.Base Rokad.Common

/-! ### Rows -/

abbrev Code := String

inductive PermissionOverrideEffect where
  | grant | revoke
deriving DecidableEq

structure User where
  (id tenantId : Id)
  (firstName lastName : String := "")
  role : UserRole := .student
  isPlatformAdmin : Bool := false
deriving DecidableEq

structure SchoolRole where
  (id tenantId : Id)
  name : String
  description : Option String := none
  isSystem : Bool := false
  deletedAt : Option Instant := none

structure RolePermission where
  schoolRoleId : Id
  permissionCode : Code

structure UserSchoolRole where
  (tenantId userId schoolRoleId : Id)

structure UserPermissionOverride where
  (id tenantId userId : Id)
  permissionCode : Code
  effect : PermissionOverrideEffect
  grantedById : Id
  reason : Option String := none
  deletedAt : Option Instant := none
deriving DecidableEq

instance : Record SchoolRole where
  key r := r.id
  clash a b := a.tenantId == b.tenantId && a.name == b.name

instance : Record UserPermissionOverride where
  key o := o.id
  clash a b := a.tenantId == b.tenantId && a.userId == b.userId &&
    a.permissionCode == b.permissionCode

structure Db where
  users : List User
  permissions : List Code := []
  roles : Table SchoolRole := .empty
  rolePermissions : List RolePermission := []
  userSchoolRoles : List UserSchoolRole := []
  overrides : Table UserPermissionOverride := .empty
  users_nodup : (users.map (·.id)).Nodup
  held_exists : ∀ h ∈ userSchoolRoles, roles.has (some h.schoolRoleId) = true

/-! ### Permissions -/

/-- The codes of the catalogue. -/
def PERMISSION_CATALOG : List Code :=
  ["academic.year.read", "academic.year.write", "academic.level.write", "academic.field.write",
    "lesson.read", "lesson.write", "classroom.read", "classroom.write", "schedule.read",
    "schedule.write", "enrollment.write", "student.read", "student.write", "teacher.read",
    "teacher.write", "coach.read", "coach.write", "staff.read", "staff.write", "parent.read",
    "parent.write", "parent.student.link", "exam.read", "exam.write", "grades.read",
    "grades.write", "attendance.read", "attendance.write", "homework.read", "homework.write",
    "calendar.write", "coaching.read", "coaching.write", "blog.write", "blog.publish",
    "school.profile.write", "message.broadcast", "message.class.write", "finance.fee.read",
    "finance.fee.write", "finance.check.manage", "finance.fee.import", "finance.payroll.read",
    "finance.payroll.write", "role.read", "role.write", "role.assign", "rbac.manage"]

def getBaseRolePermissions : UserRole → List Code
  | .teacher =>
    ["lesson.read", "attendance.write", "attendance.read", "homework.write", "homework.read",
      "grades.write", "grades.read", "schedule.read", "student.read", "exam.read", "exam.write",
      "blog.write"]
  | .student =>
    ["lesson.read", "schedule.read", "attendance.read", "homework.read", "grades.read",
      "exam.read", "coaching.read"]
  | .parent =>
    ["student.read", "attendance.read", "grades.read", "homework.read", "schedule.read",
      "finance.fee.read", "coaching.read"]
  | .coach => ["coaching.read", "coaching.write", "student.read", "blog.write", "schedule.read"]
  | .staff =>
    ["attendance.read", "attendance.write", "student.read", "teacher.read", "calendar.write",
      "blog.write"]
  | .superAdmin | .schoolAdmin => []

/-- A role that is read with its permissions. -/
structure RoleView where
  role : SchoolRole
  permissions : List Code

/-- A user that is read with the roles it holds and its overrides. -/
structure UserAccess where
  user : User
  roles : List RoleView
  overrides : List UserPermissionOverride

/-- Adding to a set in the order of insertion. -/
def addCode (set : List Code) (code : Code) : List Code :=
  if code ∈ set then set else set ++ [code]

def applyOverride (set : List Code) (ov : UserPermissionOverride) : List Code :=
  match ov.effect with
  | .grant => addCode set ov.permissionCode
  | .revoke => set.filter (· ≠ ov.permissionCode)

/-- The codes that come from the base role and the roles held. -/
def inheritedCodes (access : UserAccess) : List Code :=
  access.roles.foldl (fun set r => r.permissions.foldl addCode set)
    ((getBaseRolePermissions access.user.role).foldl addCode [])

def computePermissions (access : UserAccess) : List Code :=
  if access.user.role.isAdmin then PERMISSION_CATALOG
  else access.overrides.foldl applyOverride (inheritedCodes access)

namespace Db

def findUser (db : Db) (tenantId userId : Id) : Option User :=
  db.users.find? fun u => u.id = userId ∧ u.tenantId = tenantId

def codesOf (db : Db) (roleId : Id) : List Code :=
  (db.rolePermissions.filter fun rp => rp.schoolRoleId = roleId).map (·.permissionCode)

def viewOf (db : Db) (role : SchoolRole) : RoleView := ⟨role, db.codesOf role.id⟩

/-- The roles a user holds, in whichever tenant. -/
def rolesOf (db : Db) (userId : Id) : List RoleView :=
  (db.userSchoolRoles.filter fun h => h.userId = userId).filterMap fun h =>
    (db.roles.find? h.schoolRoleId).map db.viewOf

def overridesOf (db : Db) (userId : Id) : List UserPermissionOverride :=
  db.overrides.rows.filter fun o => o.userId = userId

def accessOf (db : Db) (user : User) : UserAccess where
  user
  roles := db.rolesOf user.id
  overrides := db.overridesOf user.id

def findAccess (db : Db) (tenantId userId : Id) : Option UserAccess :=
  (db.findUser tenantId userId).map db.accessOf

/-- What the database gives a user. -/
def permissionsOf (db : Db) (tenantId userId : Id) : List Code :=
  ((db.findAccess tenantId userId).map computePermissions).getD []

end Db

/-! ### Which codes -/

section

variable {code : Code} {set : List Code}

@[simp] theorem mem_addCode {c : Code} : c ∈ addCode set code ↔ c ∈ set ∨ c = code := by
  unfold addCode
  split
  · rename_i mem
    exact ⟨Or.inl, fun h => h.elim id fun same => same ▸ mem⟩
  · simp

theorem mem_foldl_addCode {c : Code} {codes : List Code} :
    c ∈ codes.foldl addCode set ↔ c ∈ set ∨ c ∈ codes := by
  induction codes generalizing set with
  | nil => simp
  | cons first rest ih => simp [ih, or_assoc]

theorem mem_inheritedCodes {access : UserAccess} {c : Code} :
    c ∈ inheritedCodes access ↔
      c ∈ getBaseRolePermissions access.user.role ∨ ∃ r ∈ access.roles, c ∈ r.permissions := by
  have roles : ∀ (views : List RoleView) (set : List Code),
      c ∈ views.foldl (fun set r => r.permissions.foldl addCode set) set ↔
        c ∈ set ∨ ∃ r ∈ views, c ∈ r.permissions := by
    intro views
    induction views with
    | nil => simp
    | cons first rest ih =>
      intro set
      simp [ih, mem_foldl_addCode, or_assoc]
  simp [inheritedCodes, roles, mem_foldl_addCode]

theorem mem_applyOverride {c : Code} {ov : UserPermissionOverride} :
    c ∈ applyOverride set ov ↔
      if ov.permissionCode = c then ov.effect = .grant else c ∈ set := by
  unfold applyOverride
  by_cases same : ov.permissionCode = c
  · subst same
    cases ov.effect <;> simp
  · have differ : c ≠ ov.permissionCode := Ne.symm same
    cases ov.effect <;> simp [same, differ]

/-- The last override of a code decides. -/
theorem mem_foldl_applyOverride {c : Code} {overrides : List UserPermissionOverride} :
    c ∈ overrides.foldl applyOverride set ↔
      match (overrides.filter fun o => o.permissionCode = c).getLast? with
      | some ov => ov.effect = .grant
      | none => c ∈ set := by
  induction overrides using List.reverseRecOn with
  | nil => simp
  | append_singleton rest last ih =>
    rw [List.foldl_append, List.foldl_cons, List.foldl_nil, mem_applyOverride, ih,
      List.filter_append]
    by_cases same : last.permissionCode = c
    · simp [same]
    · simp [same]

theorem mem_computePermissions {access : UserAccess} (ordinary : access.user.role.isAdmin = false)
    {c : Code} : c ∈ computePermissions access ↔
      match (access.overrides.filter fun o => o.permissionCode = c).getLast? with
      | some ov => ov.effect = .grant
      | none => c ∈ getBaseRolePermissions access.user.role ∨
          ∃ r ∈ access.roles, c ∈ r.permissions := by
  rw [computePermissions, ordinary, if_neg Bool.false_ne_true, mem_foldl_applyOverride]
  simp only [mem_inheritedCodes]

end

/-!
## Operations of the role module

The statements and transactions the service sends to the database, and its commands to the
cache. Each is one atomic operation; `exec` says what it does and what it answers.
-/

/-! ### Statements -/

namespace Db

/-- A new role with its permissions. -/
def createRole (db : Db) (row : SchoolRole) (codes : List Code) : Result Db :=
  match inserted : db.roles.insert row with
  | none => .error (.database .uniqueConstraint)
  | some roles => .ok
      { db with
        roles
        rolePermissions := db.rolePermissions ++ codes.map fun c => ⟨row.id, c⟩
        held_exists := fun h mem => Table.has_insert inserted (db.held_exists h mem) }

/-- The permissions of a role after they are deleted and created anew. -/
def replacePermissions (rows : List RolePermission) (roleId : Id) (codes : List Code) :
    List RolePermission :=
  rows.filter (·.schoolRoleId ≠ roleId) ++ codes.map fun c => ⟨roleId, c⟩

/-- A role changes its columns and, when they are given, its permissions. -/
def updateRole (db : Db) (id : Id) (f : SchoolRole → SchoolRole)
    (keep : ∀ r, Record.key (f r) = Record.key r) (codes : Option (List Code)) :
    Result Db :=
  match updated : db.roles.update id f keep with
  | none => .error (.database
      (if db.roles.has (some id) then .uniqueConstraint else .recordNotFound))
  | some roles => .ok
      { db with
        roles
        rolePermissions := codes.elim db.rolePermissions (replacePermissions db.rolePermissions id)
        held_exists := fun h mem => (Table.has_update updated _).trans (db.held_exists h mem) }

/-- The roles of a user in a tenant are deleted and created anew. -/
def setUserRoles (db : Db) (tenantId userId : Id) (ids : List Id) : Result Db :=
  if exist : ∀ id ∈ ids, db.roles.has (some id) = true then .ok
    { db with
      userSchoolRoles := (db.userSchoolRoles.filter fun h =>
        ¬ (h.tenantId = tenantId ∧ h.userId = userId)) ++ ids.map fun id => ⟨tenantId, userId, id⟩
      held_exists := by
        intro h mem
        rcases List.mem_append.mp mem with mem | mem
        · exact db.held_exists h (List.mem_of_mem_filter mem)
        · obtain ⟨id, memId, rfl⟩ := List.mem_map.mp mem
          exact exist id memId }
  else .error (.database .foreignKey)

def findOverride (db : Db) (tenantId userId : Id) (code : Code) :
    Option UserPermissionOverride :=
  db.overrides.rows.find? fun o =>
    o.tenantId = tenantId ∧ o.userId = userId ∧ o.permissionCode = code

/-- What an upsert sets of an override that exists; its `deletedAt` is not among it. -/
def overwrite (effect : PermissionOverrideEffect) (reason : Option String) (grantedById : Id)
    (o : UserPermissionOverride) : UserPermissionOverride :=
  { o with effect, reason := reason <|> o.reason, grantedById }

theorem key_overwrite (effect : PermissionOverrideEffect) (reason : Option String)
    (grantedById : Id) (o : UserPermissionOverride) :
    Record.key (overwrite effect reason grantedById o) = Record.key o := rfl

def withOverrides (db : Db) (overrides : Option (Table UserPermissionOverride))
    (problem : DatabaseProblem) : Result Db :=
  match overrides with
  | some overrides => .ok { db with overrides }
  | none => .error (.database problem)

def upsertOverride (db : Db) (tenantId userId : Id) (code : Code)
    (effect : PermissionOverrideEffect) (reason : Option String) (grantedById : Id) :
    Result Db :=
  if ¬ (∃ u ∈ db.users, u.id = grantedById) then .error (.database .foreignKey)
  else
    match db.findOverride tenantId userId code with
    | some o => db.withOverrides (db.overrides.update o.id (overwrite effect reason grantedById)
        (key_overwrite effect reason grantedById)) .uniqueConstraint
    | none => db.withOverrides (db.overrides.insert
        { id := db.overrides.fresh, tenantId, userId, permissionCode := code, effect, reason,
          grantedById }) .uniqueConstraint

def setDeletedAt (deletedAt : Option Instant) (o : UserPermissionOverride) :
    UserPermissionOverride :=
  { o with deletedAt }

theorem key_setDeletedAt (deletedAt : Option Instant) (o : UserPermissionOverride) :
    Record.key (setDeletedAt deletedAt o) = Record.key o := rfl

def setOverrideDeletedAt (db : Db) (id : Id) (deletedAt : Option Instant) : Result Db :=
  db.withOverrides (db.overrides.update id (setDeletedAt deletedAt) (key_setDeletedAt deletedAt))
    .recordNotFound

end Db

/-! ### Operations -/

/-- A role that is read with its holders. -/
structure RoleHolders where
  view : RoleView
  userRoles : List Id

inductive Op where
  | cacheGet (tenantId userId : Id)
  | cacheSet (tenantId userId : Id) (codes : List Code)
  | cacheDel (tenantId userId : Id)
  | findUser (tenantId userId : Id)
  | findAccess (tenantId userId : Id)
  | findRoleByName (tenantId : Id) (name : String)
  | findDuplicate (tenantId : Id) (name : String) (roleId : Id)
  | findRole (tenantId roleId : Id)
  | findDeletedRole (tenantId roleId : Id)
  | findRoles (tenantId : Id) (ids : List Id)
  | findRoleById (roleId : Id)
  | permissionCodes
  | createPermission (code : Code)
  | findPermissions (codes : List Code)
  | createRole (tenantId : Id) (name : String) (description : Option String) (codes : List Code)
  | reactivateRole (roleId : Id) (description : Option String) (codes : List Code)
  -- The transaction does not use the holders; the call read them before it.
  | updateRole (tenantId roleId : Id) (name description : Option String)
      (codes : Option (List Code)) (userRoles : List Id)
  | setRoleDeletedAt (roleId : Id) (deletedAt : Option Instant)
  | setUserRoles (tenantId userId : Id) (ids : List Id)
  | findOverride (tenantId userId : Id) (code : Code)
  | findDeletedOverride (tenantId userId : Id) (code : Code)
  | upsertOverride (tenantId userId : Id) (code : Code) (effect : PermissionOverrideEffect)
      (reason : Option String) (grantedById : Id)
  | setOverrideDeletedAt (id : Id) (deletedAt : Option Instant)

@[reducible] def Res : Op → Type
  | .cacheGet .. => Option (List Code)
  | .cacheSet .. | .cacheDel .. => Unit
  | .findUser .. => Option User
  | .findAccess .. => Option UserAccess
  | .findRoleByName .. | .findDuplicate .. | .findDeletedRole .. => Option SchoolRole
  | .findRole .. => Option RoleHolders
  | .findRoles .. => List RoleView
  | .findRoleById _ => Option RoleView
  | .permissionCodes | .findPermissions _ => List Code
  | .createRole .. => Result RoleView
  | .findOverride .. | .findDeletedOverride .. => Option UserPermissionOverride
  | .createPermission _ | .reactivateRole .. | .updateRole .. | .setRoleDeletedAt ..
  | .setUserRoles .. | .upsertOverride .. | .setOverrideDeletedAt .. => Result Unit

instance (op : Op) : Nonempty (Res op) := by
  cases op <;> first | infer_instance | exact ⟨.error (.thrown "")⟩

/-- The database, and the cache of the users' permissions. -/
structure State where
  db : Db
  cache : Id → Id → Option (List Code)

namespace State

def setCache (s : State) (tenantId userId : Id) (entry : Option (List Code)) : State :=
  { s with
    cache := fun t u => if t = tenantId ∧ u = userId then entry else s.cache t u }

/-- The state after a statement: unchanged when it fails. -/
def write (s : State) (result : Result Db) : State × Result Unit :=
  match result with
  | .ok db => ({ s with db }, .ok ())
  | .error e => (s, .error e)

end State

def renamed (name description : Option String) (r : SchoolRole) : SchoolRole :=
  { r with name := name.getD r.name, description := description <|> r.description }

def reactivated (description : Option String) (r : SchoolRole) : SchoolRole :=
  { r with deletedAt := none, description := description <|> r.description }

def withDeletedAt (deletedAt : Option Instant) (r : SchoolRole) : SchoolRole :=
  { r with deletedAt }

/-- The permissions with these codes that exist. -/
def Db.findPermissions (db : Db) (codes : List Code) : List Code :=
  db.permissions.filter (· ∈ codes)

def exec (op : Op) (s : State) : State × Res op :=
  match op with
  | .cacheGet tenantId userId => (s, s.cache tenantId userId)
  | .cacheSet tenantId userId codes => (s.setCache tenantId userId (some codes), ())
  | .cacheDel tenantId userId => (s.setCache tenantId userId none, ())
  | .findUser tenantId userId => (s, s.db.findUser tenantId userId)
  | .findAccess tenantId userId => (s, s.db.findAccess tenantId userId)
  | .findRoleByName tenantId name =>
    (s, s.db.roles.rows.find? fun r => r.tenantId = tenantId ∧ r.name = name)
  | .findDuplicate tenantId name roleId =>
    (s, s.db.roles.rows.find? fun r => r.tenantId = tenantId ∧ r.name = name ∧ r.id ≠ roleId)
  | .findRole tenantId roleId =>
    (s, ((s.db.roles.find? roleId).filter (·.tenantId = tenantId)).map fun r =>
      ⟨s.db.viewOf r, (s.db.userSchoolRoles.filter (·.schoolRoleId = roleId)).map (·.userId)⟩)
  | .findDeletedRole tenantId roleId =>
    (s, (s.db.roles.find? roleId).filter fun r => r.tenantId = tenantId ∧ r.deletedAt.isSome)
  | .findRoles tenantId ids =>
    (s, (s.db.roles.rows.filter fun r => r.id ∈ ids ∧ r.tenantId = tenantId).map s.db.viewOf)
  | .findRoleById roleId => (s, (s.db.roles.find? roleId).map s.db.viewOf)
  | .permissionCodes => (s, s.db.permissions)
  | .createPermission code => s.write
      (if code ∈ s.db.permissions then .error (.database .uniqueConstraint)
        else .ok { s.db with permissions := s.db.permissions ++ [code] })
  | .findPermissions codes => (s, s.db.findPermissions codes)
  | .createRole tenantId name description codes =>
    let row : SchoolRole := { id := s.db.roles.fresh, tenantId, name, description }
    match s.db.createRole row codes with
    | .ok db => ({ s with db }, .ok (db.viewOf row))
    | .error e => (s, .error e)
  | .reactivateRole roleId description codes => s.write
      (s.db.updateRole roleId (reactivated description) (fun _ => rfl) (some codes))
  | .updateRole _ roleId name description codes _ => s.write
      (s.db.updateRole roleId (renamed name description) (fun _ => rfl)
        (codes.map s.db.findPermissions))
  | .setRoleDeletedAt roleId deletedAt => s.write
      (s.db.updateRole roleId (withDeletedAt deletedAt) (fun _ => rfl) none)
  | .setUserRoles tenantId userId ids => s.write (s.db.setUserRoles tenantId userId ids)
  | .findOverride tenantId userId code => (s, s.db.findOverride tenantId userId code)
  | .findDeletedOverride tenantId userId code =>
    (s, s.db.overrides.rows.find? fun o => o.tenantId = tenantId ∧ o.userId = userId ∧
      o.permissionCode = code ∧ o.deletedAt.isSome)
  | .upsertOverride tenantId userId code effect reason grantedById => s.write
      (s.db.upsertOverride tenantId userId code effect reason grantedById)
  | .setOverrideDeletedAt id deletedAt => s.write (s.db.setOverrideDeletedAt id deletedAt)

end Rokad.Rbac
