import Rokad.Rbac.Operations

/-!
# The role service

`RbacService` as programs over its operations. `getUserPermissions` reads the cache, then the
database, then writes the cache; each call that changes access works on the database and then
deletes the cache entries it thinks of.
-/

namespace Rokad.Rbac

open Rokad.Base Rokad.Common

abbrev RbacProg := Prog Op Res Failure

abbrev query (op : Op) : RbacProg (Res op) := Prog.call op

def orNotFound {α : Type} (found : Option α) (message : String) : RbacProg α :=
  .ret (orFail found (.notFound message))

def demand (cond : Prop) [Decidable cond] (e : Failure) : RbacProg Unit := .ret (require cond e)

def invalidateUserPermissionsCache (tenantId userId : Id) : RbacProg Unit := do
  let _ ← query (.cacheDel tenantId userId)
  pure ()

/-! ### Reading -/

def getUserPermissions (tenantId userId : Id) : RbacProg (List Code) := do
  match ← query (.cacheGet tenantId userId) with
  | some codes => pure codes
  | none =>
    match ← query (.findAccess tenantId userId) with
    | none => pure []
    | some access => do
        let codes := computePermissions access
        let _ ← query (.cacheSet tenantId userId codes)
        pure codes

def hasPermission (tenantId userId : Id) (permissionCode : Code) : RbacProg Bool := do
  let perms ← getUserPermissions tenantId userId
  pure (permissionCode ∈ perms)

/-! ### Roles -/

structure CreateSchoolRoleDto where
  name : String
  description : Option String := none
  permissionCodes : List Code
  name_notEmpty : name ≠ "" := by decide

structure UpdateSchoolRoleDto where
  (name description : Option String := none)
  permissionCodes : Option (List Code) := none

/-- The missing permissions one by one; a failure is logged and ends it. -/
def createMissing : List Code → RbacProg Unit
  | [] => pure ()
  | code :: codes => do
      match ← query (.createPermission code) with
      | .ok _ => createMissing codes
      | .error _ => pure ()

def ensureCatalogPermissionsInDb : RbacProg Unit := do
  let existingCodes ← query .permissionCodes
  createMissing (PERMISSION_CATALOG.filter (· ∉ existingCodes))

def createRole (tenantId : Id) (dto : CreateSchoolRoleDto) : RbacProg (Option RoleView) := do
  match ← query (.findRoleByName tenantId (trim dto.name)) with
  | some existing => do
      demand existing.deletedAt.isSome (.conflict
        ("نقش سازمانی با نام '" ++ dto.name ++ "' قبلاً در این مدرسه ثبت شده است"))
      ensureCatalogPermissionsInDb
      let permissions ← query (.findPermissions dto.permissionCodes)
      let done ← query (.reactivateRole existing.id (dto.description.map trim) permissions)
      let _ ← (Prog.ret done : RbacProg Unit)
      query (.findRoleById existing.id)
  | none => do
      ensureCatalogPermissionsInDb
      let permissions ← query (.findPermissions dto.permissionCodes)
      let newRole ← Prog.call
        (.createRole tenantId (trim dto.name) (dto.description.map trim) permissions)
      let view ← (Prog.ret newRole : RbacProg RoleView)
      pure (some view)

/-- A new name must not be another role's. -/
def checkDuplicate (tenantId roleId : Id) (name : Option String) (role : SchoolRole)
    (given : Option String) : RbacProg Unit :=
  match name with
  | none => pure ()
  | some name =>
    if name = role.name then pure ()
    else do
      let duplicate ← query (.findDuplicate tenantId name roleId)
      demand duplicate.isNone
        (.conflict ("نقش دیگری با عنوان '" ++ given.getD "" ++ "' در این مدرسه وجود دارد"))

def updateRole (tenantId roleId : Id) (dto : UpdateSchoolRoleDto) : RbacProg (Option RoleView) := do
  let found ← query (.findRole tenantId roleId)
  let role ← orNotFound found "نقش مورد نظر یافت نشد"
  let name := (truthy dto.name).map trim
  checkDuplicate tenantId roleId name role.view.role dto.name
  let done ← query (.updateRole tenantId roleId name (dto.description.map trim)
    dto.permissionCodes role.userRoles)
  let _ ← (Prog.ret done : RbacProg Unit)
  Prog.forEach role.userRoles fun userId => invalidateUserPermissionsCache tenantId userId
  query (.findRoleById roleId)

def deleteRole (tenantId roleId : Id) (now : Instant) : RbacProg String := do
  let found ← query (.findRole tenantId roleId)
  let role ← orNotFound found "نقش مورد نظر در این مدرسه یافت نشد"
  demand (role.view.role.isSystem = false) (.forbidden "نقش‌های پایه سیستمی قابل حذف نیستند")
  demand (role.userRoles.length = 0) (.conflict ("این نقش در حال حاضر به " ++
    toString role.userRoles.length ++
    " کاربر اختصاص داده شده است. ابتدا نقش آن‌ها را تغییر دهید."))
  let done ← query (.setRoleDeletedAt roleId (some now))
  let _ ← (Prog.ret done : RbacProg Unit)
  pure ("نقش '" ++ role.view.role.name ++ "' با موفقیت حذف شد")

def restoreRole (tenantId roleId : Id) : RbacProg (Option RoleView) := do
  let found ← query (.findDeletedRole tenantId roleId)
  let _ ← orNotFound found "نقش حذف‌شده مورد نظر یافت نشد"
  let done ← query (.setRoleDeletedAt roleId none)
  let _ ← (Prog.ret done : RbacProg Unit)
  query (.findRoleById roleId)

/-! ### Roles of a user -/

def rbacManage : Code := "rbac.manage"

/-- Whether the actor, if it is a user of the tenant, is an administrator. -/
def actsAsAdmin (adminUser : Option User) : Bool := adminUser.elim false (·.role.isAdmin)

/-- Who manages roles may not take that from itself. -/
def checkSelfLockout (tenantId adminId targetUserId : Id) (adminUser : Option User)
    (grantsRbacManage : Bool) : RbacProg Unit :=
  if adminId = targetUserId ∧ actsAsAdmin adminUser = false then do
    let currentHasRbac ← hasPermission tenantId adminId rbacManage
    demand (¬ (currentHasRbac = true ∧ grantsRbacManage = false))
      (.forbidden "مدیر نمی‌تواند دسترسی مدیریت نقش را از خود سلب کند")
  else pure ()

def syncUserRoles (tenantId adminId targetUserId : Id) (schoolRoleIds : List Id) :
    RbacProg (List String) := do
  let adminUser ← query (.findUser tenantId adminId)
  let target ← query (.findAccess tenantId targetUserId)
  let _ ← orNotFound target "کاربر مورد نظر یافت نشد"
  let targetRoles ← query (.findRoles tenantId schoolRoleIds)
  demand (targetRoles.length = schoolRoleIds.length)
    (.notFound "یک یا چند نقش درخواستی یافت نشد")
  let grantsRbacManage := targetRoles.any fun r => r.permissions.contains rbacManage
  demand (¬ (grantsRbacManage = true ∧ actsAsAdmin adminUser = false)) (.forbidden
    "تنها مدیر ارشد آموزشگاه مجاز به تخصیص نقش دارای دسترسی مدیریت نقش‌ها (rbac.manage) است")
  checkSelfLockout tenantId adminId targetUserId adminUser grantsRbacManage
  let done ← query (.setUserRoles tenantId targetUserId schoolRoleIds)
  let _ ← (Prog.ret done : RbacProg Unit)
  invalidateUserPermissionsCache tenantId targetUserId
  pure (targetRoles.map (·.role.name))

/-! ### Overrides -/

structure SetUserOverrideDto where
  permissionCode : Code
  effect : PermissionOverrideEffect
  reason : Option String := none
  permissionCode_notEmpty : permissionCode ≠ "" := by decide

def setUserOverride (tenantId adminId targetUserId : Id) (dto : SetUserOverrideDto) :
    RbacProg Unit := do
  let adminUser ← query (.findUser tenantId adminId)
  let target ← query (.findUser tenantId targetUserId)
  let _ ← orNotFound target "کاربر هدف یافت نشد"
  demand (¬ (adminId = targetUserId ∧ dto.permissionCode = rbacManage ∧ dto.effect = .revoke))
    (.forbidden "مدیر مدرسه نمی‌تواند دسترسی مدیریت نقش (rbac.manage) را از خود سلب کند")
  demand (¬ (dto.permissionCode = rbacManage ∧ dto.effect = .grant ∧ actsAsAdmin adminUser = false))
    (.forbidden "تنها مدیر ارشد آموزشگاه مجاز به اعطای مستقیم دسترسی مدیریت نقش‌هاست")
  let _ ← query (.findOverride tenantId targetUserId dto.permissionCode)
  let done ← query (.upsertOverride tenantId targetUserId dto.permissionCode dto.effect
    (dto.reason.map trim) adminId)
  let _ ← (Prog.ret done : RbacProg Unit)
  invalidateUserPermissionsCache tenantId targetUserId

def removeUserOverride (tenantId targetUserId : Id) (permissionCode : Code) (now : Instant) :
    RbacProg String := do
  match ← query (.findOverride tenantId targetUserId permissionCode) with
  | none => pure "اوررایدی برای این پرمیشن وجود نداشت"
  | some existing => do
      let done ← query (.setOverrideDeletedAt existing.id (some now))
      let _ ← (Prog.ret done : RbacProg Unit)
      invalidateUserPermissionsCache tenantId targetUserId
      pure "اورراید با موفقیت حذف شد و به حالت ارث‌بری از نقش بازگشت"

def restoreUserOverride (tenantId targetUserId : Id) (permissionCode : Code) : RbacProg Unit := do
  let found ← query (.findDeletedOverride tenantId targetUserId permissionCode)
  let existing ← orNotFound found "اورراید حذف‌شده یافت نشد"
  let done ← query (.setOverrideDeletedAt existing.id none)
  let _ ← (Prog.ret done : RbacProg Unit)
  invalidateUserPermissionsCache tenantId targetUserId

/-! ### Calls -/

inductive RbacCall where
  | createRole (dto : CreateSchoolRoleDto)
  | updateRole (roleId : Id) (dto : UpdateSchoolRoleDto)
  | deleteRole (roleId : Id)
  | restoreRole (roleId : Id)
  | syncUserRoles (targetUserId : Id) (schoolRoleIds : List Id)
  | setUserOverride (targetUserId : Id) (dto : SetUserOverrideDto)
  | removeUserOverride (targetUserId : Id) (permissionCode : Code)
  | restoreUserOverride (targetUserId : Id) (permissionCode : Code)

/-- A call with its tenant, its actor and its time. -/
structure RbacRequest where
  (tenantId adminId : Id)
  now : Instant := 0
  call : RbacCall

def ignore {α : Type} (p : RbacProg α) : RbacProg Unit := do
  let _ ← p
  pure ()

def RbacRequest.prog (r : RbacRequest) : RbacProg Unit :=
  match r.call with
  | .createRole dto => ignore (createRole r.tenantId dto)
  | .updateRole roleId dto => ignore (updateRole r.tenantId roleId dto)
  | .deleteRole roleId => ignore (deleteRole r.tenantId roleId r.now)
  | .restoreRole roleId => ignore (restoreRole r.tenantId roleId)
  | .syncUserRoles target ids => ignore (syncUserRoles r.tenantId r.adminId target ids)
  | .setUserOverride target dto => setUserOverride r.tenantId r.adminId target dto
  | .removeUserOverride target code => ignore (removeUserOverride r.tenantId target code r.now)
  | .restoreUserOverride target code => restoreUserOverride r.tenantId target code

/-- One call at a time. -/
def perform (s : State) (r : RbacRequest) : State := (r.prog.run exec s).1

/-! ### What a reader gets -/

/-- The cached list, or what the database gives. -/
def State.listed (s : State) (tenantId userId : Id) : List Code :=
  (s.cache tenantId userId).getD (s.db.permissionsOf tenantId userId)

/-- The state after a reader: a list that was computed is cached. -/
def State.read (s : State) (tenantId userId : Id) : State :=
  match s.cache tenantId userId, s.db.findAccess tenantId userId with
  | none, some access => s.setCache tenantId userId (some (computePermissions access))
  | _, _ => s

@[simp] theorem State.read_db (s : State) (tenantId userId : Id) :
    (s.read tenantId userId).db = s.db := by
  unfold State.read
  split <;> rfl

theorem run_getUserPermissions (s : State) (tenantId userId : Id) :
    (getUserPermissions tenantId userId).run exec s =
      (s.read tenantId userId, .ok (s.listed tenantId userId)) := by
  cases cached : s.cache tenantId userId with
  | some codes => simp [getUserPermissions, exec, State.read, State.listed, cached]
  | none =>
    cases found : s.db.findAccess tenantId userId <;>
      simp [getUserPermissions, exec, State.read, State.listed, Db.permissionsOf, cached, found]

end Rokad.Rbac
