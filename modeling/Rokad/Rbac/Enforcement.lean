import Rokad.Base.Dict
import Rokad.Rbac.Grants
import Rokad.Rbac.Service

/-!
# What is shown and what is enforced

The permissions of a user are computed three times: in `getUserPermissions`, in the detail view
of the access drawer, and in the guard of the handlers. The list and the view walk the same
roles and overrides (`mem_effectiveSet`), but the view knows nothing of administrators and the
guard lets administrators and staff through without looking.
-/

namespace Rokad.Rbac

open Rokad.Base Rokad.Common

/-! ### The detail view -/

inductive PermissionSource where
  | none | overrideGrant | overrideRevoke | schoolRole | baseRole

structure PermissionDetail where
  code : Code
  isEffective : Bool
  source : PermissionSource
  grantingRoles : List String
  overrideEffect : Option PermissionOverrideEffect
  overrideReason : Option String

structure SchoolRoleRef where
  id : Id
  name : String

structure EffectivePermissions where
  userId : Id
  fullName : String
  baseRole : UserRole
  schoolRoles : List SchoolRoleRef
  totalEffectiveCount : ℕ
  permissions : List PermissionDetail

structure OverrideEntry where
  effect : PermissionOverrideEffect
  reason : Option String

/-- The names of the roles that grant each code. -/
def roleGrantedMap (access : UserAccess) : Dict Code (List String) :=
  access.roles.foldl (fun map r => r.permissions.foldl (fun map code =>
    map.set code ((map.get? code).getD [] ++ [r.role.name])) map) .empty

def overridesMap (access : UserAccess) : Dict Code OverrideEntry :=
  access.overrides.foldl (fun map ov => map.set ov.permissionCode ⟨ov.effect, ov.reason⟩) .empty

def applyEntry (set : List Code) (entry : Code × OverrideEntry) : List Code :=
  match entry.2.effect with
  | .grant => addCode set entry.1
  | .revoke => set.filter (· ≠ entry.1)

/-- The codes of the base role and of the roles held, before the overrides. -/
def grantedSet (access : UserAccess) : List Code :=
  (roleGrantedMap access).entries.foldl (fun set entry => addCode set entry.1)
    ((getBaseRolePermissions access.user.role).foldl addCode [])

def effectiveSet (access : UserAccess) : List Code :=
  (overridesMap access).entries.foldl applyEntry (grantedSet access)

def permissionSource (access : UserAccess) (code : Code) : PermissionSource :=
  match (overridesMap access).get? code with
  | some override => if override.effect = .grant then .overrideGrant else .overrideRevoke
  | none =>
    if 0 < (((roleGrantedMap access).get? code).getD []).length then .schoolRole
    else if code ∈ getBaseRolePermissions access.user.role then .baseRole
    else .none

def permissionDetail (access : UserAccess) (code : Code) : PermissionDetail where
  code
  isEffective := code ∈ effectiveSet access
  source := permissionSource access code
  grantingRoles := ((roleGrantedMap access).get? code).getD []
  overrideEffect := ((overridesMap access).get? code).map (·.effect)
  overrideReason := truthy (((overridesMap access).get? code).bind (·.reason))

def getUserEffectivePermissionsDetail (tenantId userId : Id) :
    RbacProg EffectivePermissions := do
  let found ← query (.findAccess tenantId userId)
  let access ← orNotFound found "کاربر مورد نظر یافت نشد"
  pure
    { userId := access.user.id
      fullName := trim (access.user.firstName ++ " " ++ access.user.lastName)
      baseRole := access.user.role
      schoolRoles := access.roles.map fun r => ⟨r.role.id, r.role.name⟩
      totalEffectiveCount := (effectiveSet access).length
      permissions := PERMISSION_CATALOG.map (permissionDetail access) }

/-! ### The guard -/

/-- The user a request was authenticated as. -/
structure RequestUser where
  id : Id
  tenantId : Option Id
  role : UserRole
  isPlatformAdmin : Bool

structure GuardRequest where
  user : Option RequestUser
  tenantId : Option Id

/-- Platform administrators, administrators and staff are let through. -/
def RequestUser.passes (user : RequestUser) : Bool :=
  user.isPlatformAdmin ∨ user.role = .superAdmin ∨ user.role = .schoolAdmin ∨ user.role = .staff

def canActivate (requiredPermissions : Option (List Code)) (request : GuardRequest) :
    RbacProg Bool :=
  match requiredPermissions with
  | none | some [] => pure true
  | some required =>
    match request.user with
    | none => Prog.fail (.forbidden "کاربر احراز هویت نشده است")
    | some user =>
      if user.passes then pure true
      else
        match request.tenantId <|> user.tenantId with
        | none => Prog.fail (.forbidden "کانتکست تننت برای بررسی دسترسی مشخص نیست")
        | some tenantId => do
            let userPermissions ← getUserPermissions tenantId user.id
            demand (∀ perm ∈ required, perm ∈ userPermissions) (.forbidden
              ("شما مجوزهای لازم برای این عملیات را ندارید. مجوزهای مورد نیاز: " ++
                ", ".intercalate required))
            pure true

/-! ### The view computes what the list computes -/

section

variable {c : Code} {access : UserAccess}

theorem get?_roleGrantedMap :
    (roleGrantedMap access).get? c = none ↔ ∀ r ∈ access.roles, c ∉ r.permissions := by
  have codes : ∀ (name : String) (codes : List Code) (map : Dict Code (List String)),
      (codes.foldl (fun map code => map.set code ((map.get? code).getD [] ++ [name])) map).get? c =
        none ↔ map.get? c = none ∧ c ∉ codes := by
    intro name codes
    induction codes with
    | nil => simp
    | cons code rest ih =>
      intro map
      rw [List.foldl_cons, ih, Dict.get?_set]
      by_cases same : code = c
      · simp [same]
      · simp [same, Ne.symm same]
  have roles : ∀ (roles : List RoleView) (map : Dict Code (List String)),
      (roles.foldl (fun map r => r.permissions.foldl (fun map code =>
        map.set code ((map.get? code).getD [] ++ [r.role.name])) map) map).get? c = none ↔
          map.get? c = none ∧ ∀ r ∈ roles, c ∉ r.permissions := by
    intro roles
    induction roles with
    | nil => simp
    | cons r rest ih =>
      intro map
      rw [List.foldl_cons, ih, codes, List.forall_mem_cons, and_assoc]
  rw [roleGrantedMap, roles]
  simp

theorem mem_grantedSet : c ∈ grantedSet access ↔
    c ∈ getBaseRolePermissions access.user.role ∨ ∃ r ∈ access.roles, c ∈ r.permissions := by
  have keys : ∀ (entries : List (Code × List String)) (set : List Code),
      c ∈ entries.foldl (fun set entry => addCode set entry.1) set ↔
        c ∈ set ∨ c ∈ entries.map (·.1) := by
    intro entries
    induction entries with
    | nil => simp
    | cons entry rest ih =>
      intro set
      rw [List.foldl_cons, ih, mem_addCode, List.map_cons, List.mem_cons, or_assoc]
  have granted : c ∈ (roleGrantedMap access).entries.map (·.1) ↔
      ∃ r ∈ access.roles, c ∈ r.permissions := by
    rw [← not_iff_not, ← Dict.get?_eq_none_iff, get?_roleGrantedMap]
    simp
  rw [grantedSet, keys, granted, mem_foldl_addCode]
  simp

theorem get?_overridesMap : (overridesMap access).get? c =
    ((access.overrides.filter fun o => o.permissionCode = c).getLast?).map
      fun ov => ⟨ov.effect, ov.reason⟩ := by
  rw [overridesMap, Dict.get?_foldl_set (fun ov : UserPermissionOverride => ov.permissionCode)
    (fun ov => OverrideEntry.mk ov.effect ov.reason)]
  simp

/-- Entries with different keys do not undo each other. -/
theorem mem_foldl_applyEntry {entries : List (Code × OverrideEntry)}
    (nodup : (entries.map (·.1)).Nodup) {set : List Code} :
    c ∈ entries.foldl applyEntry set ↔ (∃ entry ∈ entries, entry.1 = c ∧ entry.2.effect = .grant) ∨
        (c ∉ entries.map (·.1) ∧ c ∈ set) := by
  induction entries generalizing set with
  | nil => simp
  | cons entry rest ih =>
    obtain ⟨absent, nodup⟩ := List.nodup_cons.mp nodup
    rw [List.foldl_cons, ih nodup]
    by_cases same : entry.1 = c
    · subst same
      have none : ¬ ∃ e ∈ rest, e.1 = entry.1 ∧ e.2.effect = .grant := fun ⟨e, mem, key, _⟩ =>
        absent (List.mem_map.mpr ⟨e, mem, key⟩)
      cases effect : entry.2.effect <;> simp [applyEntry, effect, none, absent]
    · have differ : c ≠ entry.1 := Ne.symm same
      cases effect : entry.2.effect <;> simp [applyEntry, effect, same, differ]

theorem mem_effectiveSet : c ∈ effectiveSet access ↔
    match (access.overrides.filter fun o => o.permissionCode = c).getLast? with
    | some ov => ov.effect = .grant
    | none => c ∈ getBaseRolePermissions access.user.role ∨
        ∃ r ∈ access.roles, c ∈ r.permissions := by
  rw [effectiveSet, mem_foldl_applyEntry (overridesMap access).keys_nodup,
    ← Dict.get?_eq_none_iff, get?_overridesMap, mem_grantedSet]
  have entries : ∀ entry : Code × OverrideEntry, entry ∈ (overridesMap access).entries ↔
      (overridesMap access).get? entry.1 = some entry.2 := fun entry =>
    Dict.get?_eq_some_iff.symm
  cases last : (access.overrides.filter fun o => o.permissionCode = c).getLast? with
  | none =>
    simp only [Option.map_none, true_and, or_iff_right_iff_imp]
    rintro ⟨entry, mem, rfl, -⟩
    rw [entries, get?_overridesMap, last] at mem
    cases mem
  | some ov =>
    simp only [Option.map_some, reduceCtorEq, false_and, or_false]
    constructor
    · rintro ⟨entry, mem, rfl, grant⟩
      rw [entries, get?_overridesMap, last] at mem
      rw [← Option.some.inj mem] at grant
      exact grant
    · intro grant
      refine ⟨(c, ⟨ov.effect, ov.reason⟩), ?_, rfl, grant⟩
      rw [entries, get?_overridesMap, last]
      rfl

/-- The two computations agree on every user but administrators. -/
theorem mem_effectiveSet_iff (ordinary : access.user.role.isAdmin = false) :
    c ∈ effectiveSet access ↔ c ∈ computePermissions access :=
  mem_effectiveSet.trans (mem_computePermissions ordinary).symm

end

/-! ### Agreement -/

/-- The guard lets the request through. -/
def Admits (s : State) (requiredPermissions : List Code) (request : GuardRequest) : Prop :=
  ((canActivate (some requiredPermissions) request).run exec s).2 = .ok true
deriving Decidable

/-- The list of the user's permissions has the code. -/
def Lists (s : State) (user : User) (code : Code) : Prop :=
  Returns ((getUserPermissions user.tenantId user.id).run exec s).2 (code ∈ ·)
deriving Decidable

/-- The detail view shows the code in this way. -/
def Shows (s : State) (user : User) (code : Code) (P : PermissionDetail → Prop) : Prop :=
  Returns ((getUserEffectivePermissionsDetail user.tenantId user.id).run exec s).2 fun view =>
    ∃ detail ∈ view.permissions, detail.code = code ∧ P detail

def PermissionDetail.effective (detail : PermissionDetail) : Prop := detail.isEffective = true
deriving Decidable

def PermissionDetail.revoked (detail : PermissionDetail) : Prop :=
  detail.overrideEffect = some .revoke
deriving Decidable

instance (s : State) (user : User) (code : Code) (P : PermissionDetail → Prop)
    [DecidablePred P] : Decidable (Shows s user code P) :=
  inferInstanceAs (Decidable (Returns _ _))

/-- The user as it signs in. -/
def User.signedIn (user : User) : RequestUser :=
  ⟨user.id, some user.tenantId, user.role, user.isPlatformAdmin⟩

/-- A request of the user on its own tenant. -/
def User.request (user : User) : GuardRequest := ⟨some user.signedIn, some user.tenantId⟩

/-- What the cache has of a user is what the database gives it. -/
def State.Current (s : State) (user : User) : Prop :=
  ∀ codes, s.cache user.tenantId user.id = some codes →
    ∀ c, c ∈ codes ↔ c ∈ s.db.permissionsOf user.tenantId user.id

theorem State.Current.of_uncached {s : State} {user : User}
    (uncached : s.cache user.tenantId user.id = none) : s.Current user := by
  intro codes cached
  rw [uncached] at cached
  cases cached

section

variable {s : State} {user : User} {p : Code}

theorem lists_iff : Lists s user p ↔ p ∈ s.listed user.tenantId user.id := by
  rw [Lists, run_getUserPermissions]
  exact Iff.rfl

theorem admits_of_passes (passes : user.signedIn.passes = true) : Admits s [p] user.request := by
  simp [Admits, canActivate, User.request, passes]

/-- The guard looks at the list. -/
theorem admits_iff_lists (ordinary : user.signedIn.passes = false) :
    Admits s [p] user.request ↔ Lists s user p := by
  rw [lists_iff]
  unfold Admits canActivate User.request
  simp only [ordinary, Bool.false_eq_true, if_false]
  simp only [User.signedIn, Option.orElse_eq_orElse, Option.orElse_eq_or, Option.some_or,
    Prog.run_bind, run_getUserPermissions, List.forall_mem_singleton]
  by_cases mem : p ∈ s.listed user.tenantId user.id <;> simp [demand, require, mem]

theorem shows_iff (member : user ∈ s.db.users) (catalogued : p ∈ PERMISSION_CATALOG)
    {P : PermissionDetail → Prop} :
    Shows s user p P ↔ P (permissionDetail (s.db.accessOf user) p) := by
  simp only [Shows, getUserEffectivePermissionsDetail, exec, Prog.call_bind, Prog.run_step,
    Db.findAccess_of_mem member, orNotFound, orFail, Prog.ret_ok_bind, Prog.pure_eq, Prog.run_ret,
    Returns]
  constructor
  · rintro ⟨detail, mem, rfl, shown⟩
    obtain ⟨c, -, rfl⟩ := List.mem_map.mp mem
    exact shown
  · exact fun shown => ⟨_, List.mem_map_of_mem catalogued, rfl, shown⟩

theorem current_listed (current : s.Current user) :
    p ∈ s.listed user.tenantId user.id ↔ p ∈ s.db.permissionsOf user.tenantId user.id := by
  unfold State.listed
  cases cached : s.cache user.tenantId user.id with
  | none => rfl
  | some codes => exact current codes cached p

/-- The list and the view agree on every user but administrators. -/
theorem lists_iff_shows (member : user ∈ s.db.users) (catalogued : p ∈ PERMISSION_CATALOG)
    (ordinary : user.role.isAdmin = false) (current : s.Current user) :
    Lists s user p ↔ Shows s user p PermissionDetail.effective := by
  rw [lists_iff, current_listed current, shows_iff member catalogued, Db.permissionsOf,
    Db.findAccess_of_mem member, Option.map_some, Option.getD_some,
    ← mem_effectiveSet_iff (show (s.db.accessOf user).user.role.isAdmin = false from ordinary)]
  exact decide_eq_true_iff.symm

theorem lists_of_isAdmin (member : user ∈ s.db.users) (catalogued : p ∈ PERMISSION_CATALOG)
    (admin : user.role.isAdmin = true) (current : s.Current user) : Lists s user p := by
  rw [lists_iff, current_listed current, Db.permissionsOf, Db.findAccess_of_mem member,
    Option.map_some, Option.getD_some, computePermissions]
  rw [if_pos (show (s.db.accessOf user).user.role.isAdmin = true from admin)]
  exact catalogued

/-- What is shown as revoked is not effective. -/
theorem not_effective_of_revoked {access : UserAccess}
    (revoked : (permissionDetail access p).revoked) :
    ¬ (permissionDetail access p).effective := by
  unfold PermissionDetail.revoked permissionDetail at revoked
  simp only [get?_overridesMap, Option.map_map, Option.map_eq_some_iff] at revoked
  obtain ⟨ov, last, effect⟩ := revoked
  unfold PermissionDetail.effective permissionDetail
  rw [decide_eq_true_iff, mem_effectiveSet, last]
  simp_all

/-- **The permission shown is the permission enforced**, with the exceptions the guard and the
list make: whoever the guard lets through without looking, and administrators. -/
theorem shown_iff_enforced (s : State) (user : User) (p : Code) (member : user ∈ s.db.users)
    (catalogued : p ∈ PERMISSION_CATALOG) :
    (user.signedIn.passes = true → Admits s [p] user.request) ∧
    (user.signedIn.passes = false → (Admits s [p] user.request ↔ Lists s user p)) ∧
    (s.Current user → user.role.isAdmin = true → Lists s user p) ∧
    (s.Current user → user.role.isAdmin = false →
      (Lists s user p ↔ Shows s user p PermissionDetail.effective)) ∧
    (s.Current user → user.signedIn.passes = false → Shows s user p PermissionDetail.revoked →
      ¬ Admits s [p] user.request) := by
  refine ⟨admits_of_passes, admits_iff_lists, fun current admin =>
    lists_of_isAdmin member catalogued admin current, fun current ordinary =>
    lists_iff_shows member catalogued ordinary current, ?_⟩
  intro current ordinary revoked
  have notAdmin : user.role.isAdmin = false := by
    rw [UserRole.isAdmin, decide_eq_false_iff_not]
    rintro (is | is) <;> simp [RequestUser.passes, User.signedIn, is] at ordinary
  rw [admits_iff_lists ordinary, lists_iff_shows member catalogued notAdmin current,
    shows_iff member catalogued]
  exact not_effective_of_revoked ((shows_iff member catalogued).mp revoked)

end

/-! ### A school -/

namespace Desk

/-- A member of staff whose reading of attendance is revoked, an administrator and a teacher. -/
def vice : User := { id := 1, tenantId := 7, role := .staff }

def principal : User := { id := 2, tenantId := 7, role := .schoolAdmin }

def teacher : User := { id := 3, tenantId := 7, role := .teacher }

theorem staff_nodup : ([vice, principal, teacher].map (·.id)).Nodup := by decide

theorem none_held : ∀ a ∈ ([] : List UserSchoolRole),
    (Table.empty : Table SchoolRole).has (some a.schoolRoleId) = true := by simp

def db : Db where
  users := [vice, principal, teacher]
  overrides := .of
    [{ id := 1, tenantId := 7, userId := 1, permissionCode := "attendance.read", effect := .revoke,
       grantedById := 2 }]
  users_nodup := staff_nodup
  held_exists := none_held

/-- The cache holds a list of the teacher's from a time it managed roles. -/
def state : State where
  db
  cache t u := if t = 7 ∧ u = 3 then some ["lesson.read", "rbac.manage"] else none

def uncached : State := ⟨db, fun _ _ => none⟩

end Desk

/-- A revoked permission that the guard admits, a permission of an administrator that the view
does not show, and a cached one that the view does not show. -/
theorem not_shown_iff_enforced :
    (Shows Desk.state Desk.vice "attendance.read" PermissionDetail.revoked ∧
      ¬ Lists Desk.state Desk.vice "attendance.read" ∧
      Admits Desk.state ["attendance.read"] Desk.vice.request) ∧
    (Lists Desk.state Desk.principal "exam.read" ∧
      ¬ Shows Desk.state Desk.principal "exam.read" PermissionDetail.effective) ∧
    (Admits Desk.state ["rbac.manage"] Desk.teacher.request ∧
      ¬ Shows Desk.state Desk.teacher "rbac.manage" PermissionDetail.effective) := by
  decide +kernel

theorem shown_iff_enforced_teacher :
    (Admits Desk.uncached ["lesson.read"] Desk.teacher.request ↔
      Lists Desk.uncached Desk.teacher "lesson.read") ∧
    (Lists Desk.uncached Desk.teacher "lesson.read" ↔
      Shows Desk.uncached Desk.teacher "lesson.read" PermissionDetail.effective) :=
  have all := shown_iff_enforced Desk.uncached Desk.teacher "lesson.read" (by decide) (by decide)
  ⟨all.2.1 (by decide), all.2.2.2.1 nofun (by decide)⟩

end Rokad.Rbac
