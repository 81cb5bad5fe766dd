import Rokad.Access.FeatureFlags
import Rokad.Access.RequestTenant
import Rokad.Rbac.InProgress

/-!
# The tenant a client names

A request carries two tenants: the one its client names and the one of its user. `CurrentTenant`
takes the user's, the two guards take the one that is named. So the same user asks the same thing
and is answered by what it wrote into a header.

`decided_alike_iff` says for which two requests that makes no difference.
-/

namespace Rokad.Access

open Rokad.Base Rokad.Auth
open Rokad.Common (Id)
open Rokad.Rbac (Code SameCodes)

/-! ### The platform -/

/-- The user as the role module reads the row. -/
def roleUser (user : User) : Rbac.User where
  id := user.id
  tenantId := user.tenantId
  firstName := user.firstName
  lastName := user.lastName
  role := user.role
  isPlatformAdmin := user.isPlatformAdmin

/-- The accounts, the roles and the flags, with what is cached of them. -/
structure Platform where
  accounts : Db
  roles : Rbac.State
  features : FeatureTables := {}
  tenantCache : TenantCache accounts.tenants
  flagCache : FlagCache features
  users : roles.db.users = accounts.users.rows.map roleUser
  coherent : roles.Coherent

namespace Platform

variable (P : Platform)

/-- The user is that of a token. -/
def Authenticated (u : RequestUser) : Prop :=
  ∃ c payload, JwtStrategy.validate c P.accounts.toTables payload = .ok u

/-- The tenant the middleware leaves on the request. -/
def tenant (req : Naming) : Option Tenant := (useTenant P.tenantCache req).2

def guardRequest (u : RequestUser) (req : Naming) : Rbac.GuardRequest where
  user := some ⟨u.id, some u.tenantId, u.role, u.isPlatformAdmin⟩
  tenantId := (P.tenant req).map (·.id)

/-- `PermissionsGuard` lets the request through. -/
def Permits (u : RequestUser) (req : Naming) (required : Option (List Code)) : Prop :=
  ((Rbac.canActivate required (P.guardRequest u req)).run Rbac.exec P.roles).2 = .ok true

/-- `FeatureFlagGuard` lets the request through. -/
def Offers (u : RequestUser) (req : Naming) (required : Option String) : Prop :=
  (checkFeature P.flagCache required ((P.tenant req).map (·.id)) u.isPlatformAdmin).2 = .ok true

/-- The guards decide the two requests alike, and a handler gets the tenant of the user. -/
structure DecidedAlike (u : RequestUser) (r r' : Naming) : Prop where
  permissions : ∀ required, P.Permits u r required ↔ P.Permits u r' required
  features : ∀ required, P.Offers u r required ↔ P.Offers u r' required
  own : ∃ handlerTenant, handlerTenant.id = u.tenantId ∧
    currentTenant (some u) (P.tenant r) = some handlerTenant ∧
    currentTenant (some u) (P.tenant r') = some handlerTenant

/-! ### When the name makes no difference -/

/-- The tenant `PermissionsGuard` looks in: the one named, or else that of the user. -/
def asked (u : RequestUser) (req : Naming) : Id :=
  ((namedTenant P.accounts.tenants req).map (·.id)).getD u.tenantId

/-- `PermissionsGuard` does not look at permissions at all. -/
def Bypasses (u : RequestUser) : Prop :=
  u.role = .superAdmin ∨ u.role = .schoolAdmin ∨ u.role = .staff

/-- The value of a flag for the tenant that is named; without one it is off. -/
def flagFor (req : Naming) (flag : FeatureFlag) : Bool :=
  (namedTenant P.accounts.tenants req).any fun tenant => P.features.value flag tenant.id

/-- The user's permissions are looked up in one tenant, or not at all, or there are none in either;
and every flag is on for both names or off for both. -/
structure NamedAlike (u : RequestUser) (r r' : Naming) : Prop where
  permissions : Bypasses u ∨ P.asked u r = P.asked u r' ∨
    P.roles.db.permissionsOf (P.asked u r) u.id = [] ∧
      P.roles.db.permissionsOf (P.asked u r') u.id = []
  features : ∀ flag ∈ P.features.flags.rows, flag.key ≠ "" → P.flagFor r flag = P.flagFor r' flag

variable {P} {u : RequestUser} {r r' : Naming}

theorem tenant_eq (req : Naming) : P.tenant req = namedTenant P.accounts.tenants req :=
  useTenant_eq P.tenantCache req

/-- A user has permissions in its own tenant at most. -/
theorem permissionsOf_eq_nil (db : Rbac.Db) {t t' : Id} (differ : t ≠ t') (userId : Id) :
    db.permissionsOf t userId = [] ∨ db.permissionsOf t' userId = [] := by
  unfold Rbac.Db.permissionsOf Rbac.Db.findAccess Rbac.Db.findUser
  cases found : db.users.find? fun u => u.id = userId ∧ u.tenantId = t with
  | none => exact Or.inl rfl
  | some a =>
    cases found' : db.users.find? fun u => u.id = userId ∧ u.tenantId = t' with
    | none => exact Or.inr rfl
    | some b =>
      have isA := List.find?_some found
      have isB := List.find?_some found'
      simp only [decide_eq_true_eq] at isA isB
      have same : a = b := List.inj_on_of_nodup_map db.users_nodup
        (List.mem_of_find?_eq_some found) (List.mem_of_find?_eq_some found')
        (isA.1.trans isB.1.symm)
      exact absurd (isA.2.symm.trans (same ▸ isB.2)) differ

/-- Whose permissions are looked up gets what the list of the tenant has. -/
theorem permits_iff (ordinary : ¬ Bypasses u) (notPlatform : u.isPlatformAdmin = false)
    {required : Option (List Code)} : P.Permits u r required ↔
      ∀ perm ∈ required.getD [], perm ∈ P.roles.db.permissionsOf (P.asked u r) u.id := by
  have looked : (⟨u.id, some u.tenantId, u.role, u.isPlatformAdmin⟩ : Rbac.RequestUser).passes =
      false := by
    simpa [Rbac.RequestUser.passes, notPlatform, Bypasses] using ordinary
  have listed : ∀ perm, perm ∈ P.roles.listed (P.asked u r) u.id ↔
      perm ∈ P.roles.db.permissionsOf (P.asked u r) u.id := by
    intro perm
    unfold Rbac.State.listed
    cases cached : P.roles.cache (P.asked u r) u.id with
    | none => rfl
    | some codes => exact Rbac.sameCodes_iff.mp (P.coherent _ _ codes cached) perm
  have tenantId : ((P.tenant r).map (·.id) <|> some u.tenantId) = some (P.asked u r) := by
    rw [tenant_eq, asked]
    cases namedTenant P.accounts.tenants r <;> rfl
  unfold Permits Rbac.canActivate guardRequest
  rcases required with _ | _ | ⟨first, rest⟩
  · simp
  · simp
  · simp only [looked, tenantId, Bool.false_eq_true, if_false, Option.getD_some, Prog.run_bind,
      Rbac.run_getUserPermissions, ← listed]
    by_cases all : ∀ perm ∈ first :: rest, perm ∈ P.roles.listed (P.asked u r) u.id
    · simp only [Rbac.demand, require, if_pos all]
      exact iff_of_true rfl all
    · simp only [Rbac.demand, require, if_neg all]
      exact iff_of_false (by simp) all

/-- Who bypasses the list is let through. -/
theorem permits_of_bypasses (bypasses : Bypasses u) (required : Option (List Code)) :
    P.Permits u r required := by
  have passes : (⟨u.id, some u.tenantId, u.role, u.isPlatformAdmin⟩ : Rbac.RequestUser).passes =
      true := by
    unfold Bypasses at bypasses
    simp [Rbac.RequestUser.passes, bypasses]
  unfold Permits Rbac.canActivate guardRequest
  rcases required with _ | _ | ⟨first, rest⟩
  · rfl
  · rfl
  · simp [passes]

theorem permits_alike_iff (notPlatform : u.isPlatformAdmin = false) :
    (∀ required, P.Permits u r required ↔ P.Permits u r' required) ↔
      Bypasses u ∨ P.asked u r = P.asked u r' ∨ P.roles.db.permissionsOf (P.asked u r) u.id = [] ∧
          P.roles.db.permissionsOf (P.asked u r') u.id = [] := by
  by_cases bypasses : Bypasses u
  · exact iff_of_true (fun required => iff_of_true (permits_of_bypasses bypasses required)
      (permits_of_bypasses bypasses required)) (Or.inl bypasses)
  · simp only [permits_iff bypasses notPlatform, bypasses, false_or]
    constructor
    · intro alike
      refine or_iff_not_imp_left.mpr fun differ => ?_
      -- a single code that is required tells the lists apart
      have same : ∀ perm, perm ∈ P.roles.db.permissionsOf (P.asked u r) u.id ↔
          perm ∈ P.roles.db.permissionsOf (P.asked u r') u.id := fun perm => by
        simpa using alike (some [perm])
      rcases permissionsOf_eq_nil P.roles.db differ u.id with none | none
      · refine ⟨none, List.eq_nil_iff_forall_not_mem.mpr fun perm mem => ?_⟩
        rw [← same, none] at mem
        exact List.not_mem_nil mem
      · refine ⟨List.eq_nil_iff_forall_not_mem.mpr fun perm mem => ?_, none⟩
        rw [same, none] at mem
        exact List.not_mem_nil mem
    · rintro (same | ⟨none, none'⟩) required
      · rw [same]
      · rw [none, none']

theorem offers_iff (notPlatform : u.isPlatformAdmin = false) {required : Option String} :
    P.Offers u r required ↔ ∀ feature, truthy required = some feature →
      (namedTenant P.accounts.tenants r).any (fun tenant => P.features.enabled feature tenant.id) =
        true := by
  unfold Offers
  rw [notPlatform, checkFeature_eq_ok_iff, tenant_eq]
  cases namedTenant P.accounts.tenants r <;> rfl

/-- A flag that is defined is on for who is named, or off; one that is not is off. -/
theorem offered_eq (req : Naming) (feature : String) :
    (namedTenant P.accounts.tenants req).any (fun tenant => P.features.enabled feature tenant.id) =
      ((P.features.flags.rows.find? fun f => f.key = feature).any (P.flagFor req)) := by
  unfold FeatureTables.enabled
  cases P.features.flags.rows.find? fun f => f.key = feature with
  | none => cases namedTenant P.accounts.tenants req <;> rfl
  | some flag => rfl

theorem offers_alike_iff (notPlatform : u.isPlatformAdmin = false) :
    (∀ required, P.Offers u r required ↔ P.Offers u r' required) ↔
      ∀ flag ∈ P.features.flags.rows, flag.key ≠ "" → P.flagFor r flag = P.flagFor r' flag := by
  simp only [offers_iff notPlatform, offered_eq]
  constructor
  · intro alike flag mem keyed
    have only : ∀ feature, truthy (some flag.key) = some feature ↔ feature = flag.key := by
      intro feature
      rw [truthy_eq_some_iff, Option.some.injEq]
      exact ⟨(·.1.symm), fun same => ⟨same.symm, same ▸ keyed⟩⟩
    have one := alike (some flag.key)
    simp only [only, forall_eq, P.features.find?_flag mem, Option.any_some] at one
    exact Bool.eq_iff_iff.mpr one
  · intro same required
    refine forall_congr' fun feature => imp_congr_right fun isRequired => ?_
    have keyed := (truthy_eq_some_iff.mp isRequired).2
    cases found : P.features.flags.rows.find? fun f => f.key = feature with
    | none => rfl
    | some flag =>
      have isKey : flag.key = feature := by simpa using List.find?_some found
      rw [Option.any_some, Option.any_some,
        same flag (List.mem_of_find?_eq_some found) (isKey ▸ keyed)]

/-- A handler gets the tenant of the user, whatever is named. -/
theorem own_of_authenticated (authenticated : P.Authenticated u) :
    ∃ handlerTenant : HandlerTenant, handlerTenant.id = u.tenantId ∧
      ∀ req, currentTenant (some u) (P.tenant req) = some handlerTenant := by
  refine ⟨_, ?_, fun req => rfl⟩
  obtain ⟨c, payload, accepted⟩ := authenticated
  rcases JwtStrategy.validate_cases c P.accounts.toTables payload with
    ⟨-, same⟩ | ⟨-, -, same⟩ | ⟨user, -, -, found, ⟨-, same⟩ | ⟨-, e, same⟩⟩ <;>
  rw [same] at accepted <;> cases accepted
  · rfl
  · rfl
  · obtain ⟨tenant, foundTenant⟩ := has_some_iff.mp
      (P.accounts.foreignKeys.user_tenant user (mem_of_find? found))
    simp only [JwtStrategy.rowUser, foundTenant, Option.map_some, Option.getD_some]
    exact key_of_find? foundTenant

end Platform

/-- **The tenant a client names decides.** Two requests of a user who is no platform administrator
are decided alike exactly if its permissions are looked up in one tenant, or not at all, or there
are none, and every flag has one value for both names. The tenant a handler gets is the user's. -/
theorem decided_alike_iff (P : Platform) {u : RequestUser} (authenticated : P.Authenticated u)
    (notPlatform : u.isPlatformAdmin = false) (r r' : Naming) :
    P.DecidedAlike u r r' ↔ P.NamedAlike u r r' := by
  constructor
  · intro alike
    exact ⟨(Platform.permits_alike_iff notPlatform).mp alike.permissions,
      (Platform.offers_alike_iff notPlatform).mp alike.features⟩
  · intro named
    obtain ⟨handlerTenant, isOwn, gets⟩ := Platform.own_of_authenticated authenticated
    exact ⟨(Platform.permits_alike_iff notPlatform).mpr named.permissions,
      (Platform.offers_alike_iff notPlatform).mpr named.features,
      handlerTenant, isOwn, gets r, gets r'⟩

namespace Desk

def boys : Tenant := { id := 7, name := "هنرستان رکاد", slug := "rokad-boys" }

def girls : Tenant := { id := 8, name := "هنرستان رکاد", slug := "rokad-girls" }

def teacher : User :=
  { id := 3, tenantId := 7, phone := some "09121234567", passwordHash := "hash of pass-3",
    firstName := "امید", lastName := "راد", role := .teacher }

def accounts : Db where
  tenants := ⟨[boys, girls], by decide +kernel, by decide +kernel⟩
  users := ⟨[teacher], by decide +kernel, by decide +kernel⟩
  foreignKeys := by constructor <;> decide +kernel

def roles : Rbac.State where
  db :=
    { users := [roleUser teacher]
      users_nodup := by decide
      held_exists := Rbac.Desk.none_held }
  cache _ _ := none

/-- Payroll is a module of the girls' school. -/
def features : FeatureTables where
  flags := ⟨[{ id := 1, key := "payroll" }], by decide, by decide⟩
  overrides := ⟨[{ id := 1, tenantId := 8, featureFlagId := 1, isEnabled := true }], by decide,
    by decide⟩

/-- Nothing is cached. -/
def platform : Platform where
  accounts
  roles
  features
  tenantCache := ⟨fun _ => none, nofun⟩
  flagCache := ⟨fun _ _ => none, nofun⟩
  users := rfl
  coherent := nofun

def signedIn : RequestUser := JwtStrategy.rowUser teacher (some boys)

theorem signedIn_authenticated : platform.Authenticated signedIn :=
  ⟨⟨true, true⟩, { sub := 3, tenantId := 7 }, by decide +kernel⟩

end Desk

/-- A header that names the user's own school, and the host of that school. -/
theorem decided_alike_own : Desk.platform.DecidedAlike Desk.signedIn
    { headerSlug := some "rokad-boys" } { host := some "rokad-boys.rokadschool.ir:443" } :=
  (decided_alike_iff Desk.platform Desk.signedIn_authenticated rfl _ _).mpr
    ⟨Or.inr (Or.inl (by decide +kernel)), by decide +kernel⟩

/-- With the other school in a header the teacher loses a permission of its own and gets a module
that its own school does not have. -/
theorem not_decided_alike :
    Desk.platform.Authenticated Desk.signedIn ∧ Desk.signedIn.isPlatformAdmin = false ∧
    Desk.platform.Permits Desk.signedIn { headerSlug := some "rokad-boys" }
      (some ["lesson.read"]) ∧
    ¬ Desk.platform.Permits Desk.signedIn { headerSlug := some "rokad-girls" }
      (some ["lesson.read"]) ∧
    ¬ Desk.platform.Offers Desk.signedIn { headerSlug := some "rokad-boys" } (some "payroll") ∧
    Desk.platform.Offers Desk.signedIn { headerSlug := some "rokad-girls" } (some "payroll") := by
  refine ⟨Desk.signedIn_authenticated, rfl, ?_, ?_, ?_, ?_⟩
  · unfold Platform.Permits
    decide +kernel
  · unfold Platform.Permits
    decide +kernel
  · unfold Platform.Offers
    decide +kernel
  · unfold Platform.Offers
    decide +kernel

end Rokad.Access
