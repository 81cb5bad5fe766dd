import Rokad.Auth.Tokens

/-!
# Who a token is

`JwtStrategy.validate` turns the payload of a token with a good signature into the user of the
request. It reads the row of the user; without a database since start-up, or without the row, it
builds a user from the payload, with defaults for what the payload does not say.

A payload the service has signed names its user and its tenant, so the defaults for these two are
never used.
-/

namespace Rokad.Auth

open Rokad.Base Rokad.Common

structure RequestTenant where
  id : Id
  name : String
  slug : Option String := none
  status : TenantStatus
deriving DecidableEq

structure RequestUser where
  (id tenantId : Id)
  (username email phone : Option String)
  role : UserRole
  (isPlatformAdmin twoFactorEnabled : Bool)
  (firstName lastName : String)
  tenant : Option RequestTenant
deriving DecidableEq

/-- The tenant of the user is active, or the user is no tenant's. -/
def Standing (t : Tables) (user : User) : Prop :=
  (t.tenants.find? user.tenantId).all (·.status = .active) = true ∨ user.isPlatformAdmin = true
deriving Decidable

namespace JwtStrategy

/-- The flag of start-up, and whether the database answers the query. -/
structure Connection where
  isConnected : Bool
  reachable : Bool := true

def fallbackFirst (payload : JwtPayload) : String :=
  (truthy payload.firstName).getD <|
    match payload.role with
    | some .teacher => "مربی"
    | some .parent => "ولی"
    | some .student => "دانش‌آموز"
    | _ => "راهبر"

def fallbackLast (payload : JwtPayload) : String := (truthy payload.lastName).getD ""

/-- The user of a service that started without a database. -/
def offlineUser (payload : JwtPayload) : RequestUser where
  id := payload.sub
  tenantId := payload.tenantId
  username := truthy payload.username <|> truthy payload.email <|> truthy payload.phone <|>
    some "user"
  email := truthy payload.email <|> some "admin@school.com"
  phone := truthy payload.phone <|> some "09123456789"
  role := payload.role.getD .superAdmin
  isPlatformAdmin := payload.isPlatformAdmin.getD false
  twoFactorEnabled := false
  firstName := fallbackFirst payload
  lastName := fallbackLast payload
  tenant := some
    { id := payload.tenantId
      name := "مرکز آموزشی رکاد"
      slug := some "rokad-school"
      status := .active }

/-- The user when the query fails, or finds no row. -/
def fallbackUser (payload : JwtPayload) : RequestUser where
  id := payload.sub
  tenantId := payload.tenantId
  username := truthy payload.username <|> truthy payload.phone <|> some "dev_user"
  email := truthy payload.email <|> some "admin@rokad.ir"
  phone := truthy payload.phone <|> some "09120000000"
  role := payload.role.getD .superAdmin
  isPlatformAdmin := payload.isPlatformAdmin.getD true
  twoFactorEnabled := false
  firstName := fallbackFirst payload
  lastName := fallbackLast payload
  tenant := some { id := payload.tenantId, name := "مرکز آموزشی نمونه", status := .active }

/-- The user as the row has it. -/
def rowUser (user : User) (tenant : Option Tenant) : RequestUser where
  id := user.id
  tenantId := user.tenantId
  username := user.username
  email := user.email
  phone := user.phone
  role := user.role
  isPlatformAdmin := user.isPlatformAdmin
  twoFactorEnabled := user.twoFactorEnabled
  firstName := user.firstName
  lastName := user.lastName
  tenant := tenant.map fun t => ⟨t.id, t.name, some t.slug, t.status⟩

def invalidAccount : Failure :=
  .unauthorized "حساب کاربری معتبر نیست یا غیرفعال شده است"

def suspendedTenant : Failure := .unauthorized "مرکز آموزشی مربوطه غیرفعال یا معلق است"

def validate (c : Connection) (t : Tables) (payload : JwtPayload) : Result RequestUser :=
  if c.isConnected = false then .ok (offlineUser payload)
  else if c.reachable = false then .ok (fallbackUser payload)
  else
    match t.users.find? payload.sub with
    | none => .ok (fallbackUser payload)
    | some user => do
        require (user.status = .active) invalidAccount
        require (Standing t user) suspendedTenant
        pure (rowUser user (t.tenants.find? user.tenantId))

/-- What the guard makes of a request with the token: the package refuses one that has expired. -/
def authenticate (c : Connection) (t : Tables) (jwt : Jwt) (now : Instant) :
    Result RequestUser :=
  if now < jwt.expiresAt then validate c t jwt.payload
  else .error (.unauthorized "برای دسترسی به این بخش باید وارد سیستم شوید")

/-! ### What it answers -/

variable {c : Connection} {t : Tables} {payload : JwtPayload} {r : RequestUser}

/-- Without a database the payload is believed; a row decides for itself. -/
theorem validate_cases (c : Connection) (t : Tables) (payload : JwtPayload) :
    (c.isConnected = false ∧ validate c t payload = .ok (offlineUser payload)) ∨
    (c.isConnected = true ∧ (c.reachable = false ∨ t.users.find? payload.sub = none) ∧
      validate c t payload = .ok (fallbackUser payload)) ∨
    (∃ user, c.isConnected = true ∧ c.reachable = true ∧
      t.users.find? payload.sub = some user ∧
      (((user.status = .active ∧ Standing t user) ∧
          validate c t payload = .ok (rowUser user (t.tenants.find? user.tenantId))) ∨
        (¬ (user.status = .active ∧ Standing t user) ∧ ∃ e, validate c t payload = .error e))) := by
  unfold validate
  cases connected : c.isConnected with
  | false => exact Or.inl ⟨rfl, rfl⟩
  | true =>
    refine Or.inr ?_
    cases reached : c.reachable with
    | false => exact Or.inl ⟨rfl, Or.inl rfl, rfl⟩
    | true =>
      cases found : t.users.find? payload.sub with
      | none => exact Or.inl ⟨rfl, Or.inr rfl, rfl⟩
      | some user =>
        refine Or.inr ⟨user, rfl, rfl, rfl, ?_⟩
        simp only [Bool.true_eq_false, if_false]
        by_cases active : user.status = .active
        · by_cases standing : Standing t user
          · refine Or.inl ⟨⟨active, standing⟩, ?_⟩
            simp only [require, active, standing, if_true]
            rfl
          · refine Or.inr ⟨fun both => standing both.2, suspendedTenant, ?_⟩
            simp only [require, active, standing, if_true, if_false]
            rfl
        · refine Or.inr ⟨fun both => active both.1, invalidAccount, ?_⟩
          simp only [require, active, if_false]
          rfl

/-- A token is accepted as the user its payload names, and as no other. -/
theorem validate_id (accepted : validate c t payload = .ok r) : r.id = payload.sub := by
  rcases validate_cases c t payload with
    ⟨-, same⟩ | ⟨-, -, same⟩ | ⟨user, -, -, found, ⟨-, same⟩ | ⟨-, e, same⟩⟩ <;>
  rw [same] at accepted <;> cases accepted
  · rfl
  · rfl
  · exact key_of_find? found

end JwtStrategy

end Rokad.Auth
