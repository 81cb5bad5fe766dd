import Rokad.Auth.Issue

/-!
# Switching schools

`AuthService.switchSchool` gives a user tokens for the account of another tenant that has the same
phone. No password and no second factor is asked for: the phone is the identity.
-/

namespace Rokad.Auth

open Rokad.Base Rokad.Common

structure SwitchedSchool where
  tenant : Tenant
  user : User
  tokens : TokenPair
deriving DecidableEq

def switchSchool (sha256 : String → String) (userId : Id) (targetTenantSlug : String)
    (client : Client) (rawRefreshToken : String) : AuthProg SwitchedSchool := do
  let currentUser ← query (.findUser userId)
  let phone ← orThrow (currentUser.bind fun u => truthy u.phone)
    (.badRequest "کاربر جاری فاقد شماره همراه معتبر است")
  demand (targetTenantSlug ≠ "") (.badRequest "شناسه یا اسلاگ مدرسه مقصد الزامی است")
  let targetTenant ← query (.findTenantBySlug targetTenantSlug)
  let tenant ← orThrow targetTenant (.notFound "مدرسه مقصد یافت نشد")
  let targetUser ← query (.findActiveByPhone tenant.id phone)
  let user ← orThrow targetUser
    (.forbidden "حساب کاربری فعالی برای شما در مدرسه مقصد یافت نشد")
  let tokens ← issueTokens sha256 user client rawRefreshToken
  pure { tenant, user, tokens }

namespace Tables

variable (t : Tables)

/-- The active account of the tenant with the phone. -/
def activeByPhone (tenantId : Id) (phone : String) : Option User :=
  t.users.rows.find? fun u => u.tenantId = tenantId ∧ u.phone = some phone ∧ u.status = .active

def namedTenant (slug : String) : Option Tenant :=
  if slug = "" then none else t.tenants.rows.find? fun tenant => tenant.slug = slug

/-- The account of the tenant that a switch of the user leads to. -/
def switchTarget (userId : Id) (targetTenantSlug : String) : Option (Tenant × User) := do
  let phone ← (t.users.find? userId).bind fun u => truthy u.phone
  let tenant ← t.namedTenant targetTenantSlug
  let user ← t.activeByPhone tenant.id phone
  pure (tenant, user)

end Tables

/-- A switch without a target is refused; with one it issues the tokens of the target. -/
theorem switchSchool_cases (sha256 : String → String) (s : State) (userId : Id)
    (targetTenantSlug : String) (client : Client) (rawRefreshToken : String) :
    (s.db.switchTarget userId targetTenantSlug = none ∧
      ∃ e, (switchSchool sha256 userId targetTenantSlug client rawRefreshToken).run exec s =
        (s, .error e)) ∨
    ∃ tenant user, s.db.switchTarget userId targetTenantSlug = some (tenant, user) ∧
      (switchSchool sha256 userId targetTenantSlug client rawRefreshToken).run exec s =
        (((issueTokens sha256 user client rawRefreshToken).run exec s).1,
          ((issueTokens sha256 user client rawRefreshToken).run exec s).2.map
            fun tokens => { tenant, user, tokens }) := by
  simp only [switchSchool, query, Prog.call_bind, Prog.run_step, exec, Tables.switchTarget,
    Tables.namedTenant, Tables.activeByPhone, Option.bind_eq_bind, Option.pure_def]
  cases (s.db.users.find? userId).bind fun u => truthy u.phone with
  | none => exact Or.inl ⟨rfl, _, rfl⟩
  | some phone =>
    simp only [orThrow, orFail, Prog.ret_ok_bind, Option.bind_some]
    by_cases given : targetTenantSlug = ""
    · subst given
      exact Or.inl ⟨rfl, _, rfl⟩
    · simp only [demand, require, given, not_false_eq_true, if_true, Prog.ret_ok_bind,
        Prog.run_step, exec, if_false, ne_eq]
      cases s.db.tenants.rows.find? fun tenant => tenant.slug = targetTenantSlug with
      | none => exact Or.inl ⟨rfl, _, rfl⟩
      | some tenant =>
        simp only [Prog.ret_ok_bind, Prog.run_step, exec, Option.bind_some]
        cases s.db.users.rows.find? fun u => decide
            (u.tenantId = tenant.id ∧ u.phone = some phone ∧ u.status = .active) with
        | none => exact Or.inl ⟨rfl, _, rfl⟩
        | some user =>
          refine Or.inr ⟨tenant, user, rfl, ?_⟩
          simp only [Prog.ret_ok_bind, Prog.run_bind]
          cases (issueTokens sha256 user client rawRefreshToken).run exec s with
          | mk s' result => cases result <;> rfl

/-- The target of a switch is an active account of the named tenant with the phone of the user. -/
theorem switchTarget_spec {t : Tables} {userId : Id} {slug : String} {tenant : Tenant} {v : User}
    (target : t.switchTarget userId slug = some (tenant, v)) :
    ∃ u phone, t.users.find? userId = some u ∧ truthy u.phone = some phone ∧
      tenant ∈ t.tenants.rows ∧ tenant.slug = slug ∧ v ∈ t.users.rows ∧ v.tenantId = tenant.id ∧
      v.phone = some phone ∧ v.status = .active := by
  simp only [Tables.switchTarget, Tables.namedTenant, Tables.activeByPhone, Option.bind_eq_bind,
    Option.pure_def, Option.bind_eq_some_iff] at target
  obtain ⟨phone, ⟨u, found, given⟩, tenant', named, v', matched, same⟩ := target
  simp only [Option.some.injEq, Prod.mk.injEq] at same
  obtain ⟨rfl, rfl⟩ := same
  split_ifs at named
  have spec := List.find?_some matched
  simp only [decide_eq_true_eq] at spec
  obtain ⟨inTenant, samePhone, active⟩ := spec
  exact ⟨u, phone, found, given, List.mem_of_find?_eq_some named,
    by simpa using List.find?_some named, List.mem_of_find?_eq_some matched, inTenant, samePhone,
    active⟩

end Rokad.Auth
