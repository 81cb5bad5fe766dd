import Rokad.Auth.Statement

/-!
# Feature flags

A module of the platform is behind a flag, which has a default and may be overridden for a tenant.
`FeatureFlagGuard` asks for the tenant the request names.
-/

namespace Rokad.Access

open Rokad.Base
open Rokad.Common (Id Failure Result)

structure FeatureFlag where
  id : Id
  key : String
  defaultEnabled : Bool := false
deriving DecidableEq

structure TenantFeatureFlag where
  (id tenantId featureFlagId : Id)
  isEnabled : Bool
deriving DecidableEq

instance : Record FeatureFlag where
  key f := f.id
  clash a b := a.key == b.key

instance : Record TenantFeatureFlag where
  key o := o.id
  clash a b := a.tenantId == b.tenantId && a.featureFlagId == b.featureFlagId

structure FeatureTables where
  flags : Table FeatureFlag := .empty
  overrides : Table TenantFeatureFlag := .empty

namespace FeatureTables

variable (t : FeatureTables)

/-- The override of the tenant, or the default. -/
def value (flag : FeatureFlag) (tenantId : Id) : Bool :=
  ((t.overrides.rows.find? fun o => o.tenantId = tenantId ∧ o.featureFlagId = flag.id).map
    (·.isEnabled)).getD flag.defaultEnabled

/-- A flag that is not defined is off. -/
def enabled (flagKey : String) (tenantId : Id) : Bool :=
  match t.flags.rows.find? fun f => f.key = flagKey with
  | some flag => t.value flag tenantId
  | none => false

/-- The keys of two flags differ. -/
theorem find?_flag {flag : FeatureFlag} (mem : flag ∈ t.flags.rows) :
    (t.flags.rows.find? fun f => f.key = flag.key) = some flag := by
  cases found : t.flags.rows.find? fun f => f.key = flag.key with
  | none =>
    have missed := List.find?_eq_none.mp found flag mem
    simp at missed
  | some first =>
    have same : first.key = flag.key := by simpa using List.find?_some found
    by_contra differ
    have apart := t.flags.no_clash first (List.mem_of_find?_eq_some found) flag mem fun keys =>
      differ (congrArg some (t.flags.eq_of_key_eq (List.mem_of_find?_eq_some found) mem keys))
    simp [Record.clash, same] at apart

end FeatureTables

/-- A cache of flags. What it holds reads as the tables have it. -/
structure FlagCache (t : FeatureTables) where
  get : Id → String → Option String
  correct : ∀ tenantId flagKey cached, get tenantId flagKey = some cached →
    decide (cached = "true") = t.enabled flagKey tenantId

variable {t : FeatureTables} (cache : FlagCache t)

def FlagCache.set (flagKey : String) (tenantId : Id) : FlagCache t where
  get i k := if i = tenantId ∧ k = flagKey then
    some (if t.enabled flagKey tenantId then "true" else "false") else cache.get i k
  correct i k cached is := by
    split at is
    · rename_i same
      obtain ⟨rfl, rfl⟩ := same
      cases is
      cases t.enabled k i <;> decide
    · exact cache.correct i k cached is

def isEnabled (flagKey : String) (tenantId : Id) : FlagCache t × Bool :=
  match cache.get tenantId flagKey with
  | some cached => (cache, cached = "true")
  | none => (cache.set flagKey tenantId, t.enabled flagKey tenantId)

theorem isEnabled_eq (flagKey : String) (tenantId : Id) :
    (isEnabled cache flagKey tenantId).2 = t.enabled flagKey tenantId := by
  unfold isEnabled
  split
  · rename_i cached is
    exact cache.correct tenantId flagKey cached is
  · rfl

/-- `FeatureFlagGuard.canActivate` -/
def checkFeature (requiredFeature : Option String) (tenantId : Option Id) (isPlatformAdmin : Bool) :
    FlagCache t × Result Bool :=
  match truthy requiredFeature with
  | none => (cache, .ok true)
  | some feature =>
    match tenantId with
    | none => (cache,
        if isPlatformAdmin then .ok true
        else .error (.forbidden "کانتکست تننت برای بررسی ماژول یافت نشد"))
    | some tenantId =>
      let (cache, enabled) := isEnabled cache feature tenantId
      (cache,
        if enabled then .ok true
        else .error (.forbidden
          ("ماژول '" ++ feature ++ "' برای این مرکز آموزشی فعال نشده است")))

/-- Without a tenant nothing is on. -/
theorem checkFeature_eq_ok_iff {requiredFeature : Option String} {tenantId : Option Id} :
    (checkFeature cache requiredFeature tenantId false).2 = .ok true ↔
      ∀ feature, truthy requiredFeature = some feature →
        tenantId.any (t.enabled feature) = true := by
  unfold checkFeature
  cases truthy requiredFeature with
  | none => simp
  | some feature =>
    cases tenantId with
    | none => simp
    | some tenantId =>
      have enabled := isEnabled_eq cache feature tenantId
      cases on : t.enabled feature tenantId <;> simp [enabled, on]

end Rokad.Access
