import Rokad.Access.FeatureFlags
import Rokad.Base.Expiring
import Rokad.Saas.InForce

/-!
# The service of feature flags

Flags, their overrides for a tenant, and the plans that switch flags on. `isEnabled` keeps its
answer in Redis, which is in reach; `getTenantFlags` reads the tables. A call takes place at one
instant.
-/

namespace Rokad.FeatureFlags

open Rokad.Base Rokad.Common
open Rokad.Access (FeatureFlag TenantFeatureFlag FeatureTables)
open Rokad.Saas (Platform Tenant TenantSubscription AssignSubscriptionDto Assignment activeOf)

/-! ### Tables -/

structure State extends Platform where
  subscriptions : Table TenantSubscription := .empty
  features : FeatureTables := {}
  redis : Expiring String String := .empty
  /-- Milliseconds. -/
  now : ℕ := 0

def State.wait (elapsed : ℕ) (s : State) : State := { s with now := s.now + elapsed }

/-- `findUnique` by the key -/
def flagOf (features : FeatureTables) (flagKey : String) : Option FeatureFlag :=
  features.flags.rows.find? (·.key = flagKey)

/-- `findUnique` by the tenant and the flag -/
def overrideOf (features : FeatureTables) (tenantId featureFlagId : Id) :
    Option TenantFeatureFlag :=
  features.overrides.rows.find? fun o => o.tenantId = tenantId ∧ o.featureFlagId = featureFlagId

/-! ### Asking -/

def cacheKeyOf (tenantId : Option Id) (flagKey : String) : String :=
  "ff:" ++ (tenantId.map toString).getD "global" ++ ":" ++ flagKey

/-- `redisService.set` -/
def State.cache (cacheKey : String) (isEnabled : Bool) (ttlSeconds : ℕ) (s : State) : State :=
  { s with
    redis := s.redis.set cacheKey
      ⟨if isEnabled then "true" else "false", some (s.now + 1000 * ttlSeconds)⟩ }

def isEnabled (flagKey : String) (tenantId : Option Id) (s : State) : State × Bool :=
  let cacheKey := cacheKeyOf tenantId flagKey
  match s.redis.get s.now cacheKey with
  | some cached => (s, cached.value = "true")
  | none =>
    match flagOf s.features flagKey with
    | none => (s.cache cacheKey false 300, false)
    | some featureFlag =>
      let override := tenantId.bind (overrideOf s.features · featureFlag.id)
      let isEnabled := (override.map (·.isEnabled)).getD featureFlag.defaultEnabled
      (s.cache cacheKey isEnabled 600, isEnabled)

structure TenantFlag where
  id : Id
  key : String
  (defaultEnabled isEnabled hasOverride : Bool)

/-- Of overrides for one flag the last one counts. -/
def getTenantFlags (tenantId : Id) (s : State) : List TenantFlag :=
  let overrides := s.features.overrides.rows.filter (·.tenantId = tenantId)
  s.features.flags.rows.map fun flag =>
    let override := overrides.reverse.find? (·.featureFlagId = flag.id)
    { id := flag.id, key := flag.key, defaultEnabled := flag.defaultEnabled
      isEnabled := (override.map (·.isEnabled)).getD flag.defaultEnabled
      hasOverride := override.isSome }

/-! ### Changing -/

def setDefault (defaultEnabled : Bool) (f : FeatureFlag) : FeatureFlag := { f with defaultEnabled }

def setEnabled (isEnabled : Bool) (o : TenantFeatureFlag) : TenantFeatureFlag :=
  { o with isEnabled }

theorem key_setDefault (defaultEnabled : Bool) (f : FeatureFlag) :
    Record.key (setDefault defaultEnabled f) = Record.key f := rfl

theorem key_setEnabled (isEnabled : Bool) (o : TenantFeatureFlag) :
    Record.key (setEnabled isEnabled o) = Record.key o := rfl

def registerFlag (key : String) (defaultEnabled : Option Bool) (features : FeatureTables) :
    Result FeatureTables :=
  let defaultEnabled := defaultEnabled.getD false
  match flagOf features key with
  | some flag => do
      let flags ← updateRow features.flags flag.id (setDefault defaultEnabled)
        (key_setDefault defaultEnabled)
      return { features with flags }
  | none => do
      let flags ← insertRow features.flags { id := features.flags.fresh, key, defaultEnabled }
      return { features with flags }

/-- `tenantFeatureFlag.upsert` -/
def upsertOverride (tenants : Table Tenant) (tenantId : Id) (flag : FeatureFlag)
    (isEnabled : Bool) (features : FeatureTables) : Result FeatureTables :=
  match overrideOf features tenantId flag.id with
  | some override => do
      let overrides ← updateRow features.overrides override.id (setEnabled isEnabled)
        (key_setEnabled isEnabled)
      return { features with overrides }
  | none => do
      referred tenants (some tenantId)
      referred features.flags (some flag.id)
      let overrides ← insertRow features.overrides
        { id := features.overrides.fresh, tenantId, featureFlagId := flag.id, isEnabled }
      return { features with overrides }

def setTenantFlag (tenantId : Id) (flagKey : String) (isEnabled : Bool) (s : State) :
    Result State := do
  let featureFlag ← orFail (flagOf s.features flagKey)
    (.notFound ("قابلیت '" ++ flagKey ++ "' در سیستم تعریف نشده است"))
  let features ← upsertOverride s.tenants tenantId featureFlag isEnabled s.features
  return { s with features, redis := s.redis.del (cacheKeyOf (some tenantId) flagKey) }

/-! ### Subscriptions -/

/-- One flag of a plan, if there is such a flag. -/
def enableBundled (tenants : Table Tenant) (tenantId : Id) (features : FeatureTables)
    (flagKey : String) : Result FeatureTables :=
  match flagOf features flagKey with
  | some flag => upsertOverride tenants tenantId flag true features
  | none => .ok features

/-- Everything is stored or nothing is; `takes` is false where the database refuses the
subscription. -/
def assignSubscription (dto : AssignSubscriptionDto) (takes : Bool) (s : State) : Result State := do
  let tenant ← orFail (s.tenants.find? dto.tenantId) (.notFound "مدرسه مورد نظر یافت نشد")
  let plan ← orFail (s.getPlan dto.planIdOrCode) (.notFound "پلن اشتراک مورد نظر یافت نشد")
  require (takes = true) (.thrown "Invalid value provided")
  let a : Assignment := ⟨dto.tenantId, plan.id, addMonths s.now dto.months⟩
  let active := (activeOf s.subscriptions a.tenantId).map (·.id)
  let features ← inTurn (enableBundled s.tenants tenant.id) s.features plan.bundledFeatureFlags
  return { s with features, subscriptions := a.store s.now active s.subscriptions }

/-- The subscriptions are those that the statements of the call make, when no other call comes
between them. -/
theorem assignSubscription_alone {dto : AssignSubscriptionDto} {takes : Bool} {s s' : State}
    (done : assignSubscription dto takes s = .ok s') : ∃ n,
    let final := run (Saas.moveStep s.toPlatform fun _ : Unit => dto)
      (Saas.start s.subscriptions s.now) (List.replicate n (.thread () .go))
    final.own () = .committed ∧ final.shared.subscriptions = s'.subscriptions := by
  simp only [assignSubscription, do_eq_ok] at done
  obtain ⟨tenant, found, plan, planned, _, -, features, -, rfl⟩ := done
  exact ⟨_, @Saas.stored_alone Unit _ _ (fun _ => dto) () _ rfl rfl _ _ found planned⟩

/-! ### Calls -/

inductive Op where
  | registerFlag (key : String) (defaultEnabled : Option Bool)
  | setTenantFlag (tenantId : Id) (flagKey : String) (enabled : Bool)
  | assignSubscription (dto : AssignSubscriptionDto) (takes : Bool)
  | isEnabled (flagKey : String) (tenantId : Option Id)

/-- A call, and the time since the one before. -/
structure Call where
  op : Op
  elapsed : ℕ := 0

def Op.exec (s : State) : Op → State
  | .registerFlag key defaultEnabled =>
    match FeatureFlags.registerFlag key defaultEnabled s.features with
    | .ok features => { s with features }
    | .error _ => s
  | .setTenantFlag tenantId flagKey enabled =>
    (FeatureFlags.setTenantFlag tenantId flagKey enabled s).toOption.getD s
  | .assignSubscription dto takes =>
    (FeatureFlags.assignSubscription dto takes s).toOption.getD s
  | .isEnabled flagKey tenantId => (FeatureFlags.isEnabled flagKey tenantId s).1

def serve (s : State) (c : Call) : State := c.op.exec (s.wait c.elapsed)

end Rokad.FeatureFlags
