import Rokad.Auth.JwtStrategy

/-!
# The tenant of a request

A client names a tenant in a header, in the query or by the host; `TenantMiddleware` looks it up and
leaves it on the request. The user of the request has a tenant of its own. `CurrentTenant` prefers
that of the user.

The database answers. A `tenant` parameter that is repeated is a list, on which the middleware throws
before any guard is asked; here the parameter is text.
-/

namespace Rokad.Access

open Rokad.Base Rokad.Common
open Rokad.Auth (Tenant RequestTenant RequestUser)

/-! ### What the client names -/

/-- `x-tenant-id`, `x-tenant-slug`, `?tenant=` and `Host`. -/
structure Naming where
  (headerId headerSlug queryTenant host : Option String := none)

inductive IdentifierType where
  | id | slug | subdomain | domain
deriving DecidableEq

structure TenantIdentifier where
  type : IdentifierType
  value : String
deriving DecidableEq

/-- What is given and not blank, trimmed. -/
def named (text : Option String) : Option String := truthy (text.map trim)

/-- The part of the text before the first such character. -/
def before (c : Char) (s : String) : String := String.ofList (s.toList.takeWhile (· ≠ c))

def hostIdentifier (host : Option String) : Option TenantIdentifier :=
  let hostname := before ':' (host.getD "")
  if hostname = "localhost" ∨ hostname = "127.0.0.1" ∨
      ".internal".toList.isSuffixOf hostname.toList then none
  else if 3 ≤ (hostname.toList.splitOn '.').length then
    let subdomain := before '.' hostname
    if subdomain ∈ ["www", "api", "app", "platform"] then none else some ⟨.subdomain, subdomain⟩
  else some ⟨.domain, hostname⟩

def extractTenantIdentifier (req : Naming) : Option TenantIdentifier :=
  (named req.headerId).map (⟨.id, ·⟩) <|> (named req.headerSlug).map (⟨.slug, ·⟩) <|>
    (named req.queryTenant).map (⟨.slug, ·⟩) <|> hostIdentifier req.host

/-! ### The tenant that is found -/

def findTenant (tenants : Table Tenant) (identifier : TenantIdentifier) : Option Tenant :=
  match identifier.type with
  | .id => tenants.rows.find? fun t => toString t.id = identifier.value
  | .slug => tenants.rows.find? fun t => t.slug = identifier.value
  | .subdomain => tenants.rows.find? fun t =>
    t.subdomain = some identifier.value ∨ t.slug = identifier.value
  | .domain => tenants.rows.find? fun t => t.customDomain = some identifier.value

/-- A cache of tenants. A tenant it holds is the one the table has. -/
structure TenantCache (tenants : Table Tenant) where
  get : TenantIdentifier → Option Tenant
  correct : ∀ identifier tenant, get identifier = some tenant →
    findTenant tenants identifier = some tenant

section

variable {tenants : Table Tenant} (cache : TenantCache tenants)

def TenantCache.set {identifier : TenantIdentifier} {tenant : Tenant}
    (found : findTenant tenants identifier = some tenant) : TenantCache tenants where
  get i := if i = identifier then some tenant else cache.get i
  correct i other is := by
    split at is
    · rename_i same
      cases is
      rw [same]
      exact found
    · exact cache.correct i other is

def resolveTenant (identifier : TenantIdentifier) : TenantCache tenants × Option Tenant :=
  match cache.get identifier with
  | some tenant => (cache, some tenant)
  | none =>
    match found : findTenant tenants identifier with
    | some tenant => (cache.set found, some tenant)
    | none => (cache, none)

/-- `use`: the tenant that is left on the request. -/
def useTenant (req : Naming) : TenantCache tenants × Option Tenant :=
  match extractTenantIdentifier req with
  | some identifier => resolveTenant cache identifier
  | none => (cache, none)

/-- What a request names, whatever is cached. -/
def namedTenant (tenants : Table Tenant) (req : Naming) : Option Tenant :=
  (extractTenantIdentifier req).bind (findTenant tenants)

theorem useTenant_eq (req : Naming) : (useTenant cache req).2 = namedTenant tenants req := by
  unfold useTenant namedTenant
  cases extractTenantIdentifier req with
  | none => rfl
  | some identifier =>
    dsimp only [Option.bind_some]
    unfold resolveTenant
    split
    · rename_i tenant cached
      exact (cache.correct identifier tenant cached).symm
    · split <;> rename_i found <;> exact found.symm

end

/-! ### The tenant a handler gets -/

/-- The tenant of the user, its id alone, or the one that was named. -/
inductive HandlerTenant where
  | ofUser (tenant : RequestTenant)
  | idOnly (id : Id)
  | named (tenant : Tenant)

def HandlerTenant.id : HandlerTenant → Id
  | .ofUser tenant => tenant.id
  | .idOnly id => id
  | .named tenant => tenant.id

/-- `CurrentTenant` -/
def currentTenant (user : Option RequestUser) (tenant : Option Tenant) : Option HandlerTenant :=
  match user with
  | some user => some ((user.tenant.map .ofUser).getD (.idOnly user.tenantId))
  | none => tenant.map .named

end Rokad.Access
