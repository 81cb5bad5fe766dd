import Rokad.Auth.Issue
import Rokad.Auth.JwtStrategy

/-!
# Login

`AuthService.login`: a check of the brute-force protection, a search for the accounts the
identifier names, the password tried on each of them, first within the tenant and then outside it,
and tokens for the first it fits; an account with a second factor gets a temporary token instead.

The database answers: the login without one, for development, is left out.
-/

namespace Rokad.Auth

open Rokad.Base Rokad.Common Rokad.Security

structure LoginDto where
  (identifier password : String)
  tenantSlug : Option String := none
deriving DecidableEq

/-- What a login takes from the packages and the host. -/
structure LoginHost where
  (sha256 hmac lower : String → String)
  argon2 : Argon2

inductive LoginResult where
  | requiresTwoFactor (tempToken : Jwt)
  | tokens (pair : TokenPair)
deriving DecidableEq

/-- A login as the service is called with it; Redis is in reach or not. -/
structure LoginCall where
  dto : LoginDto
  currentTenantId : Option Id := none
  client : Client
  up : Bool := true
  rawRefreshToken : String
deriving DecidableEq

/-- Five minutes. -/
def TEMP_EXPIRES_IN : Instant := 5 * 60 * 1000

def tempToken (user : User) (now : Instant) : Jwt where
  payload := { sub := user.id, tenantId := user.tenantId, requiresTwoFactor := true }
  expiresAt := now + TEMP_EXPIRES_IN

def wrongCredentials : Failure :=
  .unauthorized "اطلاعات ورود (نام کاربری یا رمز عبور) اشتباه است"

section

variable (x : LoginHost)

/-- The password fits as it is, or with its digits normalised. -/
def passwordFits (password : String) (user : User) : Bool :=
  x.argon2.verify user.passwordHash password ||
    (normalizePersianDigits password ≠ password &&
      x.argon2.verify user.passwordHash (normalizePersianDigits password))

/-- The first active candidate the password fits, those with the very user name first. -/
def authenticate (identifier password : String) (candidates : List User) : Option User :=
  let isExact := fun u : User => u.username = some (cleanIdentifier identifier)
  ((candidates.filter (isExact ·)) ++ candidates.filter fun u => !isExact u).find? fun u =>
    u.status = .active && passwordFits x password u

/-- The tenant of the request, or the one the form names. -/
def loginTenant (currentTenantId : Option Id) (tenantSlug : Option String) :
    AuthProg (Option Id) :=
  match currentTenantId, truthy tenantSlug with
  | none, some slug => do
      let tenant ← query (.findTenantBySlug slug)
      pure (tenant.map (·.id))
  | _, _ => pure currentTenantId

/-- The account that is logged in to, if there is one. -/
def findAuthenticated (tenantId : Option Id) (dto : LoginDto) : AuthProg (Option User) := do
  let candidates ← query (.findCandidates x.lower tenantId (lookup x.hmac dto.identifier))
  match authenticate x dto.identifier dto.password candidates with
  | some user => pure (some user)
  | none => do
      let others ← query (.findOtherCandidates x.lower tenantId (lookup x.hmac dto.identifier))
      pure (authenticate x dto.identifier dto.password others)

/-- What follows the password. -/
def signIn (call : LoginCall) (user : User) : AuthProg LoginResult := do
  demand (user.status = .active) (.unauthorized "حساب کاربری شما غیرفعال یا معلق شده است")
  let tenant ← query (.findTenant user.tenantId)
  demand (tenant.all (·.status = .active) ∨ user.isPlatformAdmin = true)
    (.unauthorized "مرکز آموزشی مربوطه غیرفعال یا معلق است")
  if user.twoFactorEnabled then
    pure (.requiresTwoFactor (tempToken user call.client.now))
  else do
    let _ ← query (.record x.lower ⟨call.client.now, call.up,
      .recordLoginSuccess (lockIdentifier call.dto.identifier) call.client.ipAddress⟩)
    let pair ← issueTokens x.sha256 user call.client call.rawRefreshToken
    pure (.tokens pair)

def login (call : LoginCall) : AuthProg LoginResult := do
  let check ← query (.checkLoginAllowed x.lower (lockIdentifier call.dto.identifier)
    call.client.ipAddress call.up call.client.now)
  allowed check
  let tenantId ← loginTenant call.currentTenantId call.dto.tenantSlug
  let authenticated ← findAuthenticated x tenantId call.dto
  match authenticated with
  | some user => signIn x call user
  | none => do
      let _ ← query (.record x.lower ⟨call.client.now, call.up,
        .recordFailedAttempt (lockIdentifier call.dto.identifier) call.client.ipAddress⟩)
      Prog.fail wrongCredentials

end

/-!
## One login

A login run to its end. The protection refuses it, or no account opens to its credentials and it is
counted as a failure, or an account does and its standing and second factor decide what is issued.
-/

namespace LoginCall

variable (x : LoginHost) (s : State) (call : LoginCall)

def serve : State := ((login x call).run exec s).1

def answer : Result LoginResult := ((login x call).run exec s).2

/-- What the protection says before anything else is done. -/
def check : Except TooManyRequests Unit :=
  checkLoginAllowed x.lower (lockIdentifier call.dto.identifier) call.client.ipAddress call.up
    call.client.now s.bruteForce

/-- The tenant the accounts are looked for in. -/
def tenantId : Option Id :=
  match call.currentTenantId, truthy call.dto.tenantSlug with
  | none, some slug => (s.db.tenants.rows.find? fun t => t.slug = slug).map (·.id)
  | _, _ => call.currentTenantId

/-- The identifier names the account: one of the two searches finds it. -/
def Resolves (u : User) : Prop :=
  u ∈ s.db.candidates x.lower (call.tenantId s) (lookup x.hmac call.dto.identifier) ∨
    u ∈ s.db.otherCandidates x.lower (call.tenantId s) (lookup x.hmac call.dto.identifier)
deriving Decidable

/-- The account the credentials open: the first that is active, that the identifier names and that
the password fits. -/
def opens : Option User :=
  authenticate x call.dto.identifier call.dto.password
      (s.db.candidates x.lower (call.tenantId s) (lookup x.hmac call.dto.identifier)) <|>
    authenticate x call.dto.identifier call.dto.password
      (s.db.otherCandidates x.lower (call.tenantId s) (lookup x.hmac call.dto.identifier))

/-- The state a failure leaves. -/
def recorded : State :=
  { s with bruteForce := (recordFailedAttempt x.lower (lockIdentifier call.dto.identifier)
    call.client.ipAddress call.up call.client.now s.bruteForce).1 }

/-- The state in which tokens are issued. -/
def cleared : State :=
  { s with bruteForce := (recordLoginSuccess x.lower (lockIdentifier call.dto.identifier)
    call.client.ipAddress call.up s.bruteForce) }

end LoginCall

variable {x : LoginHost} {s : State} {call : LoginCall} {u : User}

theorem mem_of_authenticate {identifier password : String} {candidates : List User}
    (found : authenticate x identifier password candidates = some u) :
    u ∈ candidates ∧ u.status = .active := by
  unfold authenticate at found
  have mem := List.mem_of_find?_eq_some found
  have fits := List.find?_some found
  simp only [Bool.and_eq_true, decide_eq_true_eq] at fits
  refine ⟨?_, fits.1⟩
  rcases List.mem_append.mp mem with exact | rest
  · exact List.mem_of_mem_filter exact
  · exact List.mem_of_mem_filter rest

/-- What the credentials open is an active account that the identifier names. -/
theorem LoginCall.opens_spec (opened : call.opens x s = some u) :
    call.Resolves x s u ∧ u ∈ s.db.users.rows ∧ u.status = .active := by
  rcases (Option.orElse_eq_some _ _ _).mp opened with first | ⟨-, second⟩
  · obtain ⟨mem, active⟩ := mem_of_authenticate first
    exact ⟨Or.inl mem, List.mem_of_mem_filter mem, active⟩
  · obtain ⟨mem, active⟩ := mem_of_authenticate second
    exact ⟨Or.inr mem, List.mem_of_mem_filter mem, active⟩

theorem loginTenant_run (s : State) (call : LoginCall) :
    (loginTenant call.currentTenantId call.dto.tenantSlug).run exec s =
      (s, .ok (call.tenantId s)) := by
  unfold loginTenant LoginCall.tenantId
  cases call.currentTenantId with
  | some id => cases truthy call.dto.tenantSlug <;> rfl
  | none => cases truthy call.dto.tenantSlug <;> rfl

theorem findAuthenticated_run (x : LoginHost) (s : State) (call : LoginCall) :
    (findAuthenticated x (call.tenantId s) call.dto).run exec s = (s, .ok (call.opens x s)) := by
  simp only [findAuthenticated, query, Prog.call_bind, Prog.run_step, exec, LoginCall.opens]
  cases authenticate x call.dto.identifier call.dto.password
      (s.db.candidates x.lower (call.tenantId s) (lookup x.hmac call.dto.identifier)) <;> rfl

/-- A login is refused by the protection, or it opens no account and is counted, or it opens one. -/
theorem login_cases (x : LoginHost) (s : State) (call : LoginCall) :
    (∃ e, call.check x s = .error e ∧
      (login x call).run exec s = (s, .error (.tooManyRequests e.message e.remainingSeconds))) ∨
    (call.check x s = .ok () ∧ call.opens x s = none ∧
      (login x call).run exec s = (call.recorded x s, .error wrongCredentials)) ∨
    (∃ u, call.check x s = .ok () ∧ call.opens x s = some u ∧
      (login x call).run exec s = (signIn x call u).run exec s) := by
  have run_eq : (login x call).run exec s = match call.check x s with
      | .error e => (s, .error (.tooManyRequests e.message e.remainingSeconds))
      | .ok _ => ((loginTenant call.currentTenantId call.dto.tenantSlug >>= fun tenantId =>
        findAuthenticated x tenantId call.dto >>= fun authenticated =>
          match authenticated with
          | some user => signIn x call user
          | none => do
              let _ ← query (.record x.lower ⟨call.client.now, call.up,
                .recordFailedAttempt (lockIdentifier call.dto.identifier)
                  call.client.ipAddress⟩)
              Prog.fail wrongCredentials).run exec s) := by
    simp only [login, query, Prog.call_bind, Prog.run_step, exec]
    change Prog.run exec (allowed (call.check x s) >>= _) s = _
    cases call.check x s <;> rfl
  rw [run_eq]
  cases checked : call.check x s with
  | error e => exact Or.inl ⟨e, rfl, rfl⟩
  | ok done =>
    refine Or.inr ?_
    simp only [Prog.run_bind, loginTenant_run, findAuthenticated_run]
    cases call.opens x s with
    | none => exact Or.inl ⟨trivial, rfl, rfl⟩
    | some user => exact Or.inr ⟨user, trivial, rfl, rfl⟩

/-- An active account of a tenant that is not active is refused; one with a second factor gets a
temporary token; every other gets its tokens. -/
theorem signIn_cases (x : LoginHost) (s : State) (call : LoginCall) (active : u.status = .active) :
    (¬ Standing s.db.toTables u ∧ (signIn x call u).run exec s =
      (s, .error (.unauthorized "مرکز آموزشی مربوطه غیرفعال یا معلق است"))) ∨
    (Standing s.db.toTables u ∧ u.twoFactorEnabled = true ∧ (signIn x call u).run exec s =
      (s, .ok (.requiresTwoFactor (tempToken u call.client.now)))) ∨
    (Standing s.db.toTables u ∧ u.twoFactorEnabled = false ∧ (signIn x call u).run exec s =
        (((issueTokens x.sha256 u call.client call.rawRefreshToken).run exec (call.cleared x s)).1,
          ((issueTokens x.sha256 u call.client call.rawRefreshToken).run exec
            (call.cleared x s)).2.map .tokens)) := by
  unfold signIn
  simp only [demand, require, active, if_true, Prog.ret_ok_bind, query, Prog.call_bind,
    Prog.run_step, exec]
  by_cases standing : Standing s.db.toTables u
  · refine Or.inr ?_
    have passes : (s.db.tenants.find? u.tenantId).all (·.status = .active) = true ∨
        u.isPlatformAdmin = true := standing
    simp only [passes, if_true, Prog.ret_ok_bind]
    cases u.twoFactorEnabled with
    | true => exact Or.inl ⟨standing, rfl, rfl⟩
    | false =>
      refine Or.inr ⟨standing, rfl, ?_⟩
      have cleared : (exec (.record x.lower ⟨call.client.now, call.up, .recordLoginSuccess
          (lockIdentifier call.dto.identifier) call.client.ipAddress⟩) s).1 =
        call.cleared x s := rfl
      simp only [Bool.false_eq_true, if_false, Prog.run_step, Prog.run_bind, cleared]
      cases (issueTokens x.sha256 u call.client call.rawRefreshToken).run exec
          (call.cleared x s) with
      | mk s' result => cases result <;> rfl
  · have fails : ¬ ((s.db.tenants.find? u.tenantId).all (·.status = .active) = true ∨
        u.isPlatformAdmin = true) := standing
    simp only [fails, if_false, Prog.ret_error_bind, Prog.run_ret]
    exact Or.inl ⟨standing, trivial⟩

/-- What follows the password does not answer as a refusal or as a failure does. -/
theorem signIn_answer (x : LoginHost) (s : State) (call : LoginCall) (active : u.status = .active) :
    ((signIn x call u).run exec s).2 ≠ .error wrongCredentials ∧ ∀ message seconds,
      ((signIn x call u).run exec s).2 ≠ .error (.tooManyRequests message seconds) := by
  rcases signIn_cases x s call active with ⟨-, same⟩ | ⟨-, -, same⟩ | ⟨-, -, same⟩ <;>
  rw [same]
  · exact ⟨by simp [wrongCredentials], by rintro message seconds ⟨⟩⟩
  · exact ⟨by rintro ⟨⟩, by rintro message seconds ⟨⟩⟩
  · cases issued : ((issueTokens x.sha256 u call.client call.rawRefreshToken).run exec
        (call.cleared x s)).2 with
    | ok pair => exact ⟨by rintro ⟨⟩, by rintro message seconds ⟨⟩⟩
    | error e =>
      obtain ⟨problem, rfl⟩ := issueTokens_error issued
      exact ⟨by simp [Except.map, wrongCredentials], by rintro message seconds ⟨⟩⟩

end Rokad.Auth
