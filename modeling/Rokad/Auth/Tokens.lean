import Rokad.Auth.Operations

/-!
# Refresh tokens

The token part of `AuthService`. A login opens a family with one token; a refresh exchanges a token
for its successor in the family, and an exchanged token that comes back revokes the family. Every
call is a program over the operations of the database: between the read of a token and its rotation
other calls can move.

The hash is the package's SHA-256, a parameter. Random tokens and the time are arguments of the
call that draws or reads them.
-/

namespace Rokad.Auth

open Rokad.Base Rokad.Common

/-! ### Access tokens -/

structure JwtPayload where
  (sub tenantId : Id)
  role : Option UserRole := none
  isPlatformAdmin : Option Bool := none
  (username email phone firstName lastName : Option String := none)
  requiresTwoFactor : Bool := false
deriving DecidableEq

/-- A token the service has signed; no one else can build one. -/
structure Jwt where
  payload : JwtPayload
  expiresAt : Instant
deriving DecidableEq

/-- `JWT_ACCESS_EXPIRES_IN`, fifteen minutes unless it is set. -/
def ACCESS_EXPIRES_IN : Instant := 15 * 60 * 1000

def REFRESH_EXPIRY : Instant := 7 * 24 * 60 * 60 * 1000

def signAccessToken (userId tenantId : Id) (role : UserRole) (isPlatformAdmin : Bool)
    (user : Option User) (now : Instant) : Jwt where
  payload :=
    { sub := userId
      tenantId
      role := some role
      isPlatformAdmin := some isPlatformAdmin
      firstName := truthy (user.map (·.firstName))
      lastName := truthy (user.map (·.lastName))
      username := truthy (user.bind (·.username))
      phone := truthy (user.bind (·.phone))
      email := truthy (user.bind (·.email)) }
  expiresAt := now + ACCESS_EXPIRES_IN

structure TokenPair where
  accessToken : Jwt
  refreshToken : String
  tokenType : String := "Bearer"
deriving DecidableEq

/-- Where a request comes from, and when. -/
structure Client where
  (ipAddress userAgent : Option String := none)
  now : ℕ
deriving DecidableEq

/-! ### The service -/

section

variable (sha256 : String → String)

def createTokenPair (user : User) (client : Client) (rawRefreshToken : String) :
    AuthProg TokenPair := do
  let accessToken := signAccessToken user.id user.tenantId user.role user.isPlatformAdmin
    (some user) client.now
  let created ← query (.createFamily user.id user.tenantId)
  let familyId ← must created
  let done ← query (.createToken familyId (sha256 rawRefreshToken) (client.now + REFRESH_EXPIRY)
    client.ipAddress client.userAgent)
  must done
  pure { accessToken, refreshToken := rawRefreshToken }

def reuseDetected : Failure := .unauthorized ("فعالیت مشکوک در سشن امنیتی شما شناسایی شد. " ++
  "تمام سشن‌های این دستگاه لغو شدند. لطفاً مجدداً لاگین کنید.")

def successor (record : TokenRecord) (client : Client) (newRawRefreshToken : String) :
    TokenPair where
  accessToken := signAccessToken record.user.id record.user.tenantId record.user.role
    record.user.isPlatformAdmin none client.now
  refreshToken := newRawRefreshToken

/-- What a refresh does with the token it has read. -/
def exchange (record : TokenRecord) (client : Client) (newRawRefreshToken : String) :
    AuthProg TokenPair := do
  demand (record.family.isRevoked = false)
    (.unauthorized "سشن منقضی یا باطل شده است. لطفاً دوباره وارد شوید")
  if record.token.isUsed then do
    let revoked ← query (.revokeFamily record.family.id "TOKEN_REUSE_DETECTED")
    must revoked
    Prog.fail reuseDetected
  else do
    demand (¬ record.token.expiresAt < client.now) (.unauthorized "توکن رفرش منقضی شده است")
    let done ← query (.rotate record.token.id record.family.id (sha256 newRawRefreshToken)
      (client.now + REFRESH_EXPIRY) client.ipAddress client.userAgent)
    must done
    pure (successor record client newRawRefreshToken)

def refreshTokenCore (rawToken : String) (client : Client) (newRawRefreshToken : String) :
    AuthProg TokenPair := do
  let found ← query (.findToken (sha256 rawToken))
  let record ← orThrow found (.unauthorized "توکن رفرش نامعتبر است")
  exchange sha256 record client newRawRefreshToken

def loggedOut : String := "خروج از حساب کاربری با موفقیت انجام شد"

def logout (refreshToken : Option String) (userId : Option Id) : AuthProg String :=
  match truthy refreshToken, userId with
  | some refreshToken, _ => do
      let found ← query (.findHash (sha256 refreshToken))
      match found with
      | none => pure loggedOut
      | some token => do
          let done ← query (.revokeFamily token.familyId "USER_LOGOUT")
          must done
          pure loggedOut
  | none, some userId => do
      let _ ← query (.revokeFamilies userId false "USER_LOGOUT_ALL")
      pure loggedOut
  | none, none => pure loggedOut

/-! ### The four ways of a refresh -/

/-- It refuses, it revokes the family and refuses, or it rotates. -/
theorem exchange_cases (record : TokenRecord) (client : Client) (newRawRefreshToken : String) :
    ((record.family.isRevoked = true ∨
        record.token.isUsed = false ∧ record.token.expiresAt < client.now) ∧
      ∃ e, exchange sha256 record client newRawRefreshToken = .ret (.error e)) ∨
    (record.family.isRevoked = false ∧ record.token.isUsed = true ∧
      exchange sha256 record client newRawRefreshToken =
        .step (.revokeFamily record.family.id "TOKEN_REUSE_DETECTED") fun done =>
          must done >>= fun _ => .ret (.error reuseDetected)) ∨
    (record.family.isRevoked = false ∧ record.token.isUsed = false ∧
      ¬ record.token.expiresAt < client.now ∧
      exchange sha256 record client newRawRefreshToken =
        .step (.rotate record.token.id record.family.id (sha256 newRawRefreshToken)
          (client.now + REFRESH_EXPIRY) client.ipAddress client.userAgent) fun done =>
            must done >>= fun _ =>
              .ret (.ok (successor record client newRawRefreshToken))) := by
  unfold exchange
  cases revoked : record.family.isRevoked with
  | true => exact Or.inl ⟨Or.inl rfl, _, rfl⟩
  | false =>
    cases used : record.token.isUsed with
    | true => exact Or.inr (Or.inl ⟨rfl, rfl, rfl⟩)
    | false =>
      by_cases expired : record.token.expiresAt < client.now
      · refine Or.inl ⟨Or.inr ⟨rfl, expired⟩, .unauthorized "توکن رفرش منقضی شده است", ?_⟩
        simp only [demand, require, expired, not_true_eq_false, if_true, if_false,
          Bool.false_eq_true]
        rfl
      · refine Or.inr (Or.inr ⟨rfl, rfl, expired, ?_⟩)
        simp only [demand, require, expired, not_false_eq_true, if_true, Bool.false_eq_true,
          if_false]
        rfl

end

/-!
## Sessions

`SessionService`, and the change of a password that ends sessions. A session is known by the hash
of the refresh token it was created with. Ending one session writes to the sessions only; ending
all others writes to the sessions and to the families of the user.
-/

/-! ### Devices -/

structure Device where
  (browser os deviceType : String)

def parseUserAgent (userAgent : Option String) : Device :=
  match truthy userAgent with
  | none => ⟨"مرورگر نامشخص", "نامشخص", "DESKTOP"⟩
  | some userAgent =>
    let ua := toLowerCase userAgent
    let os :=
      if includes ua "windows" then "Windows"
      else if includes ua "macintosh" || includes ua "mac os" then "macOS"
      else if includes ua "android" then "Android"
      else if includes ua "iphone" || includes ua "ipad" || includes ua "ios" then "iOS"
      else if includes ua "linux" then "Linux"
      else "سایر"
    let browser :=
      if includes ua "edg" then "Microsoft Edge"
      else if includes ua "chrome" && !includes ua "edg" then "Google Chrome"
      else if includes ua "safari" && !includes ua "chrome" then "Safari"
      else if includes ua "firefox" then "Mozilla Firefox"
      else if includes ua "opera" || includes ua "opr" then "Opera"
      else "مرورگر وب"
    let deviceType :=
      if includes ua "mobile" || includes ua "android" || includes ua "iphone" then "MOBILE"
      else if includes ua "ipad" || includes ua "tablet" then "TABLET"
      else "DESKTOP"
    ⟨browser, os, deviceType⟩

/-- `userAgent ? userAgent.slice(0, 255) : null` -/
def storedUserAgent (userAgent : Option String) : Option String :=
  (truthy userAgent).map fun ua => String.ofList (ua.toList.take 255)

/-- What the package `argon2` offers. -/
structure Argon2 where
  hash : String → String
  verify : (passwordHash password : String) → Bool

/-! ### The service -/

variable (sha256 : String → String)

/-- The id of the row is the table's to choose. -/
def sessionRow (userId tenantId : Id) (refreshToken : String) (client : Client) : UserSession where
  id := 0
  tenantId
  userId
  sessionTokenHash := sha256 refreshToken
  ipAddress := (truthy client.ipAddress).getD "unknown"
  userAgent := storedUserAgent client.userAgent
  browser := (parseUserAgent client.userAgent).browser
  os := (parseUserAgent client.userAgent).os
  deviceType := (parseUserAgent client.userAgent).deviceType
  lastActiveAt := client.now

def createSession (userId tenantId : Id) (refreshToken : String) (client : Client) :
    AuthProg Unit := do
  let done ← query (.createSession (sessionRow sha256 userId tenantId refreshToken client))
  must done

/-- A login that has verified its user: a token pair and its session. -/
def issueTokens (user : User) (client : Client) (rawRefreshToken : String) :
    AuthProg TokenPair := do
  let tokens ← createTokenPair sha256 user client rawRefreshToken
  createSession sha256 user.id user.tenantId tokens.refreshToken client
  pure tokens

def revokeSession (userId sessionId : Id) : AuthProg String := do
  let found ← query (.findSession sessionId userId)
  let session ← orThrow found (.notFound "نشست مورد نظر یافت نشد")
  let done ← query (.revokeSession session.id)
  must done
  pure "نشست دستگاه با موفقیت خاتمه یافت"

def revokeAllOtherSessions (userId : Id) (currentRefreshToken : Option String) : AuthProg ℕ := do
  let currentHash := (truthy currentRefreshToken).map sha256
  let revokedCount ← query (.revokeSessions userId currentHash)
  let _ ← query (.revokeFamilies userId true "PASS_CHANGE_OR_ALL_SESSIONS_REVOKED")
  pure revokedCount

structure ChangePasswordDto where
  (oldPassword newPassword : String)

def changePassword (argon2 : Argon2) (userId : Id) (dto : ChangePasswordDto)
    (currentRefreshToken : Option String) : AuthProg String := do
  let found ← query (.findUser userId)
  let user ← orThrow found (.notFound "کاربر یافت نشد")
  demand (argon2.verify user.passwordHash dto.oldPassword = true)
    (.badRequest "رمز عبور فعلی وارد شده نادرست است")
  let done ← query (.updateUser userId { passwordHash := some (argon2.hash dto.newPassword) })
  must done
  let _ ← revokeAllOtherSessions sha256 userId currentRefreshToken
  pure ("رمز عبور با موفقیت به‌روزرسانی شد و تمامی نشست‌های فعال در سایر دستگاه‌ها باطل گردیدند")

end Rokad.Auth
