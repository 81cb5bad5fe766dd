import Rokad.Members.Credential

/-!
# The password vault of a school

`PasswordVaultService`: passwords encrypted for the school's key pair, the private key sealed under
a master key. The cryptography is ideal: a seal opens under its own key only, a ciphertext under its
own pair, and a hash verifies its own text. A call is a sequence of statements, and others may come
between them.

The school exists, its database answers, and what a call draws is given with it.
-/

namespace Rokad.Vault

open Rokad.Base
open Rokad.Common (Id normalizePersianDigits)
open Rokad.Auth (Tenant)
open Rokad.Members (getTenantPasswordPrefix normalizeNationalCode stripLeadingZero cleanPhone)

export Rokad.Common (Failure Result)

/-! ### Ideal cryptography -/

/-- A key pair of RSA, by its number. -/
structure KeyPair where
  number : ℕ
deriving DecidableEq

structure AesKey where
  masterKey : String
  salt : ℕ
deriving DecidableEq

/-- A private key under AES-256-GCM. -/
structure SealedKey where
  aesKey : AesKey
  privateKey : KeyPair
deriving DecidableEq

structure Cipher where
  publicKey : KeyPair
  plaintext : String
deriving DecidableEq

/-- What `argon2.hash` makes of a text. -/
structure Argon2 where
  text : String
deriving DecidableEq

def Argon2.verify (hash : Argon2) (text : String) : Bool := hash.text = text

def deriveAesKey (masterKey : String) (salt : ℕ) : AesKey := ⟨masterKey, salt⟩

def encryptPrivateKey (privateKey : KeyPair) (aesKey : AesKey) : SealedKey := ⟨aesKey, privateKey⟩

def decryptPrivateKey (record : SealedKey) (aesKey : AesKey) : Result KeyPair :=
  if record.aesKey = aesKey then .ok record.privateKey
  else .error (.thrown "Unsupported state or unable to authenticate data")

/-- RSA-2048 with OAEP and SHA-256 takes 190 bytes. -/
def encryptWithPublicKey (publicKey : KeyPair) (plaintext : String) : Result Cipher :=
  if plaintext.utf8ByteSize ≤ 190 then .ok ⟨publicKey, plaintext⟩
  else .error (.thrown "error:0200006E:rsa routines::data too large for key size")

def decryptWithPrivateKey (privateKey : KeyPair) (cipher : Cipher) : Result String :=
  if cipher.publicKey = privateKey then .ok cipher.plaintext
  else .error (.thrown "error:02000079:rsa routines::oaep decoding error")

/-! ### State -/

/-- The vault columns of the school. -/
structure TenantVault where
  publicKey : Option KeyPair := none
  encryptedPrivateKey : Option SealedKey := none
  keySalt : Option ℕ := none
  keyHash : Option Argon2 := none
deriving DecidableEq

structure User where
  id : Id
  (nationalId phone username : Option String := none)
  passwordHash : Argon2
  encryptedPassword : Option Cipher := none

/-- What a call that succeeds leaves its caller with: nothing, the key it passed to
`setupMasterKey`, or a key it is told. -/
inductive Account where
  | nothing
  | passed (key : String)
  | told (key : String)

structure Db where
  tenant : Tenant
  vault : TenantVault := {}
  users : List User := []
  /-- The key passed to the `setupMasterKey` call that last succeeded. -/
  passed : Option String := none
  /-- The keys returned to callers. -/
  told : List String := []

def Db.succeed (db : Db) : Account → Db
  | .nothing => db
  | .passed key => { db with passed := some key }
  | .told key => { db with told := key :: db.told }

/-! ### Operations -/

/-- The last statement of a call succeeds with it. -/
inductive Op where
  | readTenant
  | readUsers
  | writeVault (publicKey : KeyPair) (sealed : SealedKey) (salt : ℕ) (hash : Argon2)
      (account : Account)
  | changeKey (sealed : SealedKey) (salt : ℕ) (hash : Argon2) (account : Account)
  | savePassword (userId : Id) (cipher : Cipher)
  | succeed (account : Account)

@[reducible] def Op.Answer : Op → Type
  | .readTenant => TenantVault
  | .readUsers => List User
  | _ => Unit

def exec : (op : Op) → Db → Db × op.Answer
  | .readTenant, db => (db, db.vault)
  | .readUsers, db => (db, db.users)
  | .writeVault publicKey sealed salt hash account, db =>
    ({ db with vault := ⟨some publicKey, some sealed, some salt, some hash⟩ }.succeed account, ())
  | .changeKey sealed salt hash account, db =>
    ({ db with vault :=
        { db.vault with
          encryptedPrivateKey := some sealed, keySalt := some salt, keyHash := some hash } }.succeed
      account, ())
  | .savePassword userId cipher, db =>
    ({ db with users := db.users.map fun u =>
        if u.id = userId then { u with encryptedPassword := some cipher } else u }, ())
  | .succeed account, db => (db.succeed account, ())

abbrev VaultProg := Prog Op Op.Answer Failure

abbrev query (op : Op) : VaultProg op.Answer := Prog.call op

/-! ### Programs -/

/-- What a call draws: a key pair, a salt, and the random master key. -/
structure Draw where
  pair : KeyPair
  salt : ℕ
  masterKey : String

/-- `initialMasterKey?.trim() || random` -/
def Draw.initialKey (draw : Draw) (initialMasterKey : Option String) : String :=
  (truthy (initialMasterKey.map trim)).getD draw.masterKey

structure EnsuredVault where
  publicKey : KeyPair
  generatedMasterKey : Option String := none

/-- `account` is what the caller is left with if this call initialises the vault, `found` if another
has. -/
def ensureTenantVault (draw : Draw) (initialMasterKey : Option String)
    (account : String → Account) (found : Account) : VaultProg EnsuredVault := do
  let vault ← query .readTenant
  match vault.publicKey, vault.encryptedPrivateKey with
  | some publicKey, some _ => do
      query (.succeed found)
      pure { publicKey }
  | _, _ => do
      let masterKey := draw.initialKey initialMasterKey
      query (.writeVault draw.pair (encryptPrivateKey draw.pair (deriveAesKey masterKey draw.salt))
        draw.salt ⟨masterKey⟩ (account masterKey))
      pure
        { publicKey := draw.pair
          generatedMasterKey := if (truthy initialMasterKey).isSome then none else some masterKey }

namespace setupMasterKey

/-- The caller shows the current key, or is an administrator of the platform. -/
def verifyCurrent (vault : TenantVault) (currentMasterKey : Option String)
    (isPlatformAdmin : Bool) : Result Unit :=
  if isPlatformAdmin then .ok ()
  else
    match truthy currentMasterKey with
    | none => .error (.badRequest "ورود کلید مستر قبلی الزامی است")
    | some current =>
      match vault.keyHash with
      | none => .error (.thrown "pchstr must contain a $ as first char")
      | some hash => require (hash.verify current = true) (.unauthorized "کلید مستر فعلی نادرست است")

/-- The private key, opened with the current master key. -/
def openPrivateKey (vault : TenantVault) (sealed : SealedKey) (currentMasterKey : Option String) :
    Result KeyPair :=
  match truthy currentMasterKey, vault.keySalt with
  | some current, some salt => decryptPrivateKey sealed (deriveAesKey current salt)
  | _, _ => .error (.badRequest "برای تغییر کلید مستر، وارد کردن کلید فعلی الزامی است")

end setupMasterKey

def setupMasterKey (draw : Draw) (newMasterKey : String) (currentMasterKey : Option String)
    (isPlatformAdmin : Bool) : VaultProg Unit := do
  let vault ← query .readTenant
  match vault.publicKey, vault.encryptedPrivateKey with
  | some _, some sealed => do
      let _ ← Prog.ret (setupMasterKey.verifyCurrent vault currentMasterKey isPlatformAdmin)
      let privateKey ← Prog.ret (setupMasterKey.openPrivateKey vault sealed currentMasterKey)
      query (.changeKey (encryptPrivateKey privateKey (deriveAesKey newMasterKey draw.salt))
        draw.salt ⟨newMasterKey⟩ (.passed newMasterKey))
  | _, _ => do
      let _ ← ensureTenantVault draw (some newMasterKey) (fun _ => .passed newMasterKey)
        (.passed newMasterKey)
      pure ()

/-- What fails is logged, and null is returned. -/
def encryptPasswordForTenant (draw : Draw) (plaintext : String) : VaultProg (Option Cipher) :=
  if plaintext = "" then pure none
  else do
    let vault ← query .readTenant
    match vault.publicKey with
    | some publicKey => pure (encryptWithPublicKey publicKey plaintext).toOption
    | none => do
        let ensured ← ensureTenantVault draw none (fun _ => .nothing) .nothing
        pure (encryptWithPublicKey ensured.publicKey plaintext).toOption

/-- What its callers do with an encrypted password. -/
def storePassword (draw : Draw) (userId : Id) (plaintext : String) : VaultProg Unit := do
  let encryptedPassword ← encryptPasswordForTenant draw plaintext
  match encryptedPassword with
  | some cipher => query (.savePassword userId cipher)
  | none => pure ()

/-! ### Recovery -/

variable (lower : String → String)

/-- The passwords that are tried, in order. -/
def candidates (tenant : Tenant) (user : User) : List String :=
  let pre := getTenantPasswordPrefix lower (some tenant)
  let cleanNationalCode := normalizeNationalCode user.nationalId
  let strippedNational := stripLeadingZero user.nationalId
  let phone := cleanPhone user.phone
  let cleanUsername := (user.username.map trim).getD ""
  let strippedUsername := stripLeadingZero (some cleanUsername)
  (if strippedNational = "" then []
    else [pre ++ strippedNational, "b" ++ strippedNational, "g" ++ strippedNational,
      "c" ++ strippedNational, "p" ++ strippedNational, strippedNational]) ++
  (if cleanNationalCode = "" then []
    else [pre ++ cleanNationalCode, cleanNationalCode, "p" ++ cleanNationalCode]) ++
  (if cleanUsername = "" then []
    else [cleanUsername, pre ++ cleanUsername, "p" ++ cleanUsername] ++
      (if strippedUsername = "" then []
        else [pre ++ strippedUsername, "p" ++ strippedUsername, strippedUsername])) ++
  (if phone = "" then [] else [phone, "p" ++ phone, dropZeros phone]) ++
  ["boysvice", "girlsadmin", "boyscoach", "RokadPass2026!", "RokadParent2026!", "123456",
    "password"]

def tryRecoverPlaintext (tenant : Tenant) (user : User) : Option String :=
  (candidates lower tenant user).find? user.passwordHash.verify

structure BackfillReport where
  total : ℕ
  (recovered alreadyEncrypted unrecovered : ℕ := 0)

/-- The loop over the members. -/
def backfillUsers (tenant : Tenant) (publicKey : KeyPair) :
    BackfillReport → List User → VaultProg BackfillReport
  | report, [] => pure report
  | report, user :: users =>
    if user.encryptedPassword.isSome then
      backfillUsers tenant publicKey
        { report with alreadyEncrypted := report.alreadyEncrypted + 1 } users
    else
      match tryRecoverPlaintext lower tenant user with
      | some plaintext => do
          let encrypted ← Prog.ret (encryptWithPublicKey publicKey plaintext)
          query (.savePassword user.id encrypted)
          backfillUsers tenant publicKey { report with recovered := report.recovered + 1 } users
      | none =>
        backfillUsers tenant publicKey { report with unrecovered := report.unrecovered + 1 } users

def backfillTenantPasswords (draw : Draw) (tenant : Tenant) : VaultProg BackfillReport := do
  let _ ← query .readTenant
  let ensured ← ensureTenantVault draw none (fun _ => .nothing) .nothing
  let users ← query .readUsers
  backfillUsers lower tenant ensured.publicKey { total := users.length } users

/-- The user's ciphertext, or a new one if the password can be recovered. -/
def ciphertextOf (db : Db) (user : User) : Result Cipher :=
  match user.encryptedPassword, tryRecoverPlaintext lower db.tenant user, db.vault.publicKey with
  | some cipher, _, _ => .ok cipher
  | none, some plaintext, some publicKey => encryptWithPublicKey publicKey plaintext
  | none, _, _ => .error (.badRequest ("رمز عبور این کاربر به صورت برگشت‌ناپذیر ثبت شده است و نسخه " ++
      "رمزنگاری‌شده در گاوصندوق موجود نیست. لطفاً از گزینه «تنظیم رمز جدید» استفاده فرمایید."))

/-- The checks of `revealPassword`: the user, the ciphertext, and what it is opened with. -/
def openCopy (db : Db) (targetUserId : Id) (masterKey : String) :
    Result (User × Cipher × SealedKey × ℕ) := do
  let user ← orFail (db.users.find? (·.id = targetUserId)) (.notFound "کاربر هدف یافت نشد")
  let (sealed, salt, hash) ← orFail (do
      let sealed ← db.vault.encryptedPrivateKey
      let salt ← db.vault.keySalt
      let hash ← db.vault.keyHash
      return (sealed, salt, hash))
    (.badRequest "گاوصندوق رمز عبور برای این مرکز آموزشی فعال نشده است")
  require (hash.verify masterKey = true) (.unauthorized "کلید امنیتی مستر مدیر نادرست است")
  let cipher ← ciphertextOf lower db user
  return (user, cipher, sealed, salt)

/-- `revealPassword`, for an administrator of the school whom the brute-force protection lets try:
the password, and the user's new ciphertext if it had to be recovered. -/
def revealPassword (db : Db) (targetUserId : Id) (masterKey : String) :
    Result (String × Cipher) := do
  let (_, cipher, sealed, salt) ← openCopy lower db targetUserId masterKey
  let privateKey ← decryptPrivateKey sealed (deriveAesKey masterKey salt)
  let plaintext ← decryptWithPrivateKey privateKey cipher
  return (plaintext, cipher)

/-! ### Calls -/

inductive Call where
  | registerSchool (draw : Draw) (adminId : Id) (adminPassword : String)
  | encryptPasswordForTenant (draw : Draw) (userId : Id) (plaintext : String)
  | backfillTenantPasswords (draw : Draw)
  | setupMasterKey (draw : Draw) (newMasterKey : String) (currentMasterKey : Option String)
      (isPlatformAdmin : Bool)
  | ensureTenantVault (draw : Draw) (initialMasterKey : Option String)

/-- A call's program; what it answers is dropped. -/
def Call.program (tenant : Tenant) : Call → VaultProg Unit
  | .registerSchool draw adminId adminPassword => storePassword draw adminId adminPassword
  | .encryptPasswordForTenant draw userId plaintext => storePassword draw userId plaintext
  | .backfillTenantPasswords draw => do
      let _ ← Vault.backfillTenantPasswords lower draw tenant
      pure ()
  | .setupMasterKey draw newMasterKey currentMasterKey isPlatformAdmin =>
    Vault.setupMasterKey draw newMasterKey currentMasterKey isPlatformAdmin
  | .ensureTenantVault draw initialMasterKey => do
      let _ ← Vault.ensureTenantVault draw initialMasterKey
        (fun key => if (truthy initialMasterKey).isSome then .nothing else .told key) .nothing
      pure ()

end Rokad.Vault
