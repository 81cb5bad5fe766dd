import Rokad.Auth.Statement
import Rokad.Security.BruteForce

/-!
# The database of the login module

A login looks an identifier up in every spelling it may have been stored in: as a user name with or
without the prefixes of parents and teachers, as a national code with leading zeros dropped or
padded to ten digits, as a phone or an email, through the blind index of an encrypted national code,
and as the code of a child of a parent.

`lower` is the host's `toLowerCase` and `hmac` the keyed hash of the blind index.
-/

namespace Rokad.Auth

open Rokad.Base Rokad.Common

/-- The spellings of one identifier; an absent one is empty. -/
structure Lookup where
  (rawIdentifier cleanIdentifier strippedP strippedZero strippedZeroP paddedTen : String)
  (nationalBlind strippedNationalBlind : Option String)

def cleanIdentifier (identifier : String) : String := normalizePersianDigits (trim identifier)

/-- `cleanIdentifier || rawIdentifier` -/
def lockIdentifier (identifier : String) : String :=
  (truthy (some (cleanIdentifier identifier))).getD (trim identifier)

def blindIndex (hmac : String → String) (value : String) : Option String :=
  (truthy (some value)).map fun value => hmac (normalizePersianDigits (trim value))

/-- `s.startsWith('p') ? s.slice(1) : ''` -/
def withoutP (s : String) : String :=
  match s.toList with
  | 'p' :: rest => String.ofList rest
  | _ => ""

def lookup (hmac : String → String) (identifier : String) : Lookup :=
  let clean := cleanIdentifier identifier
  let strippedP := withoutP clean
  { rawIdentifier := trim identifier
    cleanIdentifier := clean
    strippedP
    strippedZero := dropZeros clean
    strippedZeroP := dropZeros strippedP
    paddedTen := if clean.length < 10 ∧ isNumeric clean then padZeros 10 clean else ""
    nationalBlind := blindIndex hmac clean
    strippedNationalBlind := blindIndex hmac strippedP }

namespace Lookup

/-- `...(s ? [s] : [])` -/
def given (s : String) : List String := (truthy (some s)).toList

variable (lower : String → String) (l : Lookup)

def usernames : List String :=
  [l.cleanIdentifier, "p" ++ l.cleanIdentifier, "p_" ++ l.cleanIdentifier,
    "t" ++ l.cleanIdentifier, "t_" ++ l.cleanIdentifier] ++
  given l.strippedP ++
  (given l.strippedZero).flatMap (fun s => [s, "p" ++ s]) ++
  (given l.strippedZeroP).flatMap (fun s => [s, "p" ++ s]) ++
  (given l.paddedTen).flatMap fun s => [s, "p" ++ s]

/-- The spellings a national code or the code of a student may have. -/
def codes : List String := l.cleanIdentifier :: given l.strippedZero ++ given l.paddedTen

def nationalIds : List String := l.codes ++ given l.strippedP

def emails : List String := [lower l.rawIdentifier, lower l.cleanIdentifier]

/-- The row has one of the values. -/
def among (column : Option String) (values : List String) : Bool := column.any (· ∈ values)

def matchesStudent (p : StudentProfile) : Bool :=
  among p.nationalCode l.codes ||
    among p.nationalCodeBlindIndex l.nationalBlind.toList || p.studentCode ∈ l.codes

/-- The student a parent is linked to. -/
def matchesChild (t : Tables) (p : StudentProfile) : Bool :=
  l.matchesStudent p || among p.nationalCode (given l.strippedP) ||
    (t.users.find? p.userId).any fun u =>
      among u.username (l.codes ++ given l.strippedP ++ given l.strippedZeroP)

/-- Both searches look for these. -/
def matchesUser (t : Tables) (u : User) : Bool :=
  among u.username l.usernames || among u.nationalId l.nationalIds ||
    among u.nationalIdBlindIndex (l.nationalBlind.toList ++ l.strippedNationalBlind.toList) ||
    among u.phone [l.cleanIdentifier] || among u.email (l.emails lower) ||
    t.students.rows.any fun p => p.userId = u.id && l.matchesStudent p

/-- The search within the tenant also takes the parents of a student. -/
def matchesParent (t : Tables) (u : User) : Bool :=
  t.parents.rows.any fun parent => parent.userId = u.id &&
    t.links.rows.any fun link => link.parentId = parent.id &&
      (t.students.find? link.studentId).any (l.matchesChild t)

end Lookup

namespace Tables

variable (t : Tables) (lower : String → String) (tenantId : Option Id) (l : Lookup)

/-- The candidates in the tenant, or in all when there is none. -/
def candidates : List User :=
  t.users.rows.filter fun u =>
    tenantId.all (u.tenantId = ·) && (l.matchesUser lower t u || l.matchesParent t u)

/-- The active candidates outside the tenant. -/
def otherCandidates : List User :=
  t.users.rows.filter fun u =>
    tenantId.all (u.tenantId ≠ ·) && u.status = .active && l.matchesUser lower t u

end Tables

/-!
## Operations of the login module

The queries, statements and transactions the services send to the database, and their calls of the
brute-force protection. Each is one atomic operation; `exec` says what it does and what it answers.
-/

open Rokad.Security

inductive Op where
  | findUser (id : Id)
  | findTenant (id : Id)
  | findTenantBySlug (slug : String)
  | findActiveByPhone (tenantId : Id) (phone : String)
  | findCandidates (lower : String → String) (tenantId : Option Id) (lookup : Lookup)
  | findOtherCandidates (lower : String → String) (tenantId : Option Id) (lookup : Lookup)
  | updateUser (id : Id) (data : UserUpdate)
  | findToken (tokenHash : String)
  | findHash (tokenHash : String)
  | createFamily (userId tenantId : Id)
  | createToken (familyId : Id) (tokenHash : String) (expiresAt : Instant)
      (ipAddress userAgent : Option String)
  | rotate (id familyId : Id) (tokenHash : String) (expiresAt : Instant)
      (ipAddress userAgent : Option String)
  | revokeFamily (id : Id) (reason : String)
  | revokeFamilies (userId : Id) (activeOnly : Bool) (reason : String)
  | createSession (row : UserSession)
  | findSession (id userId : Id)
  | revokeSession (id : Id)
  | revokeSessions (userId : Id) (kept : Option String)
  | checkLoginAllowed (lower : String → String) (identifier : String) (ipAddress : Option String)
      (up : Bool) (now : ℕ)
  | check2FAAllowed (userId : String) (ipAddress : Option String) (up : Bool) (now : ℕ)
  | record (lower : String → String) (attempt : Timed)

@[reducible] def Res : Op → Type
  | .findUser _ | .findActiveByPhone .. => Option User
  | .findTenant _ | .findTenantBySlug _ => Option Tenant
  | .findCandidates .. | .findOtherCandidates .. => List User
  | .findToken _ => Option TokenRecord
  | .findHash _ => Option RefreshToken
  | .createFamily .. => Result Id
  | .findSession .. => Option UserSession
  | .revokeSessions .. => ℕ
  | .revokeFamilies .. | .record .. => Unit
  | .updateUser .. | .createToken .. | .rotate .. | .revokeFamily .. | .createSession _
  | .revokeSession _ => Result Unit
  | .checkLoginAllowed .. | .check2FAAllowed .. => Except TooManyRequests Unit

/-- The database, and what the brute-force protection remembers. -/
structure State where
  db : Db
  bruteForce : BruteForce := .empty

/-- The state after a statement: unchanged when it fails. -/
def State.write (s : State) (result : Result Db) : State × Result Unit :=
  match result with
  | .ok db => ({ s with db }, .ok ())
  | .error e => (s, .error e)

def exec : (op : Op) → State → State × Res op
  | .findUser id, s => (s, s.db.users.find? id)
  | .findTenant id, s => (s, s.db.tenants.find? id)
  | .findTenantBySlug slug, s => (s, s.db.tenants.rows.find? fun t => t.slug = slug)
  | .findActiveByPhone tenantId phone, s => (s, s.db.users.rows.find? fun u =>
    u.tenantId = tenantId ∧ u.phone = some phone ∧ u.status = .active)
  | .findCandidates lower tenantId lookup, s => (s, s.db.candidates lower tenantId lookup)
  | .findOtherCandidates lower tenantId lookup, s =>
    (s, s.db.otherCandidates lower tenantId lookup)
  | .updateUser id data, s => s.write (s.db.updateUser id data)
  | .findToken tokenHash, s => (s, s.db.findToken tokenHash)
  | .findHash tokenHash, s => (s, s.db.findHash tokenHash)
  | .createFamily userId tenantId, s =>
    let (next, done) := s.write (s.db.createFamily userId tenantId)
    (next, done.map fun _ => s.db.families.fresh)
  | .createToken familyId tokenHash expiresAt ip ua, s =>
    s.write (s.db.createToken familyId tokenHash expiresAt ip ua)
  | .rotate id familyId tokenHash expiresAt ip ua, s =>
    s.write (s.db.rotate id familyId tokenHash expiresAt ip ua)
  | .revokeFamily id reason, s => s.write (s.db.revokeFamily id reason)
  | .revokeFamilies userId activeOnly reason, s =>
    ({ s with db := s.db.revokeFamilies userId activeOnly reason }, ())
  | .createSession row, s => s.write (s.db.createSession row)
  | .findSession id userId, s => (s, s.db.findSession id userId)
  | .revokeSession id, s => s.write (s.db.revokeSession id)
  | .revokeSessions userId kept, s => ({ s with db := s.db.revokeSessions userId kept },
      s.db.sessions.rows.countP (Db.isOther userId kept))
  | .checkLoginAllowed lower identifier ip up now, s =>
    (s, Security.checkLoginAllowed lower identifier ip up now s.bruteForce)
  | .check2FAAllowed userId ip up now, s =>
    (s, Security.check2FAAllowed userId ip up now s.bruteForce)
  | .record lower attempt, s =>
    ({ s with bruteForce := Security.attempt lower s.bruteForce attempt }, ())

abbrev AuthProg := Prog Op Res Failure

abbrev query (op : Op) : AuthProg (Res op) := Prog.call op

/-- Fails unless the condition holds. -/
def demand (cond : Prop) [Decidable cond] (e : Failure) : AuthProg Unit := .ret (require cond e)

/-- The value that was found, or the failure. -/
def orThrow {α : Type} (found : Option α) (e : Failure) : AuthProg α := .ret (orFail found e)

/-- A statement that must go through. -/
def must {α : Type} (done : Result α) : AuthProg α := .ret done

/-- A check of the brute-force protection that must pass. -/
def allowed (check : Except TooManyRequests Unit) : AuthProg Unit :=
  .ret (check.mapError fun e => .tooManyRequests e.message e.remainingSeconds)

/-! ### What an operation changes -/

variable {s : State} {result : Result Db}

theorem write_cases (s : State) (result : Result Db) :
    (∃ db, result = .ok db ∧ s.write result = ({ s with db }, .ok ())) ∨
      ∃ e, result = .error e ∧ s.write result = (s, .error e) := by
  cases result with
  | ok db => exact Or.inl ⟨db, rfl, rfl⟩
  | error e => exact Or.inr ⟨e, rfl, rfl⟩

/-- What every statement that goes through keeps, an operation keeps. -/
theorem write_keeps {I : Db → Prop} (start : I s.db) (keeps : ∀ db, result = .ok db → I db) :
    I (s.write result).1.db := by
  rcases write_cases s result with ⟨db, done, same⟩ | ⟨e, -, same⟩
  · rw [same]
    exact keeps db done
  · rw [same]
    exact start

end Rokad.Auth
