import Rokad.Rbac.Operations

/-!
# Accounts, sessions and profiles

The tables behind a login, with the columns the services read. Rows are identified by numbers; a
hash, an encrypted secret or a code is text. A `Db` in which a token has no family, a family no
user, a user no tenant or a profile no user cannot be built, nor one that breaks a unique
constraint.

A login leaves two traces that nothing ties together: a family of refresh tokens, and a session
that carries the hash of the first of them.
-/

namespace Rokad.Auth

open Rokad.Base Rokad.Common

/-! ### Rows -/

inductive TenantType where
  | platform | school | college | club | projectInstitute | multiCampusNetwork
deriving DecidableEq

inductive TenantStatus where
  | active | suspended | pendingSetup
deriving DecidableEq

inductive BrandTheme where
  | ecosystem | male | female | college | club
deriving DecidableEq

structure Tenant where
  id : Id
  type : TenantType := .school
  (name slug : String)
  (subdomain customDomain : Option String := none)
  theme : BrandTheme := .ecosystem
  status : TenantStatus := .active
deriving DecidableEq

structure User where
  (id tenantId : Id)
  (email phone nationalId nationalIdBlindIndex username : Option String := none)
  (passwordHash firstName lastName : String)
  role : UserRole := .student
  isPlatformAdmin : Bool := false
  status : UserStatus := .active
  twoFactorEnabled : Bool := false
  twoFactorSecret : Option String := none
  twoFactorRecoveryCodes : List String := []
  twoFactorLastStepUpAt : Option Instant := none
deriving DecidableEq

structure RefreshTokenFamily where
  (id userId tenantId : Id)
  isRevoked : Bool := false
  revokedReason : Option String := none

structure RefreshToken where
  (id familyId : Id)
  tokenHash : String
  isUsed : Bool := false
  expiresAt : Instant
  (ipAddress userAgent : Option String := none)
deriving DecidableEq

structure UserSession where
  (id tenantId userId : Id)
  (sessionTokenHash ipAddress : String)
  userAgent : Option String := none
  (browser os deviceType : String)
  lastActiveAt : Instant
  isRevoked : Bool := false

structure StudentProfile where
  (id tenantId userId : Id)
  studentCode : String
  (nationalCode nationalCodeBlindIndex fatherFullName fatherPhone motherFullName
    motherPhone : Option String := none)

/-- A teacher, a coach, a member of staff or a parent. -/
structure Profile where
  (id tenantId userId : Id)
deriving DecidableEq

structure ParentStudentLink where
  (id tenantId parentId studentId : Id)

/-! ### Unique constraints -/

/-- A nullable unique column: two nulls do not clash. -/
def sameText : Option String → Option String → Bool
  | some a, some b => a == b
  | _, _ => false

theorem sameText_comm (a b : Option String) : sameText a b = sameText b a := by
  cases a <;> cases b <;> simp [sameText, Bool.beq_comm]

theorem sameText_iff {a b : Option String} : sameText a b = true ↔ ∃ x, a = some x ∧ b = some x := by
  cases a with
  | none => simp [sameText]
  | some x =>
    cases b with
    | none => simp [sameText]
    | some y => simpa [sameText] using eq_comm

instance : Record Tenant where
  key t := t.id
  clash a b := a.slug == b.slug || sameText a.subdomain b.subdomain ||
    sameText a.customDomain b.customDomain
  clash_comm a b := by
    rw [sameText_comm a.subdomain, sameText_comm a.customDomain]
    simp only [Bool.beq_comm]

instance : Record User where
  key u := u.id
  clash a b := a.tenantId == b.tenantId &&
    (sameText a.email b.email || sameText a.phone b.phone || sameText a.username b.username)
  clash_comm a b := by
    rw [sameText_comm a.email, sameText_comm a.phone, sameText_comm a.username]
    simp only [Bool.beq_comm]

instance : Record RefreshTokenFamily where
  key f := f.id

instance : Record RefreshToken where
  key t := t.id
  clash a b := a.tokenHash == b.tokenHash

instance : Record UserSession where
  key s := s.id
  clash a b := a.sessionTokenHash == b.sessionTokenHash

instance : Record StudentProfile where
  key p := p.id
  clash a b := a.userId == b.userId || (a.tenantId == b.tenantId && a.studentCode == b.studentCode)

instance : Record Profile where
  key p := p.id
  clash a b := a.userId == b.userId

instance : Record ParentStudentLink where
  key l := l.id
  clash a b := a.parentId == b.parentId && a.studentId == b.studentId

/-! ### The database -/

structure Tables where
  tenants : Table Tenant := .empty
  users : Table User := .empty
  families : Table RefreshTokenFamily := .empty
  tokens : Table RefreshToken := .empty
  sessions : Table UserSession := .empty
  students : Table StudentProfile := .empty
  (teachers coaches staff parents : Table Profile := .empty)
  links : Table ParentStudentLink := .empty

structure ForeignKeys (t : Tables) : Prop where
  user_tenant : Table.References (fun u => some u.tenantId) t.users t.tenants
  family_user : Table.References (fun f => some f.userId) t.families t.users
  token_family : Table.References (fun k => some k.familyId) t.tokens t.families
  session_user : Table.References (fun s => some s.userId) t.sessions t.users
  student_user : Table.References (fun p => some p.userId) t.students t.users
  teacher_user : Table.References (fun p => some p.userId) t.teachers t.users
  coach_user : Table.References (fun p => some p.userId) t.coaches t.users
  staff_user : Table.References (fun p => some p.userId) t.staff t.users
  parent_user : Table.References (fun p => some p.userId) t.parents t.users
  link_parent : Table.References (fun l => some l.parentId) t.links t.parents
  link_student : Table.References (fun l => some l.studentId) t.links t.students

/-- A database: tables whose foreign keys hold. -/
structure Db extends Tables where
  foreignKeys : ForeignKeys toTables

/-! ### Tokens and their families -/

/-- Two rows with one hash are one row. -/
theorem token_eq_of_hash {t : Table RefreshToken} {a b : RefreshToken} (ha : a ∈ t.rows)
    (hb : b ∈ t.rows) (same : a.tokenHash = b.tokenHash) : a = b := by
  by_contra differ
  have apart := t.no_clash a ha b hb fun keys => differ (t.eq_of_key_eq ha hb keys)
  simp [Record.clash, same] at apart

/-- A token that is read with its family and the user the family is of. -/
structure TokenRecord where
  token : RefreshToken
  family : RefreshTokenFamily
  user : User

namespace Tables

def findHash (t : Tables) (tokenHash : String) : Option RefreshToken :=
  t.tokens.rows.find? fun k => k.tokenHash = tokenHash

def findToken (t : Tables) (tokenHash : String) : Option TokenRecord := do
  let token ← t.findHash tokenHash
  let family ← t.families.find? token.familyId
  let user ← t.users.find? family.userId
  pure ⟨token, family, user⟩

variable {t : Tables} {tokenHash : String}

theorem findHash_eq_some_iff {token : RefreshToken} :
    t.findHash tokenHash = some token ↔ token ∈ t.tokens.rows ∧ token.tokenHash = tokenHash := by
  constructor
  · intro found
    exact ⟨List.mem_of_find?_eq_some found, by simpa using List.find?_some found⟩
  · rintro ⟨mem, rfl⟩
    cases found : t.findHash token.tokenHash with
    | none =>
      have absent := List.find?_eq_none.mp found token mem
      simp at absent
    | some other =>
      have hash : other.tokenHash = token.tokenHash := by simpa using List.find?_some found
      rw [token_eq_of_hash (List.mem_of_find?_eq_some found) mem hash]

theorem findToken_eq_some_iff {record : TokenRecord} :
    t.findToken tokenHash = some record ↔ t.findHash tokenHash = some record.token ∧
      t.families.find? record.token.familyId = some record.family ∧
      t.users.find? record.family.userId = some record.user := by
  simp only [findToken, Option.bind_eq_bind, Option.bind_eq_some_iff, Option.pure_def,
    Option.some.injEq]
  constructor
  · rintro ⟨token, found, family, ofFamily, user, ofUser, rfl⟩
    exact ⟨found, ofFamily, ofUser⟩
  · rintro ⟨found, ofFamily, ofUser⟩
    exact ⟨_, found, _, ofFamily, _, ofUser, rfl⟩

end Tables

namespace Db

theorem family_exists (db : Db) {token : RefreshToken} (mem : token ∈ db.tokens.rows) :
    ∃ family, db.families.find? token.familyId = some family :=
  has_some_iff.mp (db.foreignKeys.token_family token mem)

theorem user_exists (db : Db) {family : RefreshTokenFamily} (mem : family ∈ db.families.rows) :
    ∃ user, db.users.find? family.userId = some user :=
  has_some_iff.mp (db.foreignKeys.family_user family mem)

/-- A stored token is always read with its family. -/
theorem findToken_isSome (db : Db) {token : RefreshToken} {tokenHash : String}
    (found : db.findHash tokenHash = some token) :
    ∃ record, db.findToken tokenHash = some record ∧ record.token = token := by
  obtain ⟨family, ofFamily⟩ := db.family_exists (Tables.findHash_eq_some_iff.mp found).1
  obtain ⟨user, ofUser⟩ := db.user_exists (mem_of_find? ofFamily)
  exact ⟨⟨token, family, user⟩, Tables.findToken_eq_some_iff.mpr ⟨found, ofFamily, ofUser⟩, rfl⟩

end Db

end Rokad.Auth
