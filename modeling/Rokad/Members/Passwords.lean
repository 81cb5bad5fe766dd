import Rokad.Members.ParentLogin

/-!
# Whose passwords are written

A password is stored as a hash, and encrypted for the school. `syncParentForStudent` writes both to
the account it finds for the parents, whoever the account is of and whatever else it is for, on every
call about the student; each time with a new salt and a new padding. `Commit` is a transaction that
went through, with the states before and after.

* `keepsAccounts_iff`: a transaction spares an account exactly if the parents were not found by it,
  or what is written is what it had, or it is that of the parents of a student whose code changes.
* `accounts_kept_iff`: so does a call, transaction by transaction.
* `not_accounts_kept`: a phone that is known, and a first name that is corrected.
-/

namespace Rokad.Members

open Rokad.Base Rokad.Auth
open Rokad.Common (Id)

/-! ### Passwords -/

/-- The database, and what the users' column `encryptedPassword` holds. -/
structure Accounts where
  db : Db
  encryptedPassword : Id → Option String

/-- A transaction that went through. -/
structure Commit where
  before : Accounts
  move : Transaction
  after : Accounts

section

variable (x : MemberHost) (encrypt : ℕ → String → Option String) (A : Id)

/-- A new student has an encrypted password if there is a key to encrypt it with. -/
def Transaction.encrypted (s : Accounts) : Transaction → Id → Option String
  | .create dto env =>
    let creds := generateUnifiedCredentials x.lower (s.db.tenants.find? A) dto.nationalCode
      (some dto.phone) dto.password env.draws
    Function.update s.encryptedPassword s.db.users.fresh
      (truthy (encrypt env.draws.memberSeed creds.finalPassword))
  | .update _ _ _ => s.encryptedPassword
  | .row item env =>
    let creds := item.creds x.lower (s.db.tenants.find? A) env
    match item.existing x A env s.db.toTables with
    | some _ => s.encryptedPassword
    | none =>
      Function.update s.encryptedPassword s.db.users.fresh
        (truthy (encrypt env.draws.memberSeed creds.finalPassword))

/-- So has a new parent; one who is there keeps the old one without a key. -/
def StudentSync.encrypted (sync : StudentSync) (draws : Draws) (t : Tables)
    (encryptedPassword : Id → Option String) : Id → Option String :=
  let cipher := truthy (encrypt draws.parentSeed (parentCredentials sync draws).finalPassword)
  match sync.account A t draws with
  | .linked parent _ =>
    Function.update encryptedPassword parent.userId (cipher <|> encryptedPassword parent.userId)
  | .found user => Function.update encryptedPassword user.id (cipher <|> encryptedPassword user.id)
  | .new _ => Function.update encryptedPassword t.users.fresh cipher

/-- A transaction with both columns. -/
def Transaction.commitAll (s : Accounts) (move : Transaction) : Result Accounts := do
  let (mid, sync) ← move.record x A s.db
  move.env.placed
  let db ← syncParentForStudent x A sync move.env.draws mid
  pure
    { db
      encryptedPassword := sync.encrypted encrypt A move.env.draws mid.toTables
        (move.encrypted x encrypt A s) }

/-- The transactions of an import that go through. -/
def rowCommits : List (Option ImportRow × RowEnv) → Accounts → List Commit
  | [], _ => []
  | (row, env) :: rest, s =>
    let move := Transaction.row (readItem x.lower (row.getD [])) env
    match move.commitAll x encrypt A s with
    | .ok next => ⟨s, move, next⟩ :: rowCommits rest next
    | .error _ => if row.isSome then rowCommits rest s else []

def Transaction.commits (s : Accounts) (move : Transaction) : List Commit :=
  match move.commitAll x encrypt A s with
  | .ok next => [⟨s, move, next⟩]
  | .error _ => []

/-- The transactions of a call that go through. -/
def StudentCall.commits (s : Accounts) : StudentCall → List Commit
  | .createStudent dto env => (Transaction.create dto env).commits x encrypt A s
  | .updateStudent studentId dto env => (Transaction.update studentId dto env).commits x encrypt A s
  | .bulkImportStudents rows => rowCommits x encrypt A rows s

/-! ### Accounts that are kept -/

/-- A user is the parent of a student whose national code changes. -/
def Exempt (c : Commit) (u : User) : Prop :=
  u.role = .parent ∧ ∃ p ∈ c.before.db.students.rows, LinkedTo c.before.db.toTables p u.id ∧
    ∃ p' ∈ c.after.db.students.rows, p'.id = p.id ∧ p'.nationalCode ≠ p.nationalCode

/-- Users who were there at the start keep their passwords but for those who are exempt, and nobody
but a parent gets a parent profile, or a link. -/
structure KeepsAccounts (start : Tables) (c : Commit) : Prop where
  passwords : ∀ u ∈ c.before.db.users.rows, start.users.has (some u.id) = true →
    ∀ u' ∈ c.after.db.users.rows, u'.id = u.id → u'.passwordHash = u.passwordHash ∧
        c.after.encryptedPassword u.id = c.before.encryptedPassword u.id ∨ Exempt c u
  profiles : ∀ u ∈ c.after.db.users.rows, u.role ≠ .parent → ∀ p ∈ c.after.db.parents.rows,
    p.userId = u.id → p ∈ c.before.db.parents.rows
  links : ∀ u ∈ c.after.db.users.rows, u.role ≠ .parent → ∀ p ∈ c.after.db.parents.rows,
    p.userId = u.id → ∀ l ∈ c.after.db.links.rows, l.parentId = p.id → l ∈ c.before.db.links.rows

/-- The transaction writes another national code to the student. -/
def CodeChanges (db : Db) (p : StudentProfile) : Transaction → Prop
  | .create _ _ => False
  | .update studentId dto _ => findStudent A db.toTables studentId = some p ∧
      ∃ code, dto.nationalCode = some code ∧ code ≠ p.nationalCode
  | .row item env => (∃ user, item.existing x A env db.toTables = some (p, user)) ∧
      ∃ code, (item.creds x.lower (db.tenants.find? A) env).nationalId = some code ∧
        some code ≠ p.nationalCode

/-- The password of the parents may be written to the user: the user is new, what is written with the
salt and the padding drawn is what is stored, or the user is the parent of the student whose code
changes. A password that is the same as before is hashed and encrypted anew. -/
def Spares (start : Tables) (s : Accounts) (move : Transaction) (password : String) (u : User) : Prop :=
  start.users.has (some u.id) = true → (x.hash move.env.draws.parentSeed password = u.passwordHash ∧
      ∀ cipher, truthy (encrypt move.env.draws.parentSeed password) = some cipher →
        s.encryptedPassword u.id = some cipher) ∨
    u.role = .parent ∧ ∃ p ∈ s.db.students.rows, LinkedTo s.db.toTables p u.id ∧
      CodeChanges x A s.db p move

/-- The account for the parents is one whose password may be written; one that was not linked yet is
a parent's. -/
def SparesFound (start : Tables) (s : Accounts) (move : Transaction) (mid : Db) (sync : StudentSync) :
    Prop :=
  let password := (parentCredentials sync move.env.draws).finalPassword
  match sync.account A mid.toTables move.env.draws with
  | .linked parent _ => ∀ u ∈ s.db.users.rows, u.id = parent.userId →
      Spares x encrypt A start s move password u
  | .found user => user.role = .parent ∧ ∀ u ∈ s.db.users.rows, u.id = user.id →
      Spares x encrypt A start s move password u
  | .new _ => True

/-- The account is found in the state that recording the student leaves. -/
def SparesAccounts (start : Tables) (s : Accounts) (move : Transaction) : Prop :=
  ∀ mid sync, move.record x A s.db = .ok (mid, sync) → SparesFound x encrypt A start s move mid sync

end

section

variable {x : MemberHost} {encrypt : ℕ → String → Option String} {A : Id} {s next : Accounts}
  {move : Transaction} {db mid db' : Db} {sync : StudentSync}

/-! ### Transactions and calls -/

theorem Transaction.commitAll_ok (done : move.commitAll x encrypt A s = .ok next) :
    ∃ mid sync, move.record x A s.db = .ok (mid, sync) ∧
      syncParentForStudent x A sync move.env.draws mid = .ok next.db ∧
      next.encryptedPassword = sync.encrypted encrypt A move.env.draws mid.toTables
        (move.encrypted x encrypt A s) := by
  obtain ⟨⟨mid, sync⟩, recorded, done⟩ := bind_eq_ok.mp done
  obtain ⟨⟨⟩, -, done⟩ := bind_eq_ok.mp done
  obtain ⟨db, synced, done⟩ := bind_eq_ok.mp done
  cases done
  exact ⟨mid, sync, recorded, synced, rfl⟩

theorem Transaction.commitAll_of_mem {c : Commit} (mem : c ∈ move.commits x encrypt A s) :
    c.move.commitAll x encrypt A c.before = .ok c.after := by
  unfold Transaction.commits at mem
  split at mem
  · rename_i next done
    cases List.mem_singleton.mp mem
    exact done
  · exact absurd mem List.not_mem_nil

theorem commitAll_of_mem_rows {rows : List (Option ImportRow × RowEnv)} {c : Commit}
    (mem : c ∈ rowCommits x encrypt A rows s) :
    c.move.commitAll x encrypt A c.before = .ok c.after := by
  induction rows generalizing s with
  | nil => exact absurd mem List.not_mem_nil
  | cons first rest ih =>
    obtain ⟨row, env⟩ := first
    unfold rowCommits at mem
    dsimp only at mem
    split at mem
    · rename_i next done
      rcases List.mem_cons.mp mem with rfl | later
      · exact done
      · exact ih later
    · split at mem
      · exact ih mem
      · exact absurd mem List.not_mem_nil

theorem commitAll_of_mem {call : StudentCall} {c : Commit} (mem : c ∈ call.commits x encrypt A s) :
    c.move.commitAll x encrypt A c.before = .ok c.after := by
  cases call with
  | createStudent dto env => exact Transaction.commitAll_of_mem mem
  | updateStudent studentId dto env => exact Transaction.commitAll_of_mem mem
  | bulkImportStudents rows => exact commitAll_of_mem_rows mem

/-! ### The student is recorded -/

section

variable (recorded : move.record x A db = .ok (mid, sync))
include recorded

/-- The code of the student changes where another is written. -/
theorem codeChanges_iff {p : StudentProfile}
    (mem : p ∈ db.students.rows) :
    (∃ p' ∈ mid.students.rows, p'.id = p.id ∧ p'.nationalCode ≠ p.nationalCode) ↔
      CodeChanges x A db p move := by
  have ofCreated : ∀ {user : User} {profile : StudentProfile}, Creates A db mid user profile →
      ¬ ∃ p' ∈ mid.students.rows, p'.id = p.id ∧ p'.nationalCode ≠ p.nationalCode := by
    rintro user profile created ⟨p', mem', same, differ⟩
    have before : p ∈ mid.students.rows := (mem_insert created.students).mpr (.inl mem)
    exact differ (congrArg (·.nationalCode) (mid.students.eq_of_key_eq mem' before same))
  have ofUpdated : ∀ {profile data changes}, Updates db mid profile data changes →
      ((∃ p' ∈ mid.students.rows, p'.id = p.id ∧ p'.nationalCode ≠ p.nationalCode) ↔
        profile = p ∧ ∃ code, changes.nationalCode = some code ∧ code ≠ p.nationalCode) := by
    intro profile data changes updated
    have known : db.students.find? profile.id = some profile := find?_key _ updated.found
    constructor
    · rintro ⟨p', mem', same, differ⟩
      rcases (mem_update updated.students).mp mem' with ⟨before, -⟩ | ⟨row, found, rfl⟩
      · exact absurd (congrArg (·.nationalCode) (db.students.eq_of_key_eq before mem same)) differ
      · cases known.symm.trans found
        obtain rfl : profile = p := db.students.eq_of_key_eq updated.found mem same
        cases written : changes.nationalCode with
        | none => exact absurd (by simp [StudentUpdate.apply, written]) differ
        | some code =>
          refine ⟨rfl, code, rfl, ?_⟩
          simpa [StudentUpdate.apply, written] using differ
    · rintro ⟨rfl, code, written, differ⟩
      refine ⟨changes.apply profile, (mem_update updated.students).mpr
        (.inr ⟨profile, known, rfl⟩), rfl, ?_⟩
      simpa [StudentUpdate.apply, written] using differ
  cases move with
  | create dto env =>
    obtain ⟨user, created, -⟩ := createStudentAccount_ok recorded
    exact iff_of_false (ofCreated created) id
  | update studentId dto env =>
    obtain ⟨profile, user, found, -, updated, -⟩ := updateStudentAccount_ok recorded
    rw [ofUpdated updated]
    change _ ↔ findStudent A db.toTables studentId = some p ∧ _
    rw [found, Option.some.injEq]
    exact Iff.rfl
  | row item env =>
    rcases importAccount_ok recorded with
      ⟨profile, user, data, changes, existing, updated, -, -, -, code, -, -⟩ |
      ⟨missing, user, created, -⟩
    · rw [ofUpdated updated, code]
      change _ ↔ (∃ user, item.existing x A env db.toTables = some (p, user)) ∧ _
      rw [existing]
      simp
    · refine iff_of_false (ofCreated created) ?_
      rintro ⟨⟨user, existing⟩, -⟩
      exact absurd (missing.symm.trans existing) (by simp)

/-- Users who were there have the password and the role they had. -/
theorem record_user {u : User}
    (mem : u ∈ db.users.rows) : ∃ u' ∈ mid.users.rows, u'.id = u.id ∧
      u'.passwordHash = u.passwordHash ∧ u'.role = u.role := by
  rcases record_cases recorded with ⟨user, created⟩ | ⟨profile, data, changes, updated, -⟩
  · exact ⟨u, (mem_insert created.users).mpr (.inl mem), rfl, rfl, rfl⟩
  · obtain ⟨u', mem', sameId, -, -, passwordHash, role⟩ := updated.user mem
    exact ⟨u', mem', sameId, passwordHash, role⟩

/-- Nobody gets a profile or a link when the student is recorded. -/
theorem record_families :
    mid.parents = db.parents ∧ mid.links = db.links := by
  rcases record_cases recorded with ⟨user, created⟩ | ⟨profile, data, changes, updated, -⟩
  · rw [created.tables]
    exact ⟨rfl, rfl⟩
  · rw [updated.tables]
    exact ⟨rfl, rfl⟩

end

theorem record_encrypted {u : User} (mem : u ∈ s.db.users.rows) :
    move.encrypted x encrypt A s u.id = s.encryptedPassword u.id := by
  have old : u.id ≠ s.db.users.fresh := (s.db.users.key_lt_fresh mem).ne
  cases move with
  | create dto env => exact Function.update_of_ne old ..
  | update studentId dto env => rfl
  | row item env =>
    unfold Transaction.encrypted
    dsimp only
    cases item.existing x A env s.db.toTables with
    | some existing => rfl
    | none => exact Function.update_of_ne old ..

/-! ### The parents get their account -/

variable {start : Tables}

theorem exempt_iff (recorded : move.record x A s.db = .ok (mid, sync))
    (students : next.db.students = mid.students) {u : User} :
    Exempt ⟨s, move, next⟩ u ↔ u.role = .parent ∧ ∃ p ∈ s.db.students.rows,
      LinkedTo s.db.toTables p u.id ∧ CodeChanges x A s.db p move := by
  unfold Exempt
  dsimp only
  rw [students]
  refine and_congr_right fun _ => exists_congr fun p => and_congr_right fun mem => ?_
  rw [codeChanges_iff recorded mem]

/-- The passwords of one account are written. -/
theorem passwords_iff {k : Id} {data : UserUpdate} {password : String}
    (recorded : move.record x A s.db = .ok (mid, sync))
    (students : next.db.students = mid.students)
    (updated : mid.users.update k data.apply data.key_apply = some next.db.users)
    (written : data.passwordHash = some (x.hash move.env.draws.parentSeed password))
    (encrypted : next.encryptedPassword = Function.update (move.encrypted x encrypt A s) k
      (truthy (encrypt move.env.draws.parentSeed password) <|> move.encrypted x encrypt A s k)) :
    (∀ u ∈ s.db.users.rows, start.users.has (some u.id) = true → ∀ u' ∈ next.db.users.rows,
      u'.id = u.id → u'.passwordHash = u.passwordHash ∧
        next.encryptedPassword u.id = s.encryptedPassword u.id ∨ Exempt ⟨s, move, next⟩ u) ↔
      ∀ u ∈ s.db.users.rows, u.id = k → Spares x encrypt A start s move password u := by
  constructor
  · intro keeps u mem isOne old
    obtain ⟨before, memBefore, sameId, -, -⟩ := record_user recorded mem
    have found : mid.users.find? k = some before :=
      (sameId.trans isOne) ▸ find?_key mid.users memBefore
    have after : data.apply before ∈ next.db.users.rows :=
      (mem_update updated).mpr (.inr ⟨before, found, rfl⟩)
    rcases keeps u mem old _ after sameId with ⟨hash, cipher⟩ | exempt
    · refine .inl ⟨?_, fun text given => ?_⟩
      · rw [← hash]
        simp [UserUpdate.apply, written]
      · rw [← cipher, encrypted, isOne, Function.update_self, given]
        rfl
    · exact .inr ((exempt_iff recorded students).mp exempt)
  · intro spares u mem old u' mem' sameId
    obtain ⟨before, memBefore, sameBefore, hash, -⟩ := record_user recorded mem
    rcases (mem_update updated).mp mem' with ⟨known, differ⟩ | ⟨row, found, rfl⟩
    · obtain rfl : u' = before := mid.users.eq_of_key_eq known memBefore
        (sameId.trans sameBefore.symm)
      refine .inl ⟨hash, ?_⟩
      rw [encrypted, Function.update_of_ne fun isOne => differ (sameId.trans isOne)]
      exact record_encrypted mem
    · have isOne : u.id = k := sameId.symm.trans (key_of_find? found)
      rcases spares u mem isOne old with ⟨same, cipher⟩ | exempt
      · refine .inl ⟨?_, ?_⟩
        · simp [UserUpdate.apply, written, same]
        · have stays : move.encrypted x encrypt A s u.id = s.encryptedPassword u.id :=
            record_encrypted mem
          rw [isOne] at stays cipher ⊢
          rw [encrypted, Function.update_self, stays]
          cases text : truthy (encrypt move.env.draws.parentSeed password) with
          | none => rfl
          | some text' => exact (cipher text' text).symm
      · exact .inr ((exempt_iff recorded students).mpr exempt)

/-- A parent who is tied to the student. -/
theorem families_of_joins {studentId : Id} {user : User} (mem : user ∈ next.db.users.rows)
    (role : user.role = .parent) (recorded : move.record x A s.db = .ok (mid, sync))
    (joined : Joins A studentId user.id mid.toTables next.db.toTables) :
    (∀ u ∈ next.db.users.rows, u.role ≠ .parent → ∀ p ∈ next.db.parents.rows, p.userId = u.id →
      p ∈ s.db.parents.rows) ∧
    ∀ u ∈ next.db.users.rows, u.role ≠ .parent → ∀ p ∈ next.db.parents.rows, p.userId = u.id →
      ∀ l ∈ next.db.links.rows, l.parentId = p.id → l ∈ s.db.links.rows := by
  obtain ⟨parents, links⟩ := record_families recorded
  obtain ⟨parent, link, owner, profiles, -, ofParent, -, inserted⟩ := joined
  have notTheirs : ∀ u ∈ next.db.users.rows, u.role ≠ .parent → parent.userId ≠ u.id :=
    fun u memU other same => other
      (next.db.users.eq_of_key_eq memU mem (same.symm.trans owner) ▸ role)
  constructor
  · intro u memU other p memP isOwner
    rcases (profiles p).mp memP with before | rfl
    · exact parents ▸ before
    · exact absurd isOwner (notTheirs u memU other)
  · intro u memU other p memP isOwner l memL ofP
    rcases (mem_insert inserted).mp memL with before | rfl
    · exact links ▸ before
    · have isParent : p = parent := next.db.parents.eq_of_key_eq memP
        ((profiles parent).mpr (.inr rfl)) (ofP.symm.trans ofParent)
      exact absurd (isParent ▸ isOwner) (notTheirs u memU other)

/-- **Exactly the accounts that are spared are kept.** -/
theorem keepsAccounts_iff (done : move.commitAll x encrypt A s = .ok next) :
    KeepsAccounts start ⟨s, move, next⟩ ↔ SparesAccounts x encrypt A start s move := by
  obtain ⟨mid, sync, recorded, synced, encrypted⟩ := Transaction.commitAll_ok done
  obtain ⟨students, rest⟩ := syncParentForStudent_ok synced
  obtain ⟨parents, links⟩ := record_families recorded
  have only : SparesAccounts x encrypt A start s move ↔
      SparesFound x encrypt A start s move mid sync := by
    unfold SparesAccounts
    rw [recorded]
    simp
  rw [only]
  unfold SparesFound
  dsimp only
  unfold StudentSync.encrypted at encrypted
  dsimp only at encrypted
  cases account : sync.account A mid.toTables move.env.draws with
  | linked parent phone =>
    rw [account] at rest encrypted
    obtain ⟨sameParents, sameLinks, data, -, -, written, -, updated⟩ := rest
    dsimp only at encrypted ⊢
    rw [← @passwords_iff x encrypt A s next move mid sync start _ data _ recorded students updated
      written encrypted]
    constructor
    · exact (·.passwords)
    · refine fun passwords => ⟨passwords, ?_, ?_⟩
      · intro u mem other p memP owner
        change p ∈ next.db.parents.rows at memP
        rwa [sameParents, parents] at memP
      · intro u mem other p memP owner l memL ofP
        change l ∈ next.db.links.rows at memL
        rwa [sameLinks, links] at memL
  | found user =>
    rw [account] at rest encrypted
    obtain ⟨joined, data, -, written, -, updated⟩ := rest
    dsimp only at encrypted ⊢
    have spec := account_spec mid.toTables A sync move.env.draws
    rw [account] at spec
    have after : data.apply user ∈ next.db.users.rows :=
      (mem_update updated).mpr (.inr ⟨user, find?_key _ spec.2, rfl⟩)
    rw [← @passwords_iff x encrypt A s next move mid sync start _ data _ recorded students updated
      written encrypted]
    constructor
    · refine fun keeps => ⟨?_, keeps.passwords⟩
      by_contra other
      -- The link is new.
      obtain ⟨parent, link, owner, profiles, -, ofParent, -, inserted⟩ := joined
      have known := keeps.links _ after other parent ((profiles parent).mpr (.inr rfl)) owner link
        ((mem_insert inserted).mpr (.inr rfl)) ofParent
      exact (insert_spec.mp inserted).2.1 link (links.symm ▸ known) rfl
    · rintro ⟨role, passwords⟩
      obtain ⟨profiles, ties⟩ := families_of_joins after role recorded joined
      exact ⟨passwords, profiles, ties⟩
  | new phone =>
    rw [account] at rest encrypted
    obtain ⟨user, joined, role, -, -, inserted⟩ := rest
    refine iff_of_true ?_ trivial
    have memUser : user ∈ next.db.users.rows := (mem_insert inserted).mpr (.inr rfl)
    obtain ⟨profiles, ties⟩ := families_of_joins memUser role recorded joined
    refine ⟨fun u mem _ u' mem' sameId => .inl ?_, profiles, ties⟩
    obtain ⟨before, memBefore, sameBefore, hash, -⟩ := record_user recorded mem
    rcases (mem_insert inserted).mp mem' with known | rfl
    · obtain rfl : u' = before := mid.users.eq_of_key_eq known memBefore
        (sameId.trans sameBefore.symm)
      refine ⟨hash, ?_⟩
      have old : u.id ≠ mid.users.fresh := by
        rw [← sameBefore]
        exact (mid.users.key_lt_fresh memBefore).ne
      change next.encryptedPassword u.id = _
      rw [encrypted]
      exact (Function.update_of_ne old ..).trans (record_encrypted mem)
    · exact absurd (sameBefore.trans sameId.symm)
        ((insert_spec.mp inserted).2.1 before memBefore)

end

/-- **Whose passwords a call writes.** In every transaction of a call that goes through the users who
were there before the call keep their passwords, but for the parent of a student whose code changes,
and only parents get a parent profile or a link: exactly if every account the parents are found by is
spared. -/
theorem accounts_kept_iff (x : MemberHost) (encrypt : ℕ → String → Option String) (A : Id)
    (s : Accounts) (call : StudentCall) :
    (∀ c ∈ call.commits x encrypt A s, KeepsAccounts s.db.toTables c) ↔
      ∀ c ∈ call.commits x encrypt A s, SparesAccounts x encrypt A s.db.toTables c.before c.move :=
  forall₂_congr fun _ mem => keepsAccounts_iff (commitAll_of_mem mem)

namespace Elder

def father : User :=
  { id := 1, tenantId := 7, phone := some "09121234567", username := some "p99887766",
    passwordHash := "hash of his own", firstName := "رضا", lastName := "راد", role := .parent }

/-- A parent is known to the school, and has chosen a password. -/
def known : Accounts where
  db :=
    { tenants := Register.tenants
      users := ⟨[father], by decide +kernel, by decide +kernel⟩
      foreignKeys := by constructor <;> decide +kernel }
  encryptedPassword _ := none

def call : StudentCall := .createStudent Siblings.mina Register.env

/-- Hashes and ciphers show what is drawn for them. -/
def host : MemberHost :=
  { Register.host with hash := fun salt password => toString salt ++ " " ++ password }

def encrypt (padding : ℕ) (password : String) : Option String :=
  some (password ++ toString padding)

/-- A student and the parents, as they were recorded. -/
def family : Accounts :=
  match (Transaction.create Siblings.mina Register.env).commitAll host encrypt 7
    ⟨Register.noStudents, fun _ => none⟩ with
  | .ok recorded => recorded
  | .error _ => known

def corrected : StudentCall := .updateStudent 1 { firstName := some "مینو" }
  { draws := { now := 2000, studentCode := 10000000, parentSeed := 5 } }

end Elder

/-- A password is written though no code changes. -/
def Rewrites (start : Tables) (c : Commit) : Prop :=
  (∃ u ∈ c.before.db.users.rows, start.users.has (some u.id) = true ∧
    ∃ u' ∈ c.after.db.users.rows, u'.id = u.id ∧ u'.passwordHash ≠ u.passwordHash) ∧
  ∀ p ∈ c.before.db.students.rows, ∀ p' ∈ c.after.db.students.rows, p'.id = p.id →
    p'.nationalCode = p.nationalCode
deriving Decidable

theorem Rewrites.not_keeps {start : Tables} {c : Commit} (rewrites : Rewrites start c) :
    ¬ KeepsAccounts start c := by
  intro keeps
  obtain ⟨⟨u, memU, old, u', memU', sameId, differ⟩, codes⟩ := rewrites
  rcases keeps.passwords u memU old u' memU' sameId with ⟨same, -⟩ | ⟨-, p, memP, -, p', memP', at'⟩
  · exact differ same
  · exact at'.2 (codes p memP p' memP' at'.1)

/-- A child is recorded with his phone, and his password is another; the first name of a student is
corrected, and the password of the parents, which is the same, is stored as another. -/
theorem not_accounts_kept :
    (¬ ∀ c ∈ Elder.call.commits Register.host (fun _ _ => none) 7 Elder.known,
      KeepsAccounts Elder.known.db.toTables c) ∧
    ¬ ∀ c ∈ Elder.corrected.commits Elder.host Elder.encrypt 7 Elder.family,
      KeepsAccounts Elder.family.db.toTables c := by
  have recorded : ∃ c ∈ Elder.call.commits Register.host (fun _ _ => none) 7 Elder.known,
      Rewrites Elder.known.db.toTables c := by
    decide +kernel
  have renamed : ∃ c ∈ Elder.corrected.commits Elder.host Elder.encrypt 7 Elder.family,
      Rewrites Elder.family.db.toTables c := by
    decide +kernel
  constructor <;> intro keeps
  · obtain ⟨c, mem, rewrites⟩ := recorded
    exact rewrites.not_keeps (keeps c mem)
  · obtain ⟨c, mem, rewrites⟩ := renamed
    exact rewrites.not_keeps (keeps c mem)

end Rokad.Members
