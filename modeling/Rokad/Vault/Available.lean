import Rokad.Vault.Service

/-!
# A vault that someone can open

Calls on the vault of one school run interleaved, statement by statement. The vault is available
while a key that a caller passed or was told opens it, and with it every password written into it.

That stays so as long as the vault is initialised by a call that leaves its key with someone, and
once only (`available_of_fits`). A school's registration does not leave it: it seals the private key
under a random key and drops the key (`not_available`).
-/

namespace Rokad.Vault

open Rokad.Base
open Rokad.Common (Id)

section

variable {ι : Type} [DecidableEq ι] (lower : String → String)

/-- The calls in progress over the school's rows. -/
def start (db : Db) (calls : ι → Call) : Threads Db (VaultProg Unit) ι :=
  ⟨db, fun i => (calls i).program lower db.tenant⟩

abbrev vaultStep : Threads Db (VaultProg Unit) ι → Move ι Unit Empty →
    Threads Db (VaultProg Unit) ι :=
  Prog.moveStep exec fun db _ => db

/-- A school whose vault no call has touched. -/
structure Fresh (db : Db) : Prop where
  ids : (db.users.map User.id).Nodup
  vault : db.vault = {}
  users : ∀ user ∈ db.users, user.encryptedPassword = none

/-- The key was passed to the setup that last succeeded, or returned to a caller. -/
def Db.Known (db : Db) (key : String) : Prop := db.passed = some key ∨ key ∈ db.told

/-- If the vault is initialised, a known key reveals every password that was written into it. -/
def Available (db : Db) : Prop :=
  db.vault ≠ {} → ∃ key, db.Known key ∧ ∀ user ∈ db.users, user.encryptedPassword.isSome →
    Returns (revealPassword lower db user.id key) fun _ => True

/-- If the call initialises the vault, it leaves the key it seals under with someone: the caller's
own key, as the caller has it, or a key the call returns. -/
def Call.LeavesKey : Call → Prop
  | .setupMasterKey _ newMasterKey _ _ => newMasterKey ≠ "" ∧ trim newMasterKey = newMasterKey
  | .ensureTenantVault _ initialMasterKey => truthy initialMasterKey = none
  | _ => False

instance (call : Call) : Decidable call.LeavesKey := by
  cases call <;> unfold Call.LeavesKey <;> infer_instance

/-- A call that initialises the vault leaves its key and writes over no other; a setup that finds it
initialised brings the key it was initialised under, unless that key was returned to someone. -/
def Op.Fits (db : Db) (call : Call) : Op → Prop
  | .writeVault .. => db.vault = {} ∧ call.LeavesKey
  | .succeed (.passed key) => ∀ hash ∈ db.vault.keyHash, hash.text = key ∨ hash.text ∈ db.told
  | _ => True

instance (db : Db) (call : Call) (op : Op) : Decidable (op.Fits db call) := by
  unfold Op.Fits
  split <;> infer_instance

def Fits (calls : ι → Call) (p : Threads Db (VaultProg Unit) ι) : Move ι Unit Empty → Prop
  | .thread i _ =>
    match p.own i with
    | .step op _ => op.Fits p.shared (calls i)
    | .ret _ => True
  | .world e => e.elim

instance (calls : ι → Call) (p : Threads Db (VaultProg Unit) ι) (move : Move ι Unit Empty) :
    Decidable (Fits calls p move) :=
  match move with
  | .thread i _ => by
    unfold Fits
    dsimp only
    split <;> infer_instance
  | .world e => e.elim

end

/-! ### What a call may do -/

/-- A vault initialised with the pair, under the key. -/
def TenantVault.of (pair : KeyPair) (key : String) (salt : ℕ) : TenantVault :=
  ⟨some pair, some (encryptPrivateKey pair (deriveAesKey key salt)), some salt, some ⟨key⟩⟩

/-- The vault is not initialised, or with this pair. -/
def TenantVault.Admits (vault : TenantVault) (pair : KeyPair) : Prop :=
  vault = {} ∨ ∃ key salt, vault = .of pair key salt

/-- What operations answer while no pair but this one is in the vault. -/
def Answers (pair : KeyPair) : (op : Op) → op.Answer → Prop
  | .readTenant, vault => vault.Admits pair
  | .writeVault publicKey .., _ => publicKey = pair
  | _, _ => True

/-- A call writes under the pair that is in the vault, and seals the pair under a key it leaves with
someone. -/
def Op.Right (call : Call) (pair : KeyPair) : Op → Prop
  | .writeVault publicKey sealed salt hash account =>
    call.LeavesKey → sealed = encryptPrivateKey publicKey (deriveAesKey hash.text salt) ∧
      (account = .passed hash.text ∨ account = .told hash.text)
  | .changeKey sealed salt hash account =>
    sealed = encryptPrivateKey pair (deriveAesKey hash.text salt) ∧ account = .passed hash.text
  | .savePassword _ cipher => cipher.publicKey = pair
  | _ => True

abbrev Behaves {α : Type} (call : Call) (pair : KeyPair) (Q : α → Prop) (p : VaultProg α) : Prop :=
  p.Meets (Answers pair) (Op.Right call pair) fun r => ∀ a, r = .ok a → Q a

section

variable {call : Call} {pair : KeyPair} {α β : Type} {Q : α → Prop} {Q' : β → Prop}

theorem behaves_pure {a : α} (met : Q a) : Behaves call pair Q (pure a) := by
  rintro _ ⟨⟩
  exact met

theorem behaves_ret {r : Result α} (met : ∀ a, r = .ok a → Q a) :
    Behaves call pair Q (Prog.ret r) := met

theorem Behaves.bind {p : VaultProg α} {f : α → VaultProg β} (first : Behaves call pair Q p)
    (second : ∀ a, Q a → Behaves call pair Q' (f a)) : Behaves call pair Q' (p >>= f) :=
  Prog.Meets.bind first (fun _ _ h => nomatch h) fun a met => second a (met a rfl)

theorem behaves_query {op : Op} {f : op.Answer → VaultProg α} (right : op.Right call pair)
    (rest : ∀ r, Answers pair op r → Behaves call pair Q (f r)) :
    Behaves call pair Q (query op >>= f) := ⟨right, rest⟩

/-- The reading of the vault finds it empty, or initialised with the pair. -/
theorem behaves_read {f : TenantVault → VaultProg α} (empty : Behaves call pair Q (f {}))
    (found : ∀ key salt, Behaves call pair Q (f (.of pair key salt))) :
    Behaves call pair Q (query .readTenant >>= f) := by
  refine behaves_query trivial ?_
  rintro _ (rfl | ⟨key, salt, rfl⟩)
  · exact empty
  · exact found key salt

theorem ensureTenantVault_behaves {draw : Draw} {initialMasterKey : Option String}
    {account : String → Account} {found : Account}
    (leaves : call.LeavesKey → account (draw.initialKey initialMasterKey) =
        .passed (draw.initialKey initialMasterKey) ∨
      account (draw.initialKey initialMasterKey) = .told (draw.initialKey initialMasterKey)) :
    Behaves call pair (fun ensured => ensured.publicKey = pair)
      (ensureTenantVault draw initialMasterKey account found) := by
  refine behaves_read ?_ fun key salt => ?_
  · exact behaves_query (fun keeps => ⟨rfl, leaves keeps⟩) fun _ same => behaves_pure same
  · exact behaves_query trivial fun _ _ => behaves_pure rfl

theorem encryptWithPublicKey_own {publicKey : KeyPair} {plaintext : String} {cipher : Cipher}
    (encrypted : encryptWithPublicKey publicKey plaintext = .ok cipher) :
    cipher = ⟨publicKey, plaintext⟩ ∧ plaintext.utf8ByteSize ≤ 190 := by
  unfold encryptWithPublicKey at encrypted
  split at encrypted
  · rename_i fits
    exact ⟨(Except.ok.inj encrypted).symm, fits⟩
  · cases encrypted

theorem storePassword_behaves (lost : ¬ call.LeavesKey) (draw : Draw) (userId : Id)
    (plaintext : String) :
    Behaves call pair (fun _ => True) (storePassword draw userId plaintext) := by
  have encrypted : Behaves call pair (fun c => ∀ cipher ∈ c, cipher.publicKey = pair)
      (encryptPasswordForTenant draw plaintext) := by
    have own : ∀ cipher ∈ (encryptWithPublicKey pair plaintext).toOption,
        cipher.publicKey = pair := by
      intro cipher given
      cases encrypted : encryptWithPublicKey pair plaintext with
      | error e => simp [encrypted, Except.toOption] at given
      | ok made =>
        obtain rfl : made = cipher := by simpa [encrypted, Except.toOption] using given
        rw [(encryptWithPublicKey_own encrypted).1]
    unfold encryptPasswordForTenant
    split
    · exact behaves_pure (by simp)
    · refine behaves_read ?_ fun key salt => behaves_pure own
      refine (ensureTenantVault_behaves fun keeps => absurd keeps lost).bind ?_
      rintro ensured rfl
      exact behaves_pure own
  refine encrypted.bind fun c right => ?_
  cases c with
  | none => exact behaves_pure trivial
  | some cipher => exact behaves_query (right cipher rfl) fun _ _ => behaves_pure trivial

theorem backfillUsers_behaves (lower : String → String) (tenant : Auth.Tenant)
    (report : BackfillReport) (users : List User) :
    Behaves call pair (fun _ => True) (backfillUsers lower tenant pair report users) := by
  induction users generalizing report with
  | nil => exact behaves_pure trivial
  | cons user users ih =>
    unfold backfillUsers
    split
    · exact ih _
    · split
      · refine (behaves_ret (Q := fun cipher : Cipher => cipher.publicKey = pair)
          fun cipher encrypted => ?_).bind fun cipher own => ?_
        · rw [(encryptWithPublicKey_own encrypted).1]
        · exact behaves_query own fun _ _ => ih _
      · exact ih _

theorem backfillTenantPasswords_behaves (lost : ¬ call.LeavesKey) (lower : String → String)
    (draw : Draw) (tenant : Auth.Tenant) :
    Behaves call pair (fun _ => True) (backfillTenantPasswords lower draw tenant) := by
  refine behaves_query trivial fun _ _ => ?_
  refine (ensureTenantVault_behaves fun keeps => absurd keeps lost).bind ?_
  rintro ensured rfl
  exact behaves_query trivial fun users _ => backfillUsers_behaves lower tenant _ users

/-- The private key that was opened is the vault's. -/
theorem openPrivateKey_of {key : String} {salt : ℕ} {currentMasterKey : Option String}
    {privateKey : KeyPair}
    (opened : setupMasterKey.openPrivateKey (.of pair key salt)
      (encryptPrivateKey pair (deriveAesKey key salt)) currentMasterKey = .ok privateKey) :
    privateKey = pair := by
  unfold setupMasterKey.openPrivateKey at opened
  split at opened
  · unfold decryptPrivateKey at opened
    split at opened
    · exact (Except.ok.inj opened).symm
    · cases opened
  · cases opened

theorem setupMasterKey_behaves {draw : Draw} {newMasterKey : String}
    {currentMasterKey : Option String} {isPlatformAdmin : Bool} :
    Behaves (.setupMasterKey draw newMasterKey currentMasterKey isPlatformAdmin) pair
      (fun _ => True) (setupMasterKey draw newMasterKey currentMasterKey isPlatformAdmin) := by
  refine behaves_read ?_ fun key salt => ?_
  · refine (ensureTenantVault_behaves ?_).bind fun _ _ => behaves_pure trivial
    rintro ⟨nonempty, trimmed⟩
    have kept : draw.initialKey (some newMasterKey) = newMasterKey := by
      simp [Draw.initialKey, truthy, trimmed, nonempty]
    exact Or.inl (by rw [kept])
  · refine (behaves_ret fun _ _ => trivial).bind (Q := fun _ => True) fun _ _ => ?_
    refine (behaves_ret fun _ => openPrivateKey_of).bind ?_
    rintro privateKey rfl
    exact behaves_query ⟨rfl, rfl⟩ fun _ _ => behaves_pure trivial

/-- A call does its part, whatever its inputs. -/
theorem program_behaves (lower : String → String) (tenant : Auth.Tenant) (call : Call) :
    Behaves call pair (fun _ => True) (call.program lower tenant) := by
  cases call with
  | registerSchool draw adminId adminPassword => exact storePassword_behaves id _ _ _
  | encryptPasswordForTenant draw userId plaintext => exact storePassword_behaves id _ _ _
  | backfillTenantPasswords draw =>
    exact (backfillTenantPasswords_behaves id lower draw tenant).bind
      fun _ _ => behaves_pure trivial
  | setupMasterKey draw newMasterKey currentMasterKey isPlatformAdmin =>
    exact setupMasterKey_behaves
  | ensureTenantVault draw initialMasterKey =>
    refine (ensureTenantVault_behaves fun keeps => ?_).bind fun _ _ => behaves_pure trivial
    simp only [Call.LeavesKey] at keeps
    simp [keeps]

end

/-! ### The invariant -/

/-- Someone knows the key of the vault, and all that was written into it is under its pair. -/
structure Kept (db : Db) (pair : KeyPair) (key : String) (salt : ℕ) : Prop where
  vault : db.vault = .of pair key salt
  known : db.Known key
  users : ∀ user ∈ db.users, ∀ cipher ∈ user.encryptedPassword, cipher.publicKey = pair

structure Sound (db : Db) : Prop where
  ids : (db.users.map User.id).Nodup
  state : (db.vault = {} ∧ ∀ user ∈ db.users, user.encryptedPassword = none) ∨
    ∃ pair key salt, Kept db pair key salt

/-- A call in progress still does its part, for every pair that may be in the vault. -/
def InPart (db : Db) (call : Call) (p : VaultProg Unit) : Prop :=
  ∀ pair, db.vault.Admits pair → Behaves call pair (fun _ => True) p

section

variable {db : Db}

theorem of_ne_empty {pair : KeyPair} {key : String} {salt : ℕ} :
    TenantVault.of pair key salt ≠ {} := by
  rintro ⟨⟩

/-- An initialised vault admits its own pair only. -/
theorem Kept.admits {pair other : KeyPair} {key : String} {salt : ℕ} (kept : Kept db pair key salt)
    (admits : db.vault.Admits other) : other = pair := by
  rw [kept.vault] at admits
  rcases admits with empty | ⟨key', salt', same⟩
  · exact absurd empty of_ne_empty
  · exact (Option.some.inj (congrArg TenantVault.publicKey same)).symm

theorem Kept.own {pair : KeyPair} {key : String} {salt : ℕ} (kept : Kept db pair key salt) :
    db.vault.Admits pair := Or.inr ⟨key, salt, kept.vault⟩

/-- A vault for which one pair only would be right has that pair in it. -/
theorem Sound.kept_of_one (sound : Sound db) {X : KeyPair → Prop}
    (right : ∀ pair, db.vault.Admits pair → X pair)
    (one : ∀ pair other, X pair → X other → pair = other) :
    ∃ pair key salt, Kept db pair key salt ∧ X pair := by
  obtain ⟨empty, _⟩ | ⟨pair, key, salt, kept⟩ := sound.state
  · have same := one ⟨0⟩ ⟨1⟩ (right _ (Or.inl empty)) (right _ (Or.inl empty))
    simp at same
  · exact ⟨pair, key, salt, kept, right pair kept.own⟩

theorem Sound.find (sound : Sound db) {user : User} (mem : user ∈ db.users) :
    db.users.find? (·.id = user.id) = some user := by
  cases found : db.users.find? (·.id = user.id) with
  | none => simpa using List.find?_eq_none.mp found user mem
  | some other =>
    have same : other.id = user.id := by simpa using List.find?_some found
    rw [List.inj_on_of_nodup_map sound.ids (List.mem_of_find?_eq_some found) mem same]

theorem Kept.reveals {pair : KeyPair} {key : String} {salt : ℕ} (kept : Kept db pair key salt)
    (lower : String → String) {user : User} {cipher : Cipher}
    (found : db.users.find? (·.id = user.id) = some user)
    (stored : user.encryptedPassword = some cipher) (own : cipher.publicKey = pair) :
    revealPassword lower db user.id key = .ok (cipher.plaintext, cipher) := by
  simp [revealPassword, openCopy, ciphertextOf, found, kept.vault, TenantVault.of, Argon2.verify,
    stored, decryptPrivateKey, encryptPrivateKey, decryptWithPrivateKey, own]

theorem Sound.available (sound : Sound db) (lower : String → String) : Available lower db := by
  intro initialised
  obtain ⟨empty, _⟩ | ⟨pair, key, salt, kept⟩ := sound.state
  · exact absurd empty initialised
  refine ⟨key, kept.known, fun user mem written => ?_⟩
  obtain ⟨cipher, stored⟩ := Option.isSome_iff_exists.mp written
  rw [kept.reveals lower (sound.find mem) stored (kept.users user mem cipher stored)]
  trivial

end

/-! ### Steps and runs -/

section

/-- What one operation leaves: sound rows, and no pair in the vault that was not allowed there. -/
structure Leaves (db db' : Db) : Prop where
  sound : Sound db'
  admits : ∀ pair, db'.vault.Admits pair → db.vault.Admits pair

variable {db : Db} {call : Call}

@[simp] theorem succeed_vault (account : Account) : (db.succeed account).vault = db.vault := by
  cases account <;> rfl

@[simp] theorem succeed_users (account : Account) : (db.succeed account).users = db.users := by
  cases account <;> rfl

/-- A call that has a key written leaves its caller with it. -/
theorem known_succeed {key : String} {account : Account}
    (leaves : account = .passed key ∨ account = .told key) : (db.succeed account).Known key := by
  rcases leaves with rfl | rfl
  · exact Or.inl rfl
  · exact Or.inr List.mem_cons_self

section

variable (sound : Sound db)
include sound

theorem writeVault_leaves {publicKey : KeyPair} {sealed : SealedKey} {salt : ℕ}
    {hash : Argon2} {account : Account} (empty : db.vault = {})
    (seals : sealed = encryptPrivateKey publicKey (deriveAesKey hash.text salt))
    (leaves : account = .passed hash.text ∨ account = .told hash.text) :
    Leaves db (exec (.writeVault publicKey sealed salt hash account) db).1 := by
  have unwritten : ∀ user ∈ db.users, user.encryptedPassword = none := by
    obtain ⟨_, unwritten⟩ | ⟨_, _, _, kept⟩ := sound.state
    · exact unwritten
    · exact absurd (kept.vault.symm.trans empty) of_ne_empty
  refine ⟨⟨by simpa [exec] using sound.ids, Or.inr ⟨publicKey, hash.text, salt, ?_⟩⟩,
    fun pair _ => Or.inl empty⟩
  refine ⟨by simp [exec, TenantVault.of, seals], known_succeed leaves, ?_⟩
  intro user mem cipher stored
  rw [unwritten user (by simpa [exec] using mem)] at stored
  cases stored

theorem changeKey_leaves {sealed : SealedKey} {salt : ℕ} {hash : Argon2}
    {account : Account} (right : ∀ pair, db.vault.Admits pair →
      sealed = encryptPrivateKey pair (deriveAesKey hash.text salt) ∧ account = .passed hash.text) :
    Leaves db (exec (.changeKey sealed salt hash account) db).1 := by
  obtain ⟨pair, key, old, kept, rfl, rfl⟩ := sound.kept_of_one right fun pair other first second =>
    congrArg SealedKey.privateKey (first.1.symm.trans second.1)
  have changed : Kept (exec (.changeKey (encryptPrivateKey pair (deriveAesKey hash.text salt)) salt
      hash (.passed hash.text)) db).1 pair hash.text salt :=
    ⟨by simp [exec, kept.vault, TenantVault.of], Or.inl rfl, kept.users⟩
  refine ⟨⟨sound.ids, Or.inr ⟨_, _, _, changed⟩⟩, fun other admits => ?_⟩
  rw [changed.admits admits]
  exact kept.own

theorem savePassword_leaves (userId : Id) {cipher : Cipher}
    (right : ∀ pair, db.vault.Admits pair → cipher.publicKey = pair) :
    Leaves db (exec (.savePassword userId cipher) db).1 := by
  obtain ⟨pair, key, salt, kept, own⟩ := sound.kept_of_one right fun _ _ first second =>
    first.symm.trans second
  refine ⟨⟨?_, Or.inr ⟨pair, key, salt, kept.vault, kept.known, ?_⟩⟩, fun _ admits => admits⟩
  · have ids : (User.id ∘ fun u : User =>
        if u.id = userId then { u with encryptedPassword := some cipher } else u) = User.id := by
      funext u
      simp only [Function.comp_apply]
      split <;> rfl
    simpa [exec, ids] using sound.ids
  · intro user mem stored written
    obtain ⟨before, was, rfl⟩ := List.mem_map.mp mem
    split at written
    · cases written
      exact own
    · exact kept.users before was stored written

theorem succeed_leaves {account : Account}
    (fits : (Op.succeed account).Fits db call) : Leaves db (exec (.succeed account) db).1 := by
  refine ⟨⟨by simpa [exec] using sound.ids, ?_⟩, fun pair => by simp [exec]⟩
  obtain ⟨empty, unwritten⟩ | ⟨pair, key, salt, kept⟩ := sound.state
  · exact Or.inl ⟨by simpa [exec] using empty, by simpa [exec] using unwritten⟩
  refine Or.inr ⟨pair, key, salt, by simpa [exec] using kept.vault, ?_,
    by simpa [exec] using kept.users⟩
  cases account with
  | nothing => exact kept.known
  | told other => exact kept.known.imp id (List.mem_cons_of_mem _)
  | passed other =>
    have brought : key = other ∨ key ∈ db.told := fits ⟨key⟩ (by simp [kept.vault, TenantVault.of])
    exact brought.imp (fun same => by rw [same]; rfl) id

/-- One operation of a call that does its part keeps the rows sound and the call in its part. -/
theorem exec_leaves {op : Op} {next : op.Answer → VaultProg Unit}
    (part : InPart db call (.step op next)) (fits : op.Fits db call) :
    Leaves db (exec op db).1 ∧ InPart (exec op db).1 call (next (exec op db).2) := by
  cases op with
  | readTenant => exact ⟨⟨sound, fun _ => id⟩, fun pair admits => (part pair admits).2 _ admits⟩
  | readUsers => exact ⟨⟨sound, fun _ => id⟩, fun pair admits => (part pair admits).2 _ trivial⟩
  | writeVault publicKey sealed salt hash account =>
    obtain ⟨empty, keeps⟩ := fits
    obtain ⟨seals, leaves⟩ := (part publicKey (Or.inl empty)).1 keeps
    refine ⟨writeVault_leaves sound empty seals leaves, fun pair admits => ?_⟩
    have same : publicKey = pair := by
      simp only [exec, succeed_vault] at admits
      rcases admits with none | ⟨key, salt', same⟩
      · cases none
      · exact Option.some.inj (congrArg TenantVault.publicKey same)
    exact (part pair (Or.inl empty)).2 _ same
  | changeKey sealed salt hash account =>
    have leaves := changeKey_leaves sound fun pair admits => (part pair admits).1
    exact ⟨leaves, fun pair admits => (part pair (leaves.admits pair admits)).2 _ trivial⟩
  | savePassword userId cipher =>
    have leaves := savePassword_leaves sound userId fun pair admits => (part pair admits).1
    exact ⟨leaves, fun pair admits => (part pair (leaves.admits pair admits)).2 _ trivial⟩
  | succeed account =>
    have leaves := succeed_leaves sound fits
    exact ⟨leaves, fun pair admits => (part pair (leaves.admits pair admits)).2 _ trivial⟩

end

end

section

variable {ι : Type} [DecidableEq ι] {db : Db} {calls : ι → Call} {moves : List (Move ι Unit Empty)}

/-- The rows stay sound and every call does its part, in every interleaving that fits. -/
theorem run_sound (lower : String → String) (fresh : Fresh db)
    (fits : Along vaultStep (Fits calls) (start lower db calls) moves) :
    Sound (run vaultStep (start lower db calls) moves).shared := by
  have start : Sound (start lower db calls).shared ∧
      ∀ i, InPart (start lower db calls).shared (calls i) ((start lower db calls).own i) :=
    ⟨⟨fresh.ids, Or.inl ⟨fresh.vault, fresh.users⟩⟩, fun i pair _ =>
      program_behaves lower db.tenant (calls i)⟩
  refine (Threads.invariant Sound (fun db i p => InPart db (calls i) p) ?_ (fun _ e => e.elim)
    start fits).1
  intro p i _ fits sound parts
  have part := parts i
  simp only [Fits] at fits
  cases own : p.own i with
  | ret r =>
    rw [own] at part
    exact ⟨sound, part, fun j _ => parts j⟩
  | step op next =>
    rw [own] at part fits
    obtain ⟨leaves, rest⟩ := exec_leaves sound part fits
    exact ⟨leaves.sound, rest, fun j _ pair admits => parts j pair (leaves.admits pair admits)⟩

theorem available_of_fits (lower : String → String) (fresh : Fresh db)
    (fits : Along vaultStep (Fits calls) (start lower db calls) moves) :
    Available lower (run vaultStep (start lower db calls) moves).shared :=
  (run_sound lower fresh fits).available lower

end

def school : Auth.Tenant := { id := 7, name := "هنرستان رکاد", slug := "rokad-boys" }

def firstDb : Db :=
  { tenant := school
    users := [{ id := 1, phone := some "09121111111", passwordHash := ⟨"Admin-1404"⟩ },
      { id := 2, nationalId := some "0012345678", passwordHash := ⟨"b12345678"⟩ }] }

def draw : Draw := { pair := ⟨1⟩, salt := 1, masterKey := "RokadVault@1A2B3C4D" }

/-- The vault is set up, a password is written, and the key is changed. -/
def inOrder : ℕ → Call
  | 0 => .setupMasterKey draw "Rokad-1404" none false
  | 1 => .encryptPasswordForTenant draw 2 "b12345678"
  | _ => .setupMasterKey { draw with salt := 2 } "Rokad-1405" (some "Rokad-1404") false

def inOrderMoves : List (Move ℕ Unit Empty) :=
  [0, 0, 0, 1, 1, 2, 2].map fun i => .thread i ()

/-- The key of the last setup reveals the password. -/
theorem available_of_fits_changed :
    Available id (run vaultStep (start id firstDb inOrder) inOrderMoves).shared ∧
      (run vaultStep (start id firstDb inOrder) inOrderMoves).shared.passed = some "Rokad-1405" ∧
      (run vaultStep (start id firstDb inOrder) inOrderMoves).shared.users.map
        User.encryptedPassword = [none, some ⟨⟨1⟩, "b12345678"⟩] :=
  ⟨available_of_fits id ⟨by decide, by decide +kernel, by decide +kernel⟩ (by decide +kernel),
    by decide +kernel, by decide +kernel⟩

def registration : Unit → Call := fun _ => .registerSchool draw 1 "Admin-1404"

def registrationMoves : List (Move Unit Unit Empty) := List.replicate 4 (.thread () ())

/-- After its registration a school's vault is under a key that no one has. -/
theorem not_available :
    ¬ Available id (run vaultStep (start id firstDb registration) registrationMoves).shared := by
  have state : (run vaultStep (start id firstDb registration) registrationMoves).shared.vault =
        .of ⟨1⟩ "RokadVault@1A2B3C4D" 1 ∧
      (run vaultStep (start id firstDb registration) registrationMoves).shared.passed = none ∧
      (run vaultStep (start id firstDb registration) registrationMoves).shared.told = [] := by
    decide +kernel
  obtain ⟨initialised, unpassed, untold⟩ := state
  intro available
  obtain ⟨key, passed | told, _⟩ := available (initialised ▸ of_ne_empty)
  · rw [unpassed] at passed
    cases passed
  · rw [untold] at told
    cases told

end Rokad.Vault
