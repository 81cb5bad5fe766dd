import Rokad.Vault.Available

/-!
# Stale passwords

`changePassword` of the authentication service, with the calls of the vault that write and reveal
the encrypted copy of a password. The hash and the copy are two columns of one row. A copy that
cannot be made is left out of the statement that writes the hash, so that the copy of the password
before stays (`not_never_stale`): so it is with a password of more than 190 bytes, and no other
(`never_stale_of_fits`).
-/

namespace Rokad.Vault

open Rokad.Base
open Rokad.Common (Id)

/-! ### Calls -/

structure ChangePasswordDto where
  (oldPassword newPassword : String)
  minLength : 8 ≤ newPassword.length

/-- `prisma.user.update` of the two columns; an undefined copy is left as it is. -/
def Db.updatePassword (db : Db) (userId : Id) (passwordHash : Argon2)
    (encryptedPassword : Option Cipher) : Db :=
  { db with users := db.users.map fun u =>
      if u.id = userId then
        { u with
          passwordHash
          encryptedPassword := encryptedPassword <|> u.encryptedPassword }
      else u }

def changePassword (draw : Draw) (userId : Id) (dto : ChangePasswordDto) (db : Db) :
    Db × Result Unit :=
  match db.users.find? (·.id = userId) with
  | none => (db, .error (.notFound "کاربر یافت نشد"))
  | some user =>
    if user.passwordHash.verify dto.oldPassword then
      match (encryptPasswordForTenant draw dto.newPassword).run exec db with
      | (db, .ok encryptedPassword) =>
        (db.updatePassword userId ⟨dto.newPassword⟩ encryptedPassword, .ok ())
      | (db, .error e) => (db, .error e)
    else (db, .error (.badRequest "رمز عبور فعلی وارد شده نادرست است"))

section

variable (lower : String → String)

/-- `revealPassword` with what it writes: a recovered password's copy, before anything is opened. -/
def reveal (targetUserId : Id) (masterKey : String) (db : Db) : Db × Result String :=
  match openCopy lower db targetUserId masterKey with
  | .error e => (db, .error e)
  | .ok (user, cipher, sealed, salt) =>
    (if user.encryptedPassword.isSome then db
      else (exec (.savePassword targetUserId cipher) db).1,
      do
        let privateKey ← decryptPrivateKey sealed (deriveAesKey masterKey salt)
        decryptWithPrivateKey privateKey cipher)

inductive UserCall where
  | changePassword (draw : Draw) (userId : Id) (dto : ChangePasswordDto)
  | backfillTenantPasswords (draw : Draw)
  | revealPassword (targetUserId : Id) (masterKey : String)

/-- One call, alone. -/
def serve (db : Db) : UserCall → Db
  | .changePassword draw userId dto => (changePassword draw userId dto db).1
  | .backfillTenantPasswords draw => ((backfillTenantPasswords lower draw db.tenant).run exec db).1
  | .revealPassword targetUserId masterKey => (reveal lower targetUserId masterKey db).1

/-- What is revealed is the user's password. -/
def NeverStale (db : Db) : Prop :=
  ∀ targetUserId masterKey plaintext, (reveal lower targetUserId masterKey db).2 = .ok plaintext →
      ∃ user, db.users.find? (·.id = targetUserId) = some user ∧
        user.passwordHash.verify plaintext = true

/-- The new password fits into a ciphertext, or there is no copy that could stay. -/
def UserCall.Fits (db : Db) : UserCall → Prop
  | .changePassword _ userId dto => dto.newPassword.utf8ByteSize ≤ 190 ∨
      ∀ user ∈ db.users, user.id = userId → user.passwordHash.verify dto.oldPassword = true →
        user.encryptedPassword = none
  | _ => True

instance (db : Db) (call : UserCall) : Decidable (call.Fits db) := by
  cases call <;> unfold UserCall.Fits <;> infer_instance

end

/-! ### The invariant -/

/-- Each user has one row, whose copy is one of the password that its hash verifies. -/
structure Faithful (db : Db) : Prop where
  ids : (db.users.map User.id).Nodup
  copies : ∀ user ∈ db.users, ∀ cipher ∈ user.encryptedPassword,
    user.passwordHash.verify cipher.plaintext = true

section

variable {db : Db} {lower : String → String}

theorem Faithful.eq_of_id (faithful : Faithful db) {user user' : User} (mem : user ∈ db.users)
    (mem' : user' ∈ db.users) (same : user.id = user'.id) : user = user' :=
  List.inj_on_of_nodup_map faithful.ids mem mem' same

theorem Faithful.of_users (faithful : Faithful db) {db' : Db} (same : db'.users = db.users) :
    Faithful db' := ⟨same ▸ faithful.ids, same ▸ faithful.copies⟩

/-- The id and the hash of each user, which the vault leaves alone. -/
def hashes (db : Db) : List (Id × Argon2) := db.users.map fun u => (u.id, u.passwordHash)

theorem hashes_savePassword (userId : Id) (cipher : Cipher) :
    hashes (exec (.savePassword userId cipher) db).1 = hashes db := by
  simp only [hashes, exec, List.map_map]
  refine List.map_congr_left fun u _ => ?_
  simp only [Function.comp]
  split <;> rfl

/-- The copy of a user's password is one that the hash verifies. -/
theorem Faithful.savePassword (faithful : Faithful db) {userId : Id} {cipher : Cipher}
    (verifies : ∀ user ∈ db.users, user.id = userId →
      user.passwordHash.verify cipher.plaintext = true) :
    Faithful (exec (.savePassword userId cipher) db).1 where
  ids := by
    have same : (exec (.savePassword userId cipher) db).1.users.map User.id =
        (hashes (exec (.savePassword userId cipher) db).1).map Prod.fst := by
      simp [hashes]
    rw [same, hashes_savePassword, hashes, List.map_map]
    exact faithful.ids
  copies := by
    intro user mem copy stored
    obtain ⟨before, was, rfl⟩ := List.mem_map.mp mem
    split at stored
    · rename_i is
      obtain rfl : cipher = copy := Option.some.inj stored
      rw [if_pos is]
      exact verifies before was is
    · rename_i other
      rw [if_neg other]
      exact faithful.copies before was copy stored

theorem tryRecoverPlaintext_verifies {tenant : Auth.Tenant} {user : User} {plaintext : String}
    (recovered : tryRecoverPlaintext lower tenant user = some plaintext) :
    user.passwordHash.verify plaintext = true := List.find?_some recovered

theorem ciphertextOf_verifies (faithful : Faithful db) {user : User} (mem : user ∈ db.users)
    {cipher : Cipher} (made : ciphertextOf lower db user = .ok cipher) :
    user.passwordHash.verify cipher.plaintext = true := by
  unfold ciphertextOf at made
  split at made
  · rename_i copy stored
    cases made
    exact faithful.copies user mem _ stored
  · rename_i plaintext publicKey none recovered initialised
    rw [(encryptWithPublicKey_own made).1]
    exact tryRecoverPlaintext_verifies recovered
  · cases made

theorem openCopy_spec {targetUserId : Id} {masterKey : String} {user : User} {cipher : Cipher}
    {sealed : SealedKey} {salt : ℕ}
    (opened : openCopy lower db targetUserId masterKey = .ok (user, cipher, sealed, salt)) :
    db.users.find? (·.id = targetUserId) = some user ∧ ciphertextOf lower db user = .ok cipher := by
  simp only [openCopy, do_eq_ok, Prod.mk.injEq] at opened
  obtain ⟨_, found, ⟨_, _, _⟩, -, _, -, _, made, rfl, rfl, -⟩ := opened
  exact ⟨found, made⟩

theorem found_spec {targetUserId : Id} {user : User}
    (found : db.users.find? (·.id = targetUserId) = some user) :
    user ∈ db.users ∧ user.id = targetUserId :=
  ⟨List.mem_of_find?_eq_some found, by simpa using List.find?_some found⟩

theorem Faithful.reveal (faithful : Faithful db) (targetUserId : Id) (masterKey : String) :
    Faithful (reveal lower targetUserId masterKey db).1 := by
  unfold Vault.reveal
  split
  · exact faithful
  · rename_i user cipher sealed salt opened
    obtain ⟨found, made⟩ := openCopy_spec opened
    obtain ⟨mem, is⟩ := found_spec found
    dsimp only
    split
    · exact faithful
    · refine faithful.savePassword fun user' mem' is' => ?_
      rw [faithful.eq_of_id mem' mem (is'.trans is.symm)]
      exact ciphertextOf_verifies faithful mem made

/-- With faithful copies, nothing stale is revealed. -/
theorem Faithful.neverStale (faithful : Faithful db) : NeverStale lower db := by
  intro targetUserId masterKey plaintext revealed
  unfold Vault.reveal at revealed
  split at revealed
  · cases revealed
  · rename_i user cipher sealed salt opened
    obtain ⟨found, made⟩ := openCopy_spec opened
    obtain ⟨privateKey, -, decrypted⟩ := bind_eq_ok.mp revealed
    refine ⟨user, found, ?_⟩
    unfold decryptWithPrivateKey at decrypted
    split at decrypted
    · rw [← Except.ok.inj decrypted]
      exact ciphertextOf_verifies faithful (found_spec found).1 made
    · cases decrypted

/-! ### Steps -/

/-- What operations answer while the users' hashes are these. -/
def Unchanged (fixed : List (Id × Argon2)) : (op : Op) → op.Answer → Prop
  | .readUsers, users => users.map (fun u => (u.id, u.passwordHash)) = fixed
  | _, _ => True

/-- A copy is written for a password that the user's hash verifies. -/
def Op.Verified (fixed : List (Id × Argon2)) : Op → Prop
  | .savePassword userId cipher =>
    ∀ hash, (userId, hash) ∈ fixed → hash.verify cipher.plaintext = true
  | _ => True

theorem backfillUsers_verified {fixed : List (Id × Argon2)} (ids : (fixed.map Prod.fst).Nodup)
    {tenant : Auth.Tenant} {publicKey : KeyPair} {users : List User}
    (rows : ∀ user ∈ users, (user.id, user.passwordHash) ∈ fixed) (report : BackfillReport) :
    (backfillUsers lower tenant publicKey report users).Meets (Unchanged fixed)
      (Op.Verified fixed) fun _ => True := by
  induction users generalizing report with
  | nil => trivial
  | cons user users ih =>
    have rest := ih (List.forall_mem_cons.mp rows).2
    unfold backfillUsers
    split
    · exact rest _
    split
    · rename_i plaintext recovered
      refine Prog.Meets.bind
        (Q := fun r => ∀ cipher, r = .ok cipher → cipher.plaintext = plaintext)
        (fun cipher made => ?_) (fun _ => trivial)
        fun cipher own => Prog.Meets.call_bind ?_ fun _ _ => rest _
      · rw [(encryptWithPublicKey_own made).1]
      · intro hash row
        rw [own cipher rfl]
        have same := List.inj_on_of_nodup_map ids row (rows user List.mem_cons_self) rfl
        rw [(Prod.mk.inj same).2]
        exact tryRecoverPlaintext_verifies recovered
    · exact rest _

theorem ensureTenantVault_meets {R : (op : Op) → op.Answer → Prop} {P : Op → Prop} {draw : Draw}
    {initialMasterKey : Option String} {account : String → Account} {found : Account}
    (read : P .readTenant) (write : ∀ publicKey sealed salt hash account,
      P (.writeVault publicKey sealed salt hash account)) (succeed : P (.succeed found)) :
    (ensureTenantVault draw initialMasterKey account found).Meets R P fun _ => True := by
  unfold ensureTenantVault
  refine Prog.Meets.call_bind read fun vault _ => ?_
  split
  · exact Prog.Meets.call_bind succeed fun _ _ => trivial
  · exact Prog.Meets.call_bind (write _ _ _ _ _) fun _ _ => trivial

theorem Faithful.backfill (faithful : Faithful db) (draw : Draw) :
    Faithful ((backfillTenantPasswords lower draw db.tenant).run exec db).1 := by
  have ids : ((hashes db).map Prod.fst).Nodup := by
    rw [hashes, List.map_map]
    exact faithful.ids
  have meets : (backfillTenantPasswords lower draw db.tenant).Meets (Unchanged (hashes db))
      (Op.Verified (hashes db)) fun _ => True := by
    refine Prog.Meets.call_bind trivial fun _ _ => ?_
    refine Prog.Meets.bind (ensureTenantVault_meets trivial (fun _ _ _ _ _ => trivial) trivial)
      (fun _ => trivial) fun ensured _ => Prog.Meets.call_bind trivial fun users answer => ?_
    refine backfillUsers_verified ids (fun user mem => ?_) _
    rw [← answer]
    exact List.mem_map_of_mem mem
  refine (meets.run_keeps (I := fun db' => hashes db' = hashes db ∧ Faithful db')
    ?_ ?_ ⟨rfl, faithful⟩).1.2
  · intro op db' inv
    cases op with
    | readUsers => exact inv.1
    | _ => trivial
  · intro op db' right inv
    cases op with
    | savePassword userId cipher =>
      refine ⟨(hashes_savePassword userId cipher).trans inv.1, inv.2.savePassword ?_⟩
      rintro user mem rfl
      exact right _ (inv.1 ▸ List.mem_map_of_mem mem)
    | readTenant | readUsers => exact inv
    | writeVault | changeKey | succeed =>
      exact ⟨by simpa [hashes, exec] using inv.1, inv.2.of_users (by simp [exec])⟩

/-- The users are left alone, and there is a copy unless the password is too long. -/
theorem encryptPasswordForTenant_spec (draw : Draw) (plaintext : String) (db : Db) :
    ((encryptPasswordForTenant draw plaintext).run exec db).1.users = db.users ∧
      ∃ copy, ((encryptPasswordForTenant draw plaintext).run exec db).2 = .ok copy ∧
        (∀ cipher ∈ copy, cipher.plaintext = plaintext) ∧
        (copy = none → plaintext = "" ∨ ¬ plaintext.utf8ByteSize ≤ 190) := by
  have made (publicKey : KeyPair) : (∀ cipher ∈ (encryptWithPublicKey publicKey plaintext).toOption,
        cipher.plaintext = plaintext) ∧
      ((encryptWithPublicKey publicKey plaintext).toOption = none →
        plaintext = "" ∨ ¬ plaintext.utf8ByteSize ≤ 190) := by
    unfold encryptWithPublicKey
    split <;> simp_all [Except.toOption]
  unfold encryptPasswordForTenant
  split
  · rename_i empty
    exact ⟨rfl, none, rfl, (by simp), fun _ => .inl empty⟩
  simp only [query, Prog.call_bind, Prog.run_step, exec]
  split
  · rename_i publicKey _
    exact ⟨rfl, _, rfl, made publicKey⟩
  · simp only [ensureTenantVault, query, Prog.call_bind, Prog.step_bind, Prog.run_step, exec]
    split
    · rename_i publicKey _ _ _
      exact ⟨rfl, _, rfl, made publicKey⟩
    · exact ⟨rfl, _, rfl, made _⟩

theorem ChangePasswordDto.nonempty (dto : ChangePasswordDto) : dto.newPassword ≠ "" := by
  intro empty
  have minLength := dto.minLength
  simp [empty] at minLength

theorem Faithful.changePassword (faithful : Faithful db) {draw : Draw} {userId : Id}
    {dto : ChangePasswordDto} (fits : UserCall.Fits db (.changePassword draw userId dto)) :
    Faithful (changePassword draw userId dto db).1 := by
  unfold Vault.changePassword
  split
  · exact faithful
  rename_i user found
  obtain ⟨mem, is⟩ := found_spec found
  split
  · rename_i verified
    obtain ⟨users, copy, result, own, absent⟩ :=
      encryptPasswordForTenant_spec draw dto.newPassword db
    generalize (encryptPasswordForTenant draw dto.newPassword).run exec db = encrypted at *
    obtain ⟨db', answer⟩ := encrypted
    dsimp only at users result ⊢
    subst result
    constructor
    · have ids : (Db.updatePassword db' userId ⟨dto.newPassword⟩ copy).users.map User.id =
          db'.users.map User.id := by
        simp only [Db.updatePassword, List.map_map]
        refine List.map_congr_left fun u _ => ?_
        simp only [Function.comp]
        split <;> rfl
      rw [ids, users]
      exact faithful.ids
    · intro row rowMem cipher stored
      obtain ⟨before, was, rfl⟩ := List.mem_map.mp rowMem
      rw [users] at was
      split at stored
      · rename_i own'
        rw [if_pos own']
        cases copy with
        | some made =>
          obtain rfl : made = cipher := Option.some.inj stored
          simp [Argon2.verify, own made rfl]
        | none =>
          -- the copy of the password before would stay, but there is none
          have long := (absent rfl).resolve_left dto.nonempty
          obtain rfl := faithful.eq_of_id was mem (own'.trans is.symm)
          have none := (fits.resolve_left long) before mem is verified
          have kept : before.encryptedPassword = some cipher := stored
          rw [none] at kept
          cases kept
      · rename_i other
        rw [if_neg other]
        exact faithful.copies before was cipher stored
  · exact faithful

theorem Faithful.serve (faithful : Faithful db) {call : UserCall} (fits : call.Fits db) :
    Faithful (serve lower db call) := by
  cases call with
  | changePassword draw userId dto => exact faithful.changePassword fits
  | backfillTenantPasswords draw => exact faithful.backfill draw
  | revealPassword targetUserId masterKey => exact faithful.reveal targetUserId masterKey

/-- While passwords that fit are set, what is revealed is current. -/
theorem never_stale_of_fits (lower : String → String) {db : Db} (start : Faithful db)
    {calls : List UserCall} (fits : Along (serve lower) UserCall.Fits db calls) :
    NeverStale lower (run (serve lower) db calls) :=
  (run_invariant (I := Faithful) (fun _ _ fits faithful => faithful.serve fits) start fits).neverStale

end

def shortPassword : ChangePasswordDto := ⟨"b12345678", "Rokad-1404", by decide⟩

/-- A password is recovered into the vault, changed and revealed. -/
theorem never_stale_of_fits_changed : NeverStale id (run (serve id) firstDb
      [.backfillTenantPasswords draw, .changePassword draw 2 shortPassword]) ∧
    (reveal id 2 draw.masterKey (run (serve id) firstDb
      [.backfillTenantPasswords draw, .changePassword draw 2 shortPassword])).2 =
        .ok "Rokad-1404" :=
  ⟨never_stale_of_fits id ⟨by decide, by decide⟩ (by decide +kernel), by decide +kernel⟩

def longPassword : ChangePasswordDto :=
  ⟨"b12345678", String.ofList (List.replicate 200 'a'), by decide +kernel⟩

/-- After a change to a password of 200 letters, the one before is revealed. -/
theorem not_never_stale : ¬ NeverStale id (run (serve id) firstDb
      [.backfillTenantPasswords draw, .changePassword draw 2 longPassword]) := by
  intro never
  obtain ⟨user, found, verifies⟩ := never 2 draw.masterKey "b12345678" (by decide +kernel)
  have hash : ((run (serve id) firstDb
      [.backfillTenantPasswords draw, .changePassword draw 2 longPassword]).users.find?
        (·.id = 2)).map User.passwordHash = some ⟨longPassword.newPassword⟩ := by
    decide +kernel
  rw [found] at hash
  rw [Option.some.inj hash] at verifies
  revert verifies
  decide +kernel

end Rokad.Vault
