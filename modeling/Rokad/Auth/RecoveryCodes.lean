import Rokad.Auth.Rotation

/-!
# The second factor

A code of the second factor is a one-time password, compared against the secret of the user, or a
recovery code, looked up in the list of the user and taken from it. Three ways lead to the check: the
second step of a login, the step-up of a session, and the step-up guard with its header. The first
two ask the brute-force protection before and report to it after; the guard does neither.
-/

namespace Rokad.Auth

open Rokad.Base Rokad.Common Rokad.Security

/-! ### Codes -/

/-- What the service takes from the packages and the host: SHA-256, `toUpperCase`, the decryption of
a stored secret, and whether a one-time password fits a secret at a time. -/
structure Factors where
  (sha256 upper : String → String)
  decrypt : String → Option String
  verifySync : (token secret : String) → (now : ℕ) → Bool

namespace Factors

variable (x : Factors)

/-- `normalizePersianDigits((inputCode || '').trim())` -/
def raw (inputCode : String) : String := normalizePersianDigits (trim inputCode)

def recoveryHash (inputCode : String) : String :=
  x.sha256 (withoutSpaces (x.upper (raw inputCode)))

/-- The password and the secret it is compared with, when there are six digits and a secret. -/
def comparison (user : User) (inputCode : String) : Option (String × String) :=
  let cleanDigits := onlyDigits (raw inputCode)
  match truthy user.twoFactorSecret with
  | none => none
  | some stored =>
    if user.twoFactorEnabled = true ∧ cleanDigits.length = 6 then
      (truthy (x.decrypt stored)).map fun secret => (cleanDigits, secret)
    else none

/-- Whether a one-time password fits. -/
def fits (user : User) (inputCode : String) (now : ℕ) : Bool :=
  (x.comparison user inputCode).any fun (token, secret) => x.verifySync token secret now

end Factors

section

variable (x : Factors)

/-- What a check does with the user it has read. -/
def checkCode (user : User) (inputCode : String) (now : ℕ) : AuthProg Bool :=
  if user.twoFactorEnabled = false ∨ truthy user.twoFactorSecret = none then pure false
  else if x.fits user inputCode now then pure true
  else if x.recoveryHash inputCode ∈ user.twoFactorRecoveryCodes then do
    let updatedCodes := user.twoFactorRecoveryCodes.erase (x.recoveryHash inputCode)
    let done ← query (.updateUser user.id { twoFactorRecoveryCodes := some updatedCodes })
    must done
    pure true
  else pure false

def verify2FAToken (userId : Id) (inputCode : String) (now : ℕ) : AuthProg Bool := do
  let found ← query (.findUser userId)
  match found with
  | none => pure false
  | some user => checkCode x user inputCode now

/-! ### The three ways to it -/

/-- A check of the code between a question to the brute-force protection and a report to it. -/
def verifyGuarded (lower : String → String) (userId : Id) (code : String)
    (ipAddress : Option String) (up : Bool) (now : ℕ) (wrong : Failure) : AuthProg Unit := do
  let check ← query (.check2FAAllowed (toString userId) ipAddress up now)
  allowed check
  let isValid ← verify2FAToken x userId code now
  if isValid then do
    let _ ← query (.record lower ⟨now, up, .record2FASuccess (toString userId) ipAddress⟩)
    pure ()
  else do
    let _ ← query (.record lower ⟨now, up, .record2FAFailedAttempt (toString userId) ipAddress⟩)
    Prog.fail wrong

def verifyStepUp (lower : String → String) (userId : Id) (code : String)
    (ipAddress : Option String) (up : Bool) (now : ℕ) : AuthProg ℕ := do
  verifyGuarded x lower userId code ipAddress up now
    (.unauthorized "کد امنیتی دوعاملی نامعتبر است")
  let done ← query (.updateUser userId { twoFactorLastStepUpAt := some now })
  must done
  pure now

structure VerifyTwoFactorDto where
  /-- The token, if its signature is that of the service. -/
  tempToken : Option Jwt
  code : String

/-- `jwtService.verify` and the checks of the payload: the user the token is of. -/
def tempTokenUser (tempToken : Option Jwt) (now : ℕ) : Result Id :=
  match tempToken.filter fun jwt => (now : Instant) < jwt.expiresAt with
  | none => .error (.unauthorized
      "مهلت ۵ دقیقه‌ای توکن موقت ورود به پایان رسیده است. لطفاً مجدداً لاگین کنید.")
  | some jwt =>
    if jwt.payload.requiresTwoFactor then .ok jwt.payload.sub
    else .error (.unauthorized "توکن نامعتبر است")

/-- The rest of the login, once the code was right. -/
def finishTwoFactorLogin (userId : Id) (client : Client) (rawRefreshToken : String) :
    AuthProg TokenPair := do
  let found ← query (.findUser userId)
  let user ← orThrow (found.filter fun u => u.status = .active)
    (.unauthorized "حساب کاربری فعال نیست")
  let done ← query (.updateUser user.id { twoFactorLastStepUpAt := some client.now })
  must done
  issueTokens x.sha256 user client rawRefreshToken

def verifyTwoFactorLogin (lower : String → String) (dto : VerifyTwoFactorDto) (client : Client)
    (up : Bool) (rawRefreshToken : String) : AuthProg TokenPair := do
  let userId ← must (tempTokenUser dto.tempToken client.now)
  verifyGuarded x lower userId dto.code client.ipAddress up client.now
    (.unauthorized "کد ۶ رقمی یا کد بازیابی اضطراری وارد شده نادرست است")
  finishTwoFactorLogin x userId client rawRefreshToken

def STEP_UP_WINDOW_MS : Instant := 10 * 60 * 1000

/-- The guard, with the header `x-step-up-code` if the request has one. -/
def canActivate (userId : Id) (immediateCode : Option String) (now : ℕ) : AuthProg Unit :=
  match truthy immediateCode with
  | some code => do
      let isValid ← verify2FAToken x userId code now
      if isValid then do
        let done ← query (.updateUser userId { twoFactorLastStepUpAt := some now })
        must done
      else Prog.fail (.forbidden "کد احراز هویت مرحله‌ای وارد شده نادرست است")
  | none => do
      let dbUser ← query (.findUser userId)
      let user ← orThrow (dbUser.filter (·.twoFactorEnabled)) (.forbidden
        ("برای دسترسی به این بخش حساس، فعال‌سازی احراز هویت دومرحله‌ای (2FA) در حساب شما " ++
          "الزامی است"))
      demand (now - user.twoFactorLastStepUpAt.getD 0 < STEP_UP_WINDOW_MS) (.forbidden
        ("این عملیات حساس نیازمند تأیید مجدد کد احراز هویت دو مرحله‌ای (Step-up Auth) " ++
          "می‌باشد"))

end

/-!
## Recovery codes in use

Any number of checks of one user's second factor, interleaved operation by operation. A check
reads the user and later writes the list of codes without its own, computed from what it read. If
another check wrote in between, the write puts back the code that one took, or takes none: the
codes accepted and the codes left stay within the list exactly if every check writes to the list it
has read.
-/

/-! ### A check and its write -/

structure CodeCall where
  inputCode : String
  now : ℕ

/-- What a check has yet to do once it has found its code on the list it has read. -/
def burn (userId : Id) (reading : List String) (hash : String) : AuthProg Bool :=
  .step (.updateUser userId { twoFactorRecoveryCodes := some (reading.erase hash) }) fun done =>
    must done >>= fun _ => pure true

/-- A check returns, or burns the code it has found. -/
theorem checkCode_cases (x : Factors) (user : User) (inputCode : String) (now : ℕ) :
    (∃ valid, checkCode x user inputCode now = .ret (.ok valid)) ∨
    (x.recoveryHash inputCode ∈ user.twoFactorRecoveryCodes ∧ checkCode x user inputCode now =
        burn user.id user.twoFactorRecoveryCodes (x.recoveryHash inputCode)) := by
  unfold checkCode
  split_ifs with off fits stored
  · exact Or.inl ⟨false, rfl⟩
  · exact Or.inl ⟨true, rfl⟩
  · exact Or.inr ⟨stored, rfl⟩
  · exact Or.inl ⟨false, rfl⟩

/-- The recovery codes of a user, as hashes. -/
def codesOf (userId : Id) (s : State) : List String :=
  (s.db.users.find? userId).elim [] (·.twoFactorRecoveryCodes)

/-- The list of a user who is there can be replaced. -/
theorem write_codes {userId : Id} {s : State} {user : User}
    (found : s.db.users.find? userId = some user) (codes : List String) :
    ∃ s', exec (.updateUser userId { twoFactorRecoveryCodes := some codes }) s = (s', .ok ()) ∧
      s'.db.users.find? userId = some { user with twoFactorRecoveryCodes := codes } := by
  obtain ⟨users, updated⟩ : ∃ t, s.db.users.update userId
      (UserUpdate.apply { twoFactorRecoveryCodes := some codes }) (UserUpdate.key_apply _) =
        some t := update_isSome found fun _ _ => rfl
  obtain ⟨db, done⟩ : ∃ db, s.db.updateUser userId { twoFactorRecoveryCodes := some codes } =
      .ok db := by
    unfold Db.updateUser
    split
    · rename_i refused
      rw [updated] at refused
      cases refused
    · exact ⟨_, rfl⟩
  refine ⟨{ s with db }, by simp only [exec, done, State.write], ?_⟩
  exact find?_update_self (Db.updateUser_ok done).1 found

/-! ### Checks in progress -/

abbrev Checks (ι : Type) := Threads State (AuthProg Bool) ι

namespace Checks

variable {ι : Type} [DecidableEq ι] (x : Factors) (userId : Id) (calls : ι → CodeCall)

def start (s : State) : Checks ι :=
  ⟨s, fun i => verify2FAToken x userId (calls i).inputCode (calls i).now⟩

/-- The checks are all there is: no step of the world. -/
abbrev step : Checks ι → Move ι Unit Empty → Checks ι := Prog.moveStep exec fun s _ => s

/-- The hash of the recovery code a check accepts at this move: it writes the list of the user, and
returns that the code was right. -/
def accepts (p : Checks ι) : Move ι Unit Empty → List String
  | .thread i _ =>
    match p.own i, ((step p (.thread i ())).own i).returned with
    | .step (.updateUser ..) _, some (.ok true) => [x.recoveryHash (calls i).inputCode]
    | _, _ => []
  | .world e => e.elim

/-- A check that writes the list writes to the list it has read: the stored one without its code,
which is still there. -/
def Current (p : Checks ι) : Move ι Unit Empty → Prop
  | .thread i _ =>
    match p.own i with
    | .step (.updateUser _ data) _ =>
      x.recoveryHash (calls i).inputCode ∈ codesOf userId p.shared ∧ data.twoFactorRecoveryCodes =
          some ((codesOf userId p.shared).erase (x.recoveryHash (calls i).inputCode))
    | _ => True
  | .world e => e.elim

instance (p : Checks ι) (move : Move ι Unit Empty) : Decidable (p.Current x userId calls move) :=
  match move with
  | .thread i _ => by
    unfold Current
    dsimp only
    split <;> infer_instance
  | .world e => e.elim

/-- Where a check stands. What it has read is the stored list with, perhaps, more on it. -/
inductive Stands (userId : Id) (call : CodeCall) (s : State) : AuthProg Bool → Prop
  | reading : Stands userId call s (verify2FAToken x userId call.inputCode call.now)
  | burning {user : User} {reading : List String} (found : s.db.users.find? userId = some user)
      (mem : x.recoveryHash call.inputCode ∈ reading)
      (since : user.twoFactorRecoveryCodes.Sublist reading) :
      Stands userId call s (burn userId reading (x.recoveryHash call.inputCode))
  | returned (r : Result Bool) : Stands userId call s (.ret r)

def Inv (p : Checks ι) : Prop := ∀ i, Stands x userId (calls i) p.shared (p.own i)

variable {x userId calls} {p : Checks ι}

/-- A move reads or does nothing, or it accepts a code and stores what the check has computed. -/
theorem move_cases (inv : p.Inv x userId calls) (i : ι) :
    (accepts x calls p (.thread i ()) = [] ∧ p.Current x userId calls (.thread i ()) ∧
      (step p (.thread i ())).shared = p.shared ∧
      Stands x userId (calls i) p.shared ((step p (.thread i ())).own i)) ∨
    ∃ user reading, p.shared.db.users.find? userId = some user ∧
      x.recoveryHash (calls i).inputCode ∈ reading ∧
      user.twoFactorRecoveryCodes.Sublist reading ∧
      p.own i = burn userId reading (x.recoveryHash (calls i).inputCode) ∧
      accepts x calls p (.thread i ()) = [x.recoveryHash (calls i).inputCode] ∧
      (step p (.thread i ())).own i = .ret (.ok true) ∧
      (step p (.thread i ())).shared.db.users.find? userId =
        some { user with
          twoFactorRecoveryCodes := reading.erase (x.recoveryHash (calls i).inputCode) } := by
  have own : (step p (.thread i ())).own i = ((p.own i).advance exec p.shared).2 := by
    simp [step, Threads.step]
  have shared : (step p (.thread i ())).shared = ((p.own i).advance exec p.shared).1 := rfl
  have stands := inv i
  simp only [accepts, Current, own, shared]
  generalize p.own i = prog at stands
  cases stands with
  | reading =>
    refine Or.inl ⟨rfl, trivial, rfl, ?_⟩
    simp only [verify2FAToken, query, Prog.call_bind, Prog.advance, exec]
    cases found : p.shared.db.users.find? userId with
    | none => exact .returned _
    | some user =>
      dsimp only
      obtain rfl : user.id = userId := key_of_find? found
      rcases checkCode_cases x user (calls i).inputCode (calls i).now with
        ⟨valid, same⟩ | ⟨stored, same⟩
      · rw [same]
        exact .returned _
      · rw [same]
        exact .burning found stored (.refl _)
  | @burning user reading found mem since =>
    obtain ⟨s', done, after⟩ :=
      write_codes found (reading.erase (x.recoveryHash (calls i).inputCode))
    have moved : (burn userId reading (x.recoveryHash (calls i).inputCode)).advance exec
        p.shared = (s', .ret (.ok true)) := by
      simp only [burn, Prog.advance, done, must, Prog.ret_ok_bind, Prog.pure_eq]
    refine Or.inr ⟨user, reading, found, mem, since, rfl, ?_⟩
    rw [moved]
    exact ⟨rfl, rfl, after⟩
  | returned r => exact Or.inl ⟨rfl, trivial, rfl, .returned r⟩

/-- A list that another exceeds nowhere, and that is part of it, is the other. -/
theorem eq_of_sublist_of_count {codes reading : List String} (since : codes.Sublist reading)
    (within : ∀ a, reading.count a ≤ codes.count a) : reading = codes := by
  have longer : reading.length ≤ codes.length :=
    (List.subperm_ext_iff.mpr fun a _ => within a).length_le
  exact (since.eq_of_length_le longer).symm

/-- Taking an element off a list lowers its count by one. -/
theorem count_erase_of_mem {codes : List String} {hash : String} (mem : hash ∈ codes)
    (a : String) : [hash].count a + (codes.erase hash).count a = codes.count a := by
  rw [List.count_singleton, List.count_erase]
  by_cases same : hash = a
  · subst same
    have positive := List.count_pos_iff.mpr mem
    simp only [beq_self_eq_true, if_true]
    omega
  · simp [same]

theorem codesOf_found {s : State} {user : User} (found : s.db.users.find? userId = some user) :
    codesOf userId s = user.twoFactorRecoveryCodes := by
  simp [codesOf, found]

omit [DecidableEq ι] in
/-- A burn is current when it has read what is stored. -/
theorem current_burn {i : ι} {user : User} {reading : List String}
    (found : p.shared.db.users.find? userId = some user)
    (own : p.own i = burn userId reading (x.recoveryHash (calls i).inputCode)) :
    p.Current x userId calls (.thread i ()) ↔
      x.recoveryHash (calls i).inputCode ∈ user.twoFactorRecoveryCodes ∧
        reading.erase (x.recoveryHash (calls i).inputCode) =
          user.twoFactorRecoveryCodes.erase (x.recoveryHash (calls i).inputCode) := by
  simp only [Current, own, burn, codesOf_found found, Option.some.injEq]

/-- A current move takes off the list what it accepts. -/
theorem takes (inv : p.Inv x userId calls) (i : ι) (current : p.Current x userId calls (.thread i ()))
    (a : String) : (accepts x calls p (.thread i ())).count a +
      (codesOf userId (step p (.thread i ())).shared).count a =
        (codesOf userId p.shared).count a := by
  rcases move_cases inv i with ⟨none, -, same, -⟩ |
    ⟨user, reading, found, -, -, own, accepted, -, after⟩
  · simp [none, same]
  · obtain ⟨stored, same⟩ := (current_burn found own).mp current
    rw [accepted, codesOf_found found, codesOf_found after, same]
    exact count_erase_of_mem stored a

/-- A move that accepts a code and leaves no more than the rest is current. -/
theorem current_of_within (inv : p.Inv x userId calls) (i : ι)
    (within : ∀ a, (accepts x calls p (.thread i ())).count a +
      (codesOf userId (step p (.thread i ())).shared).count a ≤
        (codesOf userId p.shared).count a) : p.Current x userId calls (.thread i ()) := by
  rcases move_cases inv i with ⟨-, current, -⟩ |
    ⟨user, reading, found, mem, since, own, accepted, -, after⟩
  · exact current
  · have unchanged := eq_of_sublist_of_count since fun a => by
      have bound := within a
      rwa [accepted, codesOf_found found, codesOf_found after, count_erase_of_mem mem a] at bound
    rw [current_burn found own, ← unchanged]
    exact ⟨mem, rfl⟩

/-- The stored list may shrink under a check. -/
theorem Stands.shrink {call : CodeCall} {s s' : State} {prog : AuthProg Bool}
    (stands : Stands x userId call s prog) {user user' : User}
    (found : s.db.users.find? userId = some user) (found' : s'.db.users.find? userId = some user')
    (fewer : user'.twoFactorRecoveryCodes.Sublist user.twoFactorRecoveryCodes) :
    Stands x userId call s' prog := by
  cases stands with
  | reading => exact .reading
  | burning foundB mem since =>
    cases found.symm.trans foundB
    exact .burning found' mem (fewer.trans since)
  | returned r => exact .returned r

theorem Inv.step (inv : p.Inv x userId calls) (i : ι)
    (current : p.Current x userId calls (.thread i ())) :
    (step p (.thread i ())).Inv x userId calls := by
  have others : ∀ j, j ≠ i → (Checks.step p (.thread i ())).own j = p.own j := by
    intro j differ
    simp [Checks.step, Threads.step, differ]
  intro j
  by_cases same : j = i
  · subst same
    rcases move_cases inv j with ⟨-, -, shared, stands⟩ | ⟨_, _, -, -, -, -, -, done, -⟩
    · rwa [shared]
    · rw [done]
      exact .returned _
  · rw [others j same]
    rcases move_cases inv i with ⟨-, -, shared, -⟩ | ⟨user, reading, found, -, -, own, -, -, after⟩
    · rw [shared]
      exact inv j
    · refine (inv j).shrink found after ?_
      rw [((current_burn found own).mp current).2]
      exact List.erase_sublist

/-- What was accepted over the moves, and what is left after them. -/
abbrev accepted (x : Factors) (userId : Id) (calls : ι → CodeCall) (s : State)
    (moves : List (Move ι Unit Empty)) : List String :=
  trace step (accepts x calls) (start x userId calls s) moves

abbrev left (x : Factors) (userId : Id) (calls : ι → CodeCall) (s : State)
    (moves : List (Move ι Unit Empty)) : List String :=
  codesOf userId (run step (start x userId calls s) moves).shared

end Checks

/-- **Single use.** Over every interleaving of checks for one user, the codes accepted so far and
those left stay within the list at the start, exactly if every check writes to the list it has
read. Then, if no code was stored twice, none is accepted twice, and none that was accepted is on
the list again. -/
theorem accepted_once {ι : Type} [DecidableEq ι] (x : Factors) (userId : Id)
    (calls : ι → CodeCall) (s : State) (moves : List (Move ι Unit Empty)) :
    ((∀ before, before <+: moves → ∀ hash, (Checks.accepted x userId calls s before).count hash +
        (Checks.left x userId calls s before).count hash ≤ (codesOf userId s).count hash) ↔
      Along Checks.step (Checks.Current x userId calls) (Checks.start x userId calls s) moves) ∧
    (Along Checks.step (Checks.Current x userId calls) (Checks.start x userId calls s) moves →
      (codesOf userId s).Nodup → (Checks.accepted x userId calls s moves).Nodup ∧
        ∀ hash ∈ Checks.accepted x userId calls s moves,
          hash ∉ Checks.left x userId calls s moves) := by
  have exactly : (∀ before, before <+: moves → ∀ hash,
      (Checks.accepted x userId calls s before).count hash +
        (Checks.left x userId calls s before).count hash ≤ (codesOf userId s).count hash) ↔
      Along Checks.step (Checks.Current x userId calls) (Checks.start x userId calls s) moves := by
    refine within_budget_iff (I := Checks.Inv x userId calls)
      (V := fun p => codesOf userId p.shared) ?_ ?_ ?_ (fun _ => .reading)
    · rintro p (⟨i, ⟨⟩⟩ | e) current inv
      · exact inv.step i current
      · exact e.elim
    · rintro p (⟨i, ⟨⟩⟩ | e) current inv a
      · exact Checks.takes inv i current a
      · exact e.elim
    · rintro p (⟨i, ⟨⟩⟩ | e) inv within
      · exact Checks.current_of_within inv i within
      · exact e.elim
  refine ⟨exactly, fun current nodup => ?_⟩
  have within : ∀ hash, (Checks.accepted x userId calls s moves).count hash +
      (Checks.left x userId calls s moves).count hash ≤ 1 := fun hash =>
    (exactly.mpr current moves (List.prefix_refl _) hash).trans
      (List.nodup_iff_count_le_one.mp nodup hash)
  constructor
  · refine List.nodup_iff_count_le_one.mpr fun hash => ?_
    have bound := within hash
    omega
  · intro hash mem again
    have bound := within hash
    have once := List.count_pos_iff.mpr mem
    have more := List.count_pos_iff.mpr again
    omega

namespace Desk

/-- The parts of the host, with codes instead of hashes. -/
def factors : Factors where
  sha256 s := s
  upper := String.toUpper
  decrypt stored := some stored
  verifySync token _ _ := token = "424242"

/-- She has turned on the second factor and has two recovery codes. -/
def guarded : Db where
  tenants
  users := ⟨[{ user with
    twoFactorEnabled := true
    twoFactorSecret := some "JBSWY3DP"
    twoFactorRecoveryCodes := ["4B2A-9F1C", "77D0-A3E5"] }], by decide +kernel, by decide +kernel⟩
  foreignKeys := by constructor <;> decide +kernel

def oneCode : Fin 2 → CodeCall := fun _ => ⟨"4b2a-9f1c", 1000⟩

def twoCodes : Fin 2 → CodeCall
  | 0 => ⟨"4B2A-9F1C", 1000⟩
  | 1 => ⟨"77D0-A3E5", 1000⟩

/-- The two codes, and one that is not hers. -/
def threeCodes : Fin 3 → CodeCall :=
  ![⟨"4B2A-9F1C", 1000⟩, ⟨"77D0-A3E5", 1000⟩, ⟨"0000-0000", 1000⟩]

end Desk

/-- The two codes in turn, while the third is checked. -/
theorem accepted_once_inTurn :
    Checks.accepted Desk.factors 3 Desk.threeCodes { db := Desk.guarded } (moves [2, 0, 0, 1, 2, 1]) =
      ["4B2A-9F1C", "77D0-A3E5"] ∧
    (Checks.accepted Desk.factors 3 Desk.threeCodes { db := Desk.guarded }
      (moves [2, 0, 0, 1, 2, 1])).Nodup :=
  ⟨by decide +kernel, ((accepted_once Desk.factors 3 Desk.threeCodes { db := Desk.guarded }
    (moves [2, 0, 0, 1, 2, 1])).2 (by decide +kernel) (by decide +kernel)).1⟩

/-- Two checks read before either writes: one code is accepted twice, and of two codes the first
comes back. -/
theorem not_accepted_once :
    (codesOf 3 { db := Desk.guarded }).Nodup ∧
    Checks.accepted Desk.factors 3 Desk.oneCode { db := Desk.guarded } (moves [0, 1, 0, 1]) =
      ["4B2A-9F1C", "4B2A-9F1C"] ∧
    Checks.accepted Desk.factors 3 Desk.twoCodes { db := Desk.guarded }
      (moves [0, 1, 0, 1]) = ["4B2A-9F1C", "77D0-A3E5"] ∧
    Checks.left Desk.factors 3 Desk.twoCodes { db := Desk.guarded } (moves [0, 1, 0, 1]) =
      ["4B2A-9F1C"] := by
  refine ⟨?_, ?_, ?_, ?_⟩ <;> decide +kernel

end Rokad.Auth
