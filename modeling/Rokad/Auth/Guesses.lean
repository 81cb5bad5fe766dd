import Rokad.Auth.RecoveryCodes
import Rokad.Security.Lockout

/-!
# Guesses of the second factor

Wrong codes, one after another, on the three ways to the check. The second step of a login and the
step-up count a wrong code and refuse once three were counted; the step-up guard compares the code
of its header and counts nothing. What is counted is counted in a window of 300 seconds from the
first, so that two wrong codes at its end and more after it pass unlocked.

With no header compared, and no count lost less than 300 seconds after a comparison, at most three
wrong codes are compared without a pause of 300 seconds.
-/

namespace Rokad.Auth

open Rokad.Base Rokad.Common Rokad.Security

/-! ### Requests with a code -/

inductive Path where
  | login (dto : VerifyTwoFactorDto) (ipAddress userAgent : Option String)
      (rawRefreshToken : String)
  | stepUp (userId : Id) (code : String) (ipAddress : Option String)
  | header (userId : Id) (immediateCode : String)

/-- A request with a code; Redis is in reach. -/
structure Guess where
  path : Path
  now : ℕ

namespace Guess

def prog (x : Factors) (lower : String → String) (g : Guess) : AuthProg Unit :=
  match g.path with
  | .login dto ipAddress userAgent rawRefreshToken =>
    verifyTwoFactorLogin x lower dto ⟨ipAddress, userAgent, g.now⟩ true rawRefreshToken >>=
      fun _ => pure ()
  | .stepUp userId code ipAddress =>
    verifyStepUp x lower userId code ipAddress true g.now >>= fun _ => pure ()
  | .header userId immediateCode => canActivate x userId (some immediateCode) g.now

def code (g : Guess) : String :=
  match g.path with
  | .login dto .. => dto.code
  | .stepUp _ code _ => code
  | .header _ immediateCode => immediateCode

/-- The user whose code is checked, if a check is made at all. -/
def user? (g : Guess) : Option Id :=
  match g.path with
  | .login dto .. => (tempTokenUser dto.tempToken g.now).toOption
  | .stepUp userId .. => some userId
  | .header userId immediateCode => (truthy (some immediateCode)).map fun _ => userId

/-- The address a failure is counted for, on the ways that count. -/
def countedFor (g : Guess) : Option (Option String) :=
  match g.path with
  | .login _ ipAddress .. | .stepUp _ _ ipAddress => some ipAddress
  | .header .. => none

/-- The request is not turned away before the check. -/
def passes (u : Id) (s : State) (g : Guess) : Bool :=
  match g.countedFor with
  | some ipAddress => (check2FAAllowed (toString u) ipAddress true g.now s.bruteForce).isOk
  | none => true

/-- The code is compared against the secret of the user. -/
def compares (x : Factors) (u : Id) (s : State) (g : Guess) : Bool :=
  g.user? = some u && g.passes u s &&
    (s.db.users.find? u).any fun user => (x.comparison user g.code).isSome

/-- The check says that the code is wrong. -/
def Wrong (x : Factors) (s : State) (g : Guess) : Prop :=
  ∀ u, g.user? = some u → ((verify2FAToken x u g.code g.now).run exec s).2 = .ok false

/-- The state a request leaves. -/
def serve (x : Factors) (lower : String → String) (s : State) (g : Guess) : State :=
  ((g.prog x lower).run exec s).1

end Guess

/-! ### A wrong code -/

section

variable {x : Factors} {lower : String → String} {s : State} {u : Id} {code : String} {now : ℕ}

/-- A check that finds the code wrong leaves the state, whatever the protection remembers. -/
theorem verify_wrong {b : BruteForce}
    (wrong : ((verify2FAToken x u code now).run exec s).2 = .ok false) :
    (verify2FAToken x u code now).run exec { s with bruteForce := b } =
      ({ s with bruteForce := b }, .ok false) := by
  simp only [verify2FAToken, query, Prog.call_bind, Prog.run_step, exec] at wrong ⊢
  cases found : s.db.users.find? u with
  | none => rfl
  | some user =>
    simp only [found] at wrong
    dsimp only
    rcases checkCode_cases x user code now with ⟨valid, same⟩ | ⟨-, same⟩
    · rw [same] at wrong ⊢
      cases wrong
      rfl
    · obtain rfl : user.id = u := key_of_find? found
      obtain ⟨s', done, -⟩ := write_codes found
        (user.twoFactorRecoveryCodes.erase (x.recoveryHash code))
      rw [same] at wrong
      simp only [burn, Prog.run_step, done, must, Prog.ret_ok_bind, Prog.pure_eq,
        Prog.run_ret] at wrong
      cases wrong

/-- On a way that counts, a wrong code is refused at once or counted. -/
theorem guarded_wrong (lower : String → String) (ipAddress : Option String) (up : Bool)
    (e : Failure)
    (wrong : ((verify2FAToken x u code now).run exec s).2 = .ok false) :
    ((check2FAAllowed (toString u) ipAddress up now s.bruteForce).isOk = false ∧
      ∃ e', (verifyGuarded x lower u code ipAddress up now e).run exec s = (s, .error e')) ∨
    ((check2FAAllowed (toString u) ipAddress up now s.bruteForce).isOk = true ∧
      (verifyGuarded x lower u code ipAddress up now e).run exec s =
        ({ s with bruteForce :=
          (record2FAFailedAttempt (toString u) ipAddress up now s.bruteForce).1 }, .error e)) := by
  simp only [verifyGuarded, query, Prog.call_bind, Prog.run_step, exec]
  cases check : check2FAAllowed (toString u) ipAddress up now s.bruteForce with
  | error locked => exact Or.inl ⟨rfl, _, rfl⟩
  | ok done =>
    refine Or.inr ⟨rfl, ?_⟩
    simp only [allowed, Except.mapError, Prog.ret_ok_bind, Prog.run_bind,
      verify_wrong (b := s.bruteForce) wrong]
    rfl

variable (lower) in
/-- What a request with a wrong code does: it is counted, or it leaves everything. -/
theorem Guess.serve_wrong {g : Guess} (wrong : g.Wrong x s) :
    (∃ v ipAddress, g.user? = some v ∧ g.countedFor = some ipAddress ∧ g.passes v s = true ∧
      g.serve x lower s = { s with bruteForce :=
        (record2FAFailedAttempt (toString v) ipAddress true g.now s.bruteForce).1 }) ∨
    ((g.countedFor = none ∨ ∀ v, g.user? = some v → g.passes v s = false) ∧
      g.serve x lower s = s) := by
  obtain ⟨path, now⟩ := g
  simp only [Wrong, user?, Guess.code] at wrong
  simp only [user?, countedFor, passes, serve, prog]
  cases path with
  | header userId immediateCode =>
    refine Or.inr ⟨Or.inl rfl, ?_⟩
    unfold canActivate
    dsimp only at wrong ⊢
    cases given : truthy (some immediateCode) with
    | none =>
      simp only [query, Prog.call_bind, Prog.run_step, exec]
      cases found : (s.db.users.find? userId).filter (·.twoFactorEnabled) with
      | none => simp only [orThrow, orFail, Prog.ret_error_bind, Prog.run_ret]
      | some user => simp only [orThrow, orFail, Prog.ret_ok_bind, demand, Prog.run_ret]
    | some code =>
      obtain rfl : immediateCode = code := by
        simp only [truthy] at given
        split_ifs at given
        exact Option.some.inj given
      simp only [given, Option.map_some, Option.some.injEq, forall_eq'] at wrong
      simp only [Prog.run_bind, verify_wrong (b := s.bruteForce) wrong]
      rfl
  | stepUp userId code ipAddress =>
    simp only [Option.some.injEq, forall_eq'] at wrong
    rcases guarded_wrong lower ipAddress true
      (.unauthorized "کد امنیتی دوعاملی نامعتبر است") wrong with
      ⟨refused, e', stays⟩ | ⟨passed, counted⟩
    · refine Or.inr ⟨Or.inr ?_, ?_⟩
      · rintro v ⟨⟩
        exact refused
      · simp only [verifyStepUp, Prog.run_bind, stays]
    · refine Or.inl ⟨userId, ipAddress, rfl, rfl, passed, ?_⟩
      simp only [verifyStepUp, Prog.run_bind, counted]
  | login dto ipAddress userAgent rawRefreshToken =>
    dsimp only at wrong ⊢
    cases verified : tempTokenUser dto.tempToken now with
    | error e =>
      refine Or.inr ⟨Or.inr (by rintro v ⟨⟩), ?_⟩
      simp only [verifyTwoFactorLogin, verified, must, Prog.ret_error_bind, Prog.run_ret]
    | ok u =>
      simp only [verified, Except.toOption, Option.some.injEq, forall_eq'] at wrong
      rcases guarded_wrong lower ipAddress true (.unauthorized
        "کد ۶ رقمی یا کد بازیابی اضطراری وارد شده نادرست است") wrong with
        ⟨refused, e', stays⟩ | ⟨passed, counted⟩
      · refine Or.inr ⟨Or.inr ?_, ?_⟩
        · rintro v ⟨⟩
          exact refused
        · simp only [verifyTwoFactorLogin, verified, must, Prog.ret_ok_bind, Prog.run_bind, stays]
      · refine Or.inl ⟨u, ipAddress, rfl, rfl, passed, ?_⟩
        simp only [verifyTwoFactorLogin, verified, must, Prog.ret_ok_bind, Prog.run_bind, counted]

end

/-! ### Pauses -/

/-- Among any four successive times, newest first, there is a pause of 300 seconds. -/
def Paced : List ℕ → Prop
  | d :: c :: b :: a :: earlier =>
    (c + 300000 ≤ d ∨ b + 300000 ≤ c ∨ a + 300000 ≤ b) ∧ Paced (c :: b :: a :: earlier)
  | _ => True

instance decidablePaced : (times : List ℕ) → Decidable (Paced times)
  | [] | [_] | [_, _] | [_, _, _] => isTrue trivial
  | d :: c :: b :: a :: earlier =>
    have := decidablePaced (c :: b :: a :: earlier)
    inferInstanceAs (Decidable ((c + 300000 ≤ d ∨ b + 300000 ≤ c ∨ a + 300000 ≤ b) ∧
      Paced (c :: b :: a :: earlier)))

/-- How many of the newest times follow each other without a pause. -/
def streak : List ℕ → ℕ
  | [] => 0
  | [_] => 1
  | b :: a :: earlier => if a + 300000 ≤ b then 1 else streak (a :: earlier) + 1

theorem streak_pos (b : ℕ) (earlier : List ℕ) : 0 < streak (b :: earlier) := by
  cases earlier with
  | nil => exact Nat.one_pos
  | cons a earlier =>
    unfold streak
    split <;> omega

/-- A new time is fine when no four of the newest follow each other without a pause. -/
theorem Paced.cons {d : ℕ} {times : List ℕ} (paced : Paced times)
    (short : streak (d :: times) ≤ 3) : Paced (d :: times) := by
  match times with
  | [] | [_] | [_, _] => trivial
  | c :: b :: a :: earlier =>
    refine ⟨?_, paced⟩
    have positive := streak_pos a earlier
    simp only [streak] at short
    split_ifs at short with first second third
    · exact Or.inl first
    · exact Or.inr (Or.inl second)
    · exact Or.inr (Or.inr third)
    · omega

/-! ### What is compared -/

/-- The state, the times of the comparisons for one user so far, newest first, and the time. -/
structure Watch where
  state : State
  compared : List ℕ := []
  clock : ℕ := 0

section

variable (x : Factors) (lower : String → String) (u : Id)

def Watch.step (w : Watch) (g : Guess) : Watch where
  state := g.serve x lower w.state
  compared := if g.compares x u w.state then g.now :: w.compared else w.compared
  clock := g.now

def guessKey : String := "brute:attempt:2fa:user:" ++ toString u

/-- No comparison goes past the counter, and when a wrong code is counted for the user after the
counter has run out, the last comparison is 300 seconds ago. -/
def Watch.Covered (w : Watch) (g : Guess) : Prop :=
  (g.countedFor = none → g.compares x u w.state = false) ∧
    (g.countedFor ≠ none → g.user? = some u → g.passes u w.state = true →
      (w.state.bruteForce.redis.get g.now (guessKey u)).isSome ∨
        ∀ last ∈ w.compared.head?, last + 300000 ≤ g.now)
deriving Decidable

/-- The key holds no text, and shows `n` at least. -/
def Shows (key : String) (n : ℕ) (redis : Redis) : Prop :=
  match redis key with
  | none => n = 0
  | some ⟨.integer c, _⟩ => n ≤ c
  | some ⟨.text _, _⟩ => False

instance (key : String) (n : ℕ) (redis : Redis) : Decidable (Shows key n redis) := by
  unfold Shows
  generalize redis key = entry
  exact match entry with
    | none => inferInstanceAs (Decidable (n = 0))
    | some ⟨.integer c, _⟩ => inferInstanceAs (Decidable (n ≤ c))
    | some ⟨.text _, _⟩ => isFalse id

end

section

variable {key : String} {n now : ℕ} {redis redis' : Redis}

theorem Shows.congr (shows : Shows key n redis) (same : redis' key = redis key) :
    Shows key n redis' := by
  unfold Shows at *
  rwa [same]

theorem Shows.mono {m : ℕ} (shows : Shows key n redis) (le : m ≤ n) : Shows key m redis := by
  unfold Shows at *
  split at shows
  · omega
  · exact le.trans shows
  · exact shows

/-- Counting adds one, on a counter that has not run out. -/
theorem Shows.incr (shows : Shows key n redis) (window : ℕ) (live : (redis.get now key).isSome ∨ n = 0) :
    Shows key (n + 1) (RedisService.incr true now key window redis).1 ∧
      n + 1 ≤ (RedisService.incr true now key window redis).2 := by
  cases got : redis.get now key with
  | none =>
    rw [got] at live
    obtain rfl : n = 0 := live.resolve_left (by simp)
    simp [RedisService.incr, got, Shows]
  | some entry =>
    obtain ⟨stored, -⟩ := Expiring.get_eq_some_iff.mp got
    obtain ⟨value, expiresAt⟩ := entry
    unfold Shows at shows
    simp only [stored] at shows
    cases value with
    | text text => exact shows.elim
    | integer c => simp [RedisService.incr, got, Shows, shows]

end

section

variable {b : BruteForce} {u : Id} {n now : ℕ}

/-- The key of the counter is no other key of a second factor. -/
theorem guessKey_ne (u : Id) (id ip : String) : guessKey u ≠ (twoFactorSubject id ip).attemptIp ∧
    guessKey u ≠ (twoFactorSubject id ip).lockUser ∧
    guessKey u ≠ (twoFactorSubject id ip).lockIp :=
  ⟨append_ne_append (by simp) _ _, append_ne_append (by simp) _ _, append_ne_append (by simp) _ _⟩

/-- A wrong code of the user is counted, and the third locks. -/
theorem Shows.failure (shows : Shows (guessKey u) n b.redis)
    (live : (b.redis.get now (guessKey u)).isSome ∨ n = 0) (ipAddress : Option String) :
    Shows (guessKey u) (n + 1)
        (record2FAFailedAttempt (toString u) ipAddress true now b).1.redis ∧
      (3 ≤ n + 1 → LockedUntil ("2fa:" ++ toString u) (now + 300000)
        (record2FAFailedAttempt (toString u) ipAddress true now b).1) := by
  obtain ⟨attemptIp, lockUser, lockIp⟩ := guessKey_ne u (toString u) (address ipAddress)
  obtain ⟨stored, shown⟩ := shows.incr twoFactorPolicy.window live
  have counted : Shows (guessKey u) (n + 1) (BruteForce.countFailure twoFactorPolicy
      (twoFactorSubject (toString u) (address ipAddress)) true now b.redis).1 :=
    stored.congr (RedisService.incr_of_ne attemptIp)
  have enough : n + 1 ≤ (BruteForce.countFailure twoFactorPolicy
      (twoFactorSubject (toString u) (address ipAddress)) true now b.redis).2 :=
    shown.trans (le_max_left _ _)
  unfold record2FAFailedAttempt
  rcases BruteForce.recordFailure_cases twoFactorPolicy
      (twoFactorSubject (toString u) (address ipAddress)) true now b with
    ⟨less, same⟩ | ⟨seconds, least, -, same⟩
  · rw [same]
    exact ⟨counted, fun third => absurd (third.trans enough) (not_le.mpr less)⟩
  · rw [same]
    refine ⟨counted.congr (BruteForce.lock_redis lockUser lockIp), fun _ => ?_⟩
    exact ⟨_, BruteForce.lock_memory_self List.mem_cons_self, five_minutes_le least le_rfl⟩

/-- A wrong code of another user leaves the counter. -/
theorem failure_other {v : Id} (differ : v ≠ u) (ipAddress : Option String) :
    (record2FAFailedAttempt (toString v) ipAddress true now b).1.redis (guessKey u) =
      b.redis (guessKey u) := by
  obtain ⟨attemptIp, lockUser, lockIp⟩ := guessKey_ne u (toString v) (address ipAddress)
  have attemptUser : guessKey u ≠ (twoFactorSubject (toString v) (address ipAddress)).attemptUser :=
    fun same => differ (eq_of_toString_eq ((String.append_right_inj _).mp same)).symm
  refine BruteForce.recordFailure_redis ?_
  simp only [Subject.redisKeys, List.mem_cons, List.not_mem_nil, or_false, not_or]
  exact ⟨attemptUser, attemptIp, lockUser, lockIp⟩

/-- A lock in memory refuses the check of a second factor. -/
theorem not_passes_of_lockedUntil {finish : ℕ} {g : Guess} {s : State}
    (locked : LockedUntil ("2fa:" ++ toString u) finish s.bruteForce)
    (counts : g.countedFor ≠ none) (early : g.now < finish) : g.passes u s = false := by
  obtain ⟨ipAddress, counted⟩ := Option.ne_none_iff_exists'.mp counts
  obtain ⟨m, stored, le⟩ := locked
  have locks : 0 < s.bruteForce.lockedSeconds (twoFactorSubject (toString u) (address ipAddress))
      true true g.now :=
    BruteForce.lockedSeconds_pos List.mem_cons_self stored (early.trans_le le)
  simp only [Guess.passes, counted, check2FAAllowed, refuseIfLocked, if_pos locks]
  rfl

end

/-! ### The invariant -/

/-- While the last comparison is less than 300 seconds ago, the counter shows every comparison
since the last pause; three of them have locked the user. -/
structure Watch.Inv (u : Id) (w : Watch) : Prop where
  paced : Paced w.compared
  past : ∀ last ∈ w.compared.head?, last ≤ w.clock
  counter : Shows (guessKey u) 0 w.state.bruteForce.redis
  counted : ∀ last ∈ w.compared.head?, w.clock < last + 300000 →
    Shows (guessKey u) (streak w.compared) w.state.bruteForce.redis
  locked : ∀ last ∈ w.compared.head?, 3 ≤ streak w.compared →
    LockedUntil ("2fa:" ++ toString u) (last + 300000) w.state.bruteForce

section

variable {x : Factors} {lower : String → String} {u : Id} {w : Watch} {g : Guess}

/-- What is not counted, and not compared, leaves everything but the time. -/
theorem Watch.Inv.wait (inv : w.Inv u) {clock : ℕ} (later : w.clock ≤ clock) :
    Watch.Inv u { w with clock } where
  paced := inv.paced
  past last mem := (inv.past last mem).trans later
  counter := inv.counter
  counted last mem early := inv.counted last mem (later.trans_lt early)
  locked := inv.locked

/-- A wrong code of another user can only renew a lock. -/
theorem Watch.Inv.other (inv : w.Inv u) {v : Id} (differ : v ≠ u) (ipAddress : Option String)
    {now : ℕ} (later : w.clock ≤ now) :
    Watch.Inv u { w with
      state := { w.state with bruteForce :=
        (record2FAFailedAttempt (toString v) ipAddress true now w.state.bruteForce).1 }
      clock := now } where
  paced := inv.paced
  past last mem := (inv.past last mem).trans later
  counter := inv.counter.congr (failure_other differ ipAddress)
  counted last mem early :=
    (inv.counted last mem (later.trans_lt early)).congr (failure_other differ ipAddress)
  locked last mem three := (inv.locked last mem three).recordFailure _ true (le_refl 300)
    (Nat.add_le_add_right ((inv.past last mem).trans later) _)

/-- A wrong code of the user that is counted but not compared. -/
theorem Watch.Inv.count (inv : w.Inv u) (ipAddress : Option String) {now : ℕ}
    (later : w.clock ≤ now)
    (live : (w.state.bruteForce.redis.get now (guessKey u)).isSome ∨
      ∀ last ∈ w.compared.head?, last + 300000 ≤ now) :
    Watch.Inv u { w with
      state := { w.state with bruteForce :=
        (record2FAFailedAttempt (toString u) ipAddress true now w.state.bruteForce).1 }
      clock := now } where
  paced := inv.paced
  past last mem := (inv.past last mem).trans later
  counter := (inv.counter.failure (Or.inr rfl) ipAddress).1.mono (Nat.zero_le _)
  counted last mem early := by
    have alive := live.resolve_right fun paused => absurd (paused last mem) (not_le.mpr early)
    exact ((inv.counted last mem (later.trans_lt early)).failure (Or.inl alive) ipAddress).1.mono
      (Nat.le_succ _)
  locked last mem three := (inv.locked last mem three).recordFailure _ true (le_refl 300)
    (Nat.add_le_add_right ((inv.past last mem).trans later) _)

/-- A wrong code of the user that is compared and counted. -/
theorem Watch.Inv.compare (inv : w.Inv u) (ipAddress : Option String) {now : ℕ}
    (later : w.clock ≤ now)
    (live : (w.state.bruteForce.redis.get now (guessKey u)).isSome ∨
      ∀ last ∈ w.compared.head?, last + 300000 ≤ now)
    (unlocked : ∀ finish, LockedUntil ("2fa:" ++ toString u) finish w.state.bruteForce →
      finish ≤ now) :
    Watch.Inv u
      { state := { w.state with bruteForce :=
          (record2FAFailedAttempt (toString u) ipAddress true now w.state.bruteForce).1 }
        compared := now :: w.compared
        clock := now } := by
  have first : Shows (guessKey u) (0 + 1)
      (record2FAFailedAttempt (toString u) ipAddress true now w.state.bruteForce).1.redis :=
    (inv.counter.failure (Or.inr rfl) ipAddress).1
  -- After a pause the streak starts again.
  have restart : streak (now :: w.compared) = 1 → Watch.Inv u
      { state := { w.state with bruteForce :=
          (record2FAFailedAttempt (toString u) ipAddress true now w.state.bruteForce).1 }
        compared := now :: w.compared
        clock := now } := by
    intro one
    refine ⟨inv.paced.cons (by omega), ?_, first.mono (Nat.zero_le _), ?_, ?_⟩
    · rintro last ⟨⟩
      exact le_rfl
    · rintro last ⟨⟩ -
      rw [one]
      exact first
    · rintro last ⟨⟩ three
      rw [one] at three
      omega
  cases times : w.compared with
  | nil =>
    rw [← times]
    exact restart (by rw [times]; rfl)
  | cons last earlier =>
    have head : last ∈ w.compared.head? := by simp [times]
    rw [← times]
    by_cases paused : last + 300000 ≤ now
    · exact restart (by rw [times]; simp only [streak, if_pos paused])
    · have early : now < last + 300000 := not_le.mp paused
      have short : streak w.compared < 3 := by
        by_contra three
        exact paused (unlocked _ (inv.locked last head (not_lt.mp three)))
      have longer : streak (now :: w.compared) = streak w.compared + 1 := by
        rw [times]
        simp only [streak, if_neg paused]
      have alive := live.resolve_right fun all => paused (all last head)
      obtain ⟨shows, locks⟩ := (inv.counted last head (later.trans_lt early)).failure
        (Or.inl alive) ipAddress
      refine ⟨inv.paced.cons (by omega), ?_, shows.mono (Nat.zero_le _), ?_, ?_⟩
      · rintro t ⟨⟩
        exact le_rfl
      · rintro t ⟨⟩ -
        rw [longer]
        exact shows
      · rintro t ⟨⟩ three
        rw [longer] at three
        exact locks three

/-- One request with a wrong code. -/
theorem Watch.Inv.step (inv : w.Inv u) (wrong : g.Wrong x w.state) (later : w.clock ≤ g.now)
    (covered : w.Covered x u g) : (w.step x lower u g).Inv u := by
  unfold Watch.step
  rcases Guess.serve_wrong lower wrong with
    ⟨v, ipAddress, ofV, counts, passes, same⟩ | ⟨stays, same⟩
  · rw [same]
    have counted : g.countedFor ≠ none := by simp [counts]
    by_cases own : v = u
    · subst own
      have live := covered.2 counted ofV passes
      split
      · refine inv.compare ipAddress later live fun finish locked => ?_
        by_contra early
        rw [not_passes_of_lockedUntil locked counted (not_le.mp early)] at passes
        cases passes
      · exact inv.count ipAddress later live
    · have apart : g.compares x u w.state = false := by
        simp [Guess.compares, ofV, own]
      rw [apart]
      exact inv.other own ipAddress later
  · have apart : g.compares x u w.state = false := by
      rcases stays with uncounted | refused
      · exact covered.1 uncounted
      · by_contra compares
        simp only [Guess.compares, Bool.not_eq_false, Bool.and_eq_true,
          decide_eq_true_eq] at compares
        rw [refused u compares.1.1] at compares
        simp at compares
    rw [same, apart]
    exact inv.wait later

/-- Whether a code is wrong, the users tell. -/
theorem Guess.Wrong.congr {s s' : State} (wrong : g.Wrong x s) (same : s'.db = s.db) :
    g.Wrong x s' := by
  obtain ⟨db, b⟩ := s'
  obtain rfl : db = s.db := same
  intro v ofV
  rw [verify_wrong (wrong v ofV)]

/-- A wrong code changes nothing in the database. -/
theorem Guess.Wrong.db {s : State} (wrong : g.Wrong x s) : (g.serve x lower s).db = s.db := by
  rcases Guess.serve_wrong lower wrong with ⟨_, _, -, -, -, same⟩ | ⟨-, same⟩ <;>
  rw [same]

end

/-- **Bounded guesses.** Whatever wrong codes are sent for whichever users, from any addresses, on
the three ways: if no comparison for the user goes past the counter and no count of the user is
lost less than 300 seconds after a comparison, among any four successive comparisons for the user
there is a pause of 300 seconds. -/
theorem guesses_paced (x : Factors) (lower : String → String) (u : Id) (s : State)
    (counter : Shows (guessKey u) 0 s.bruteForce.redis) (gs : List Guess)
    (sorted : gs.Pairwise (·.now ≤ ·.now)) (wrong : ∀ g ∈ gs, g.Wrong x s)
    (covered : Along (Watch.step x lower u) (Watch.Covered x u) { state := s } gs) :
    Paced (run (Watch.step x lower u) { state := s } gs).compared := by
  have start : Watch.Inv u { state := s } :=
    ⟨trivial, by rintro last ⟨⟩, counter, by rintro last ⟨⟩, by rintro last ⟨⟩⟩
  have later : ∀ g ∈ gs, (⟨s, [], 0⟩ : Watch).clock ≤ g.now := fun _ _ => Nat.zero_le _
  -- The requests left are not before the time, and their codes are wrong in the state reached.
  suffices h : ∀ w : Watch, w.Inv u → w.state.db = s.db → (∀ g ∈ gs, w.clock ≤ g.now) →
      Along (Watch.step x lower u) (Watch.Covered x u) w gs →
        (run (Watch.step x lower u) w gs).Inv u from (h _ start rfl later covered).paced
  clear start later covered
  intro w inv db later covered
  induction gs generalizing w with
  | nil => exact inv
  | cons g gs ih =>
    have wrongNow : g.Wrong x w.state := (wrong g List.mem_cons_self).congr db
    obtain ⟨first, rest⟩ := List.pairwise_cons.mp sorted
    exact ih rest (fun g' mem => wrong g' (List.mem_cons_of_mem _ mem)) (w.step x lower u g)
      (inv.step wrongNow (later g List.mem_cons_self) covered.1)
      (wrongNow.db.trans db) first covered.2

namespace Desk

def stepUpAt (now : ℕ) : Guess := ⟨.stepUp 3 "000000" (some "10.0.0.7"), now⟩

def headerAt (now : ℕ) : Guess := ⟨.header 3 "000000", now⟩

end Desk

/-- Three wrong codes, one refused, and one after the lock. -/
theorem guesses_paced_stepUp :
    Paced (run (Watch.step Desk.factors toLowerCase 3) { state := { db := Desk.guarded } }
      ([0, 1000, 2000, 3000, 302000].map Desk.stepUpAt)).compared := by
  refine guesses_paced Desk.factors toLowerCase 3 { db := Desk.guarded } (by decide +kernel) _
    (by decide +kernel) ?_ (by decide +kernel)
  intro g mem
  simp only [List.map_cons, List.map_nil, List.mem_cons, List.not_mem_nil, or_false] at mem
  rcases mem with rfl | rfl | rfl | rfl | rfl <;>
  · rintro u ⟨⟩
    decide +kernel

/-- Four codes in the header are compared within four seconds; and of the step-ups, four within
five seconds, since the counter runs out after the first of them. -/
theorem not_guesses_paced :
    (∀ g ∈ [0, 1000, 2000, 3000].map Desk.headerAt, g.Wrong Desk.factors { db := Desk.guarded }) ∧
    (run (Watch.step Desk.factors toLowerCase 3) { state := { db := Desk.guarded } }
      ([0, 1000, 2000, 3000].map Desk.headerAt)).compared = [3000, 2000, 1000, 0] ∧
    (run (Watch.step Desk.factors toLowerCase 3) { state := { db := Desk.guarded } }
      ([0, 299000, 301000, 302000, 303000].map Desk.stepUpAt)).compared =
        [303000, 302000, 301000, 299000, 0] ∧
    ¬ Paced [3000, 2000, 1000, 0] ∧ ¬ Paced [303000, 302000, 301000, 299000, 0] := by
  refine ⟨?_, by decide +kernel, by decide +kernel, by decide +kernel, by decide +kernel⟩
  intro g mem
  simp only [List.map_cons, List.map_nil, List.mem_cons, List.not_mem_nil, or_false] at mem
  rcases mem with rfl | rfl | rfl | rfl <;>
  · rintro u given
    obtain rfl : 3 = u := by
      rw [show (Guess.user? _) = some 3 by decide +kernel] at given
      exact Option.some.inj given
    decide +kernel

end Rokad.Auth
