import Rokad.Security.Lockout

/-!
# Separation of subjects

In Redis every kind of key has its own prefix and two keys are equal only if they are of
one kind and one subject. The map in memory has no prefix for identifiers and addresses:
an identifier spelled like an address, or like a key of a second factor, is that key.
Whether the attempts of one subject can change what a check answers for another is a
question about these keys alone (`undisturbed_iff`).
-/

namespace Rokad.Security

open Rokad.Base

/-! ### Keys in Redis -/

def prefixes : List String :=
  ["brute:attempt:user:", "brute:attempt:ip:", "brute:lock:user:", "brute:lock:ip:",
    "brute:attempt:2fa:user:", "brute:attempt:2fa:ip:", "brute:lock:2fa:user:",
    "brute:lock:2fa:ip:"]

theorem prefixes_apart : ∀ p ∈ prefixes, ∀ q ∈ prefixes, p ≠ q → ¬ p.toList <+: q.toList := by
  decide +kernel

/-- Keys of different kinds differ. -/
theorem key_ne {p q : String} (hp : p ∈ prefixes) (hq : q ∈ prefixes) (differ : p ≠ q)
    (a b : String) : p ++ a ≠ q ++ b :=
  append_ne_append ⟨prefixes_apart p hp q hq differ, prefixes_apart q hq p hp (Ne.symm differ)⟩ a b

/-- Keys of different subjects differ. -/
theorem key_ne_of_ne {a b : String} (p : String) (differ : a ≠ b) : p ++ a ≠ p ++ b :=
  fun same => differ ((String.append_right_inj _).mp same)

/-- The keys in Redis of a login and of a second factor. -/
def redisKeys (id userId ip : String) : List String :=
  (loginSubject id ip).redisKeys ++ (twoFactorSubject userId ip).redisKeys

theorem redisKeys_eq (id userId ip : String) : redisKeys id userId ip =
    (prefixes.zip [id, ip, id, ip, userId, ip, userId, ip]).map fun k => k.1 ++ k.2 := rfl

theorem mem_redisKeys_iff {id userId ip p a : String} (hp : p ∈ prefixes) :
    p ++ a ∈ redisKeys id userId ip ↔
      (p, a) ∈ prefixes.zip [id, ip, id, ip, userId, ip, userId, ip] := by
  rw [redisKeys_eq, List.mem_map]
  constructor
  · rintro ⟨⟨q, b⟩, mem, same⟩
    have hq : q ∈ prefixes := (List.of_mem_zip mem).1
    obtain rfl : q = p := by_contra fun differ => key_ne hq hp differ b a same
    obtain rfl : b = a := by_contra fun differ => key_ne_of_ne q differ same
    exact mem
  · exact fun mem => ⟨(p, a), mem, rfl⟩

/-! ### Calls of one subject -/

section

variable (lower : String → String) (x v : String) (i : Option String)

/-- An attempt recorded for identifier `x` or user `v`, from address `i`. -/
def Timed.madeWith (t : Timed) : Prop :=
  t.call = .recordFailedAttempt x i ∨ t.call = .recordLoginSuccess x i ∨
    t.call = .record2FAFailedAttempt v i ∨ t.call = .record2FASuccess v i

/-- The keys in memory that such attempts write. -/
def writtenKeys : List String :=
  (loginSubject (cleanId lower x) (address i)).memoryKeys ++
    (twoFactorSubject v (address i)).memoryKeys

/-- The keys in memory that the checks of identifier `y` and user `w` from `j` look at. -/
def consultedKeys (y w : String) (j : Option String) : List String :=
  (loginSubject (cleanId lower y) (address j)).consulted (!isLoopback (address j)) ++
    (twoFactorSubject w (address j)).consulted true

variable {lower x v i}

theorem attempt_redis {s : BruteForce} {t : Timed} (made : t.madeWith x v i) {key : String}
    (other : key ∉ redisKeys (cleanId lower x) v (address i)) :
    (attempt lower s t).redis key = s.redis key := by
  obtain ⟨login, twoFactor⟩ := not_or.mp (mt List.mem_append.mpr other)
  unfold attempt
  rcases made with call | call | call | call <;> rw [call]
  · exact BruteForce.recordFailure_redis login
  · exact BruteForce.recordSuccess_redis login
  · exact BruteForce.recordFailure_redis twoFactor
  · exact BruteForce.recordSuccess_redis twoFactor

theorem attempt_memory {s : BruteForce} {t : Timed} (made : t.madeWith x v i) {key : String}
    (other : key ∉ writtenKeys lower x v i) :
    (attempt lower s t).memoryLocks key = s.memoryLocks key := by
  obtain ⟨login, twoFactor⟩ := not_or.mp (mt List.mem_append.mpr other)
  unfold attempt
  rcases made with call | call | call | call <;> rw [call]
  · exact BruteForce.recordFailure_memory login
  · exact BruteForce.recordSuccess_memory login
  · exact BruteForce.recordFailure_memory twoFactor
  · exact BruteForce.recordSuccess_memory twoFactor

variable (lower) in
/-- A run of such attempts leaves every other key. -/
theorem run_keys (s : BruteForce) {calls : List Timed} (made : ∀ t ∈ calls, t.madeWith x v i) :
    (∀ key ∉ redisKeys (cleanId lower x) v (address i),
      (run (attempt lower) s calls).redis key = s.redis key) ∧
    ∀ key ∉ writtenKeys lower x v i,
      (run (attempt lower) s calls).memoryLocks key = s.memoryLocks key := by
  refine run_invariant
    (I := fun s' : BruteForce => (∀ key ∉ redisKeys (cleanId lower x) v (address i), s'.redis key = s.redis key) ∧
      ∀ key ∉ writtenKeys lower x v i, s'.memoryLocks key = s.memoryLocks key)
    (P := fun _ t => Timed.madeWith x v i t) ?_ ⟨fun _ _ => rfl, fun _ _ => rfl⟩ (along_of_forall made)
  rintro s' t made ⟨redis, memory⟩
  exact ⟨fun key other => (attempt_redis made other).trans (redis key other),
    fun key other => (attempt_memory made other).trans (memory key other)⟩

/-! ### The checks of another subject -/

/-- No run of attempts with `x`, `v` and `i` changes what the checks of `y`, `w` and `j` answer. -/
def Undisturbed (lower : String → String) (x v : String) (i : Option String) (y w : String)
    (j : Option String) : Prop :=
  ∀ (s : BruteForce) (calls : List Timed), (∀ t ∈ calls, t.madeWith x v i) → ∀ up now,
    checkLoginAllowed lower y j up now (run (attempt lower) s calls) =
      checkLoginAllowed lower y j up now s ∧
    check2FAAllowed w j up now (run (attempt lower) s calls) = check2FAAllowed w j up now s

variable {y w : String} {j : Option String}

/-- The locks in Redis that the checks of another subject look at. -/
theorem locks_notMem (id : cleanId lower y ≠ cleanId lower x) (user : w ≠ v)
    (apart : ∀ key ∈ consultedKeys lower y w j, key ∉ writtenKeys lower x v i) :
    "brute:lock:user:" ++ cleanId lower y ∉ redisKeys (cleanId lower x) v (address i) ∧
    (isLoopback (address j) = false →
      "brute:lock:ip:" ++ address j ∉ redisKeys (cleanId lower x) v (address i)) ∧
    "brute:lock:2fa:user:" ++ w ∉ redisKeys (cleanId lower x) v (address i) ∧
    "brute:lock:2fa:ip:" ++ address j ∉ redisKeys (cleanId lower x) v (address i) := by
  -- The addresses differ, since the keys of the second factor in memory do.
  have ip : address j ≠ address i := by
    intro same
    refine apart ("2fa:ip:" ++ address j) (List.mem_append_right _ ?_)
      (List.mem_append_right _ ?_)
    · exact List.mem_cons_of_mem _ (List.mem_singleton.mpr rfl)
    · rw [same]
      exact List.mem_cons_of_mem _ (List.mem_singleton.mpr rfl)
  refine ⟨?_, fun _ => ?_, ?_, ?_⟩ <;>
    rw [mem_redisKeys_iff (by simp [prefixes])] <;> simp [prefixes, id, user, ip]

theorem undisturbed_of_apart (id : cleanId lower y ≠ cleanId lower x) (user : w ≠ v)
    (apart : ∀ key ∈ consultedKeys lower y w j, key ∉ writtenKeys lower x v i) :
    Undisturbed lower x v i y w j := by
  intro s calls made up now
  obtain ⟨redis, memory⟩ := run_keys lower s made
  obtain ⟨lockUser, lockIp, lockUser2, lockIp2⟩ := locks_notMem id user apart
  constructor
  · simp only [checkLoginAllowed]
    rw [BruteForce.lockedSeconds_congr (redis _ lockUser) (fun withIp => redis _ (lockIp ?_))
      fun key mem => memory key (apart key (List.mem_append_left _ mem))]
    simpa using withIp
  · unfold check2FAAllowed
    rw [BruteForce.lockedSeconds_congr (redis _ lockUser2) (fun _ => redis _ lockIp2)
      fun key mem => memory key (apart key (List.mem_append_right _ mem))]

/-! ### Enough failures at one moment -/

section

variable {policy : Policy} {subject : Subject} {t : Timed}
  (failure : ∀ s, attempt lower s t = (s.recordFailure policy subject true 0).1)
  (apart : subject.attemptUser ≠ subject.attemptIp ∧ subject.attemptUser ≠ subject.lockUser ∧
    subject.attemptUser ≠ subject.lockIp)

include failure apart

theorem counted_replicate (n : ℕ) : Counted subject.attemptUser 0 0 n
    (run (attempt lower) BruteForce.empty (List.replicate n t)).redis := by
  induction n with
  | zero => rfl
  | succ n ih =>
    obtain ⟨attemptIp, lockUser, lockIp⟩ := apart
    have counted : Counted subject.attemptUser 0 0 (n + 1) (BruteForce.countFailure policy subject
        true 0 (run (attempt lower) BruteForce.empty (List.replicate n t)).redis).1 :=
      (ih.incr le_rfl le_rfl (Nat.zero_le _)).1.congr (RedisService.incr_of_ne attemptIp)
    rw [List.replicate_succ', run_append, run_cons, run_nil, failure]
    rcases BruteForce.recordFailure_cases policy subject true 0
        (run (attempt lower) BruteForce.empty (List.replicate n t)) with
      ⟨-, same⟩ | ⟨seconds, -, -, same⟩
    · rw [same]
      exact counted
    · rw [same]
      exact counted.congr (BruteForce.lock_redis lockUser lockIp)

/-- The last of enough failures locks its keys in memory. -/
theorem locked_replicate {n : ℕ} (enough : policy.few ≤ n + 1) (long : 0 < policy.fewSeconds)
    {key : String} (own : key ∈ subject.memoryKeys) :
    ∃ m, (run (attempt lower) BruteForce.empty (List.replicate (n + 1) t)).memoryLocks key =
      some m ∧ 0 < m := by
  have counted := counted_replicate failure apart n
  have shown : n + 1 ≤ (BruteForce.countFailure policy subject true 0
      (run (attempt lower) BruteForce.empty (List.replicate n t)).redis).2 :=
    (counted.incr le_rfl le_rfl (Nat.zero_le _)).2.trans (le_max_left _ _)
  rw [List.replicate_succ', run_append, run_cons, run_nil, failure]
  rcases BruteForce.recordFailure_cases policy subject true 0
      (run (attempt lower) BruteForce.empty (List.replicate n t)) with
    ⟨less, -⟩ | ⟨seconds, least, -, same⟩
  · exact absurd less (not_lt.mpr (enough.trans shown))
  · rw [same]
    exact ⟨_, BruteForce.lock_memory_self own, by omega⟩

end

/-- Each key that attempts write in memory is locked by some run of them. -/
theorem exists_locked {key : String} (written : key ∈ writtenKeys lower x v i) :
    ∃ calls : List Timed, (∀ t ∈ calls, t.madeWith x v i) ∧
      ∃ m, (run (attempt lower) BruteForce.empty calls).memoryLocks key = some m ∧ 0 < m := by
  rcases List.mem_append.mp written with login | twoFactor
  · refine ⟨List.replicate (4 + 1) ⟨0, true, .recordFailedAttempt x i⟩, ?_,
      locked_replicate (fun s => rfl) (attemptUser_ne ..) (by decide) (by decide) login⟩
    exact fun t mem => Or.inl (by rw [List.eq_of_mem_replicate mem])
  · refine ⟨List.replicate (2 + 1) ⟨0, true, .record2FAFailedAttempt v i⟩, ?_,
      locked_replicate (fun s => rfl) ⟨?_, ?_, ?_⟩ (by decide) (by decide) twoFactor⟩
    · exact fun t mem => Or.inr (Or.inr (Or.inl (by rw [List.eq_of_mem_replicate mem])))
    · exact key_ne (by simp [prefixes]) (by simp [prefixes]) (by decide) _ _
    · exact key_ne (by simp [prefixes]) (by simp [prefixes]) (by decide) _ _
    · exact key_ne (by simp [prefixes]) (by simp [prefixes]) (by decide) _ _

theorem refused_of_lockedSeconds {before after : String} {seconds : ℤ} (locked : 0 < seconds) :
    refuseIfLocked before after seconds ≠ .ok () := by
  rw [refuseIfLocked, if_pos locked]
  exact nofun

theorem allowed_of_empty {before after : String} (subject : Subject) (withIp : Bool) :
    refuseIfLocked before after (BruteForce.empty.lockedSeconds subject withIp false 0) = .ok () := by
  refine if_neg ?_
  cases withIp <;> simp [BruteForce.lockedSeconds, BruteForce.maxTtl, BruteForce.memLock,
    BruteForce.empty, RedisService.ttl]

/-- A subject some of whose keys are written can be locked out. -/
theorem apart_of_undisturbed (undisturbed : Undisturbed lower x v i y w j) :
    ∀ key ∈ consultedKeys lower y w j, key ∉ writtenKeys lower x v i := by
  intro key consulted written
  obtain ⟨calls, made, m, stored, later⟩ := exists_locked written
  obtain ⟨login, twoFactor⟩ := undisturbed BruteForce.empty calls made false 0
  rcases List.mem_append.mp consulted with mem | mem
  · exact refused_of_lockedSeconds (BruteForce.lockedSeconds_pos mem stored later)
      (login.trans (allowed_of_empty _ _))
  · exact refused_of_lockedSeconds (BruteForce.lockedSeconds_pos mem stored later)
      (twoFactor.trans (allowed_of_empty _ _))

/-- **Separation.** The checks of another subject are undisturbed exactly when no key they look at
in memory is one that the attempts write. -/
theorem undisturbed_iff (id : cleanId lower y ≠ cleanId lower x) (user : w ≠ v) :
    Undisturbed lower x v i y w j ↔
      ∀ key ∈ consultedKeys lower y w j, key ∉ writtenKeys lower x v i :=
  ⟨apart_of_undisturbed, undisturbed_of_apart id user⟩

end

/-! ### A school's logins -/

theorem undisturbed_iff_sara :
    Undisturbed toLowerCase "sara" "u-1" (some "10.0.0.7") "reza" "u-2" (some "10.0.0.8") :=
  (undisturbed_iff (by decide +kernel) (by decide +kernel)).mpr (by decide +kernel)

/-- Failures for an identifier that is spelled like an address lock the address. -/
theorem not_undisturbed_of_spelledLike :
    ¬ ∀ (lower : String → String) (x v : String) (i : Option String) (y w : String)
      (j : Option String), cleanId lower y ≠ cleanId lower x → w ≠ v → j ≠ i →
      Undisturbed lower x v i y w j := by
  intro claim
  have undisturbed := claim toLowerCase "10.0.0.8" "u-1" (some "10.0.0.7") "reza" "u-2"
    (some "10.0.0.8") (by decide +kernel) (by decide) (by decide)
  have written : "10.0.0.8" ∈ writtenKeys toLowerCase "10.0.0.8" "u-1" (some "10.0.0.7") := by
    decide +kernel
  exact apart_of_undisturbed undisturbed "10.0.0.8" (by decide +kernel) written

end Rokad.Security
