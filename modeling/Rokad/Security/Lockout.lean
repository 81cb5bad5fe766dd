import Rokad.Security.BruteForce

/-!
# Lockout

Failures are counted in Redis alone; the map in memory only repeats a lock that the
counters decided. A failure recorded while Redis is out of reach counts as a first one,
and a counter that runs out in the middle of five failures starts again. When neither
happens, the fifth failure locks, and the lock in memory holds whatever Redis does.
-/

namespace Rokad.Security

open Rokad.Base

/-! ### Which keys a call touches -/

def Subject.redisKeys (subject : Subject) : List String :=
  [subject.attemptUser, subject.attemptIp, subject.lockUser, subject.lockIp]

def Subject.memoryKeys (subject : Subject) : List String := [subject.memoryUser, subject.memoryIp]

/-- The keys in memory that a check looks at. -/
def Subject.consulted (subject : Subject) (withIp : Bool) : List String :=
  subject.memoryUser :: if withIp then [subject.memoryIp] else []

namespace BruteForce

variable {policy : Policy} {subject : Subject} {up : Bool} {now seconds : ℕ} {s : BruteForce}
  {redis : Redis} {key : String}

theorem lock_redis (user : key ≠ subject.lockUser) (ip : key ≠ subject.lockIp) :
    (s.lock subject seconds up now).redis key = s.redis key :=
  (RedisService.set_of_ne ip).trans (RedisService.set_of_ne user)

theorem lock_memory (other : key ∉ subject.memoryKeys) :
    (s.lock subject seconds up now).memoryLocks key = s.memoryLocks key := by
  simp only [Subject.memoryKeys, List.mem_cons, List.not_mem_nil, or_false, not_or] at other
  exact (Function.update_of_ne other.2 ..).trans (Function.update_of_ne other.1 ..)

/-- A lock in memory is for the seconds it was asked for. -/
theorem lock_memory_self (own : key ∈ subject.memoryKeys) :
    (s.lock subject seconds up now).memoryLocks key = some (now + seconds * 1000) := by
  simp only [Subject.memoryKeys, List.mem_cons, List.not_mem_nil, or_false] at own
  simp only [lock]
  by_cases ip : key = subject.memoryIp
  · rw [ip, Function.update_self]
  · rw [Function.update_of_ne ip, own.resolve_right ip, Function.update_self]

/-- A failure is counted, and locks its subject when there are enough. -/
theorem recordFailure_cases (policy : Policy) (subject : Subject) (up : Bool) (now : ℕ)
    (s : BruteForce) :
    (countFailure policy subject up now s.redis).2 < policy.few ∧
      (s.recordFailure policy subject up now).1 =
        { s with redis := (countFailure policy subject up now s.redis).1 } ∨
    ∃ seconds, policy.fewSeconds ≤ seconds ∧
      policy.few ≤ (countFailure policy subject up now s.redis).2 ∧
      (s.recordFailure policy subject up now).1 = lock subject seconds up now
        { s with redis := (countFailure policy subject up now s.redis).1 } := by
  unfold recordFailure
  simp only
  split
  · rename_i many
    exact Or.inr ⟨_, policy.fewSeconds_le_manySeconds, policy.few_le_many.trans many, rfl⟩
  · split
    · rename_i few
      exact Or.inr ⟨_, le_rfl, few, rfl⟩
    · rename_i few
      exact Or.inl ⟨not_le.mp few, rfl⟩

theorem countFailure_redis (user : key ≠ subject.attemptUser) (ip : key ≠ subject.attemptIp) :
    (countFailure policy subject up now redis).1 key = redis key :=
  (RedisService.incr_of_ne ip).trans (RedisService.incr_of_ne user)

theorem recordFailure_redis (other : key ∉ subject.redisKeys) :
    (s.recordFailure policy subject up now).1.redis key = s.redis key := by
  simp only [Subject.redisKeys, List.mem_cons, List.not_mem_nil, or_false, not_or] at other
  obtain ⟨attemptUser, attemptIp, lockUser, lockIp⟩ := other
  have counted : (countFailure policy subject up now s.redis).1 key = s.redis key :=
    countFailure_redis attemptUser attemptIp
  rcases recordFailure_cases policy subject up now s with ⟨-, same⟩ | ⟨seconds, -, -, same⟩
  · rw [same]
    exact counted
  · rw [same, lock_redis lockUser lockIp]
    exact counted

theorem recordFailure_memory (other : key ∉ subject.memoryKeys) :
    (s.recordFailure policy subject up now).1.memoryLocks key = s.memoryLocks key := by
  rcases recordFailure_cases policy subject up now s with ⟨-, same⟩ | ⟨seconds, -, -, same⟩
  · rw [same]
  · rw [same, lock_memory other]

theorem recordSuccess_redis (other : key ∉ subject.redisKeys) :
    (s.recordSuccess subject up).redis key = s.redis key := by
  simp only [Subject.redisKeys, List.mem_cons, List.not_mem_nil, or_false, not_or] at other
  obtain ⟨attemptUser, attemptIp, lockUser, lockIp⟩ := other
  exact (RedisService.del_of_ne lockIp).trans ((RedisService.del_of_ne attemptIp).trans
    ((RedisService.del_of_ne lockUser).trans (RedisService.del_of_ne attemptUser)))

theorem recordSuccess_memory (other : key ∉ subject.memoryKeys) :
    (s.recordSuccess subject up).memoryLocks key = s.memoryLocks key := by
  simp only [Subject.memoryKeys, List.mem_cons, List.not_mem_nil, or_false, not_or] at other
  exact (Function.update_of_ne other.2 ..).trans (Function.update_of_ne other.1 ..)

/-- A lock in memory that is not over locks, whatever Redis answers. -/
theorem lockedSeconds_pos {withIp : Bool} {m : ℕ} (consulted : key ∈ subject.consulted withIp)
    (stored : s.memoryLocks key = some m) (early : now < m) :
    0 < s.lockedSeconds subject withIp up now := by
  have later : now < s.memLock subject withIp := by
    refine early.trans_le ?_
    rcases List.mem_cons.mp consulted with rfl | ip
    · rw [memLock, stored, Option.getD_some]
      exact le_max_left _ _
    · cases withIp with
      | false => cases ip
      | true =>
        obtain rfl := List.mem_singleton.mp ip
        rw [memLock, if_pos rfl, stored, Option.getD_some]
        exact le_max_right _ _
  have rounds : 0 < (s.memLock subject withIp - now + 999) / 1000 := by omega
  unfold lockedSeconds
  rw [if_pos later]
  split
  · exact_mod_cast rounds
  · rename_i locked
    exact not_le.mp locked

/-- A check depends on the locks of its subject only. -/
theorem lockedSeconds_congr {s' : BruteForce} {withIp : Bool}
    (lockUser : s'.redis subject.lockUser = s.redis subject.lockUser)
    (lockIp : withIp = true → s'.redis subject.lockIp = s.redis subject.lockIp)
    (memory : ∀ key ∈ subject.consulted withIp, s'.memoryLocks key = s.memoryLocks key) :
    s'.lockedSeconds subject withIp up now = s.lockedSeconds subject withIp up now := by
  have memoryUser := memory subject.memoryUser List.mem_cons_self
  have ttl : s'.maxTtl subject withIp up now = s.maxTtl subject withIp up now := by
    unfold maxTtl
    rw [RedisService.ttl_congr lockUser]
    cases withIp with
    | false => rfl
    | true => rw [if_pos rfl, if_pos rfl, RedisService.ttl_congr (lockIp rfl)]
  have lock : s'.memLock subject withIp = s.memLock subject withIp := by
    unfold memLock
    rw [memoryUser]
    cases withIp with
    | false => rfl
    | true =>
      rw [if_pos rfl, if_pos rfl,
        memory subject.memoryIp (List.mem_cons_of_mem _ (List.mem_singleton.mpr rfl))]
  unfold lockedSeconds
  rw [ttl, lock]

end BruteForce

/-! ### A counter in its window -/

/-- The counter shows at least `n`, and what it counts lasts from `start` to `finish`. With
nothing counted, a counter from before may also run out before `start`. -/
def Counted (key : String) (start finish n : ℕ) (redis : Redis) : Prop :=
  match redis key with
  | none => n = 0
  | some ⟨.integer c, some t⟩ => n = 0 ∧ t < start ∨ n ≤ c ∧ finish ≤ t
  | some ⟨.integer c, none⟩ => n ≤ c
  | some ⟨.text _, _⟩ => False

instance (key : String) (start finish n : ℕ) (redis : Redis) :
    Decidable (Counted key start finish n redis) := by
  unfold Counted
  split <;> infer_instance

theorem Counted.congr {key : String} {start finish n : ℕ} {redis redis' : Redis}
    (counted : Counted key start finish n redis) (same : redis' key = redis key) :
    Counted key start finish n redis' := by
  unfold Counted at *
  rwa [same]

/-- Within the window and in reach, counting counts. -/
theorem Counted.incr {key : String} {start finish now n window : ℕ} {redis : Redis}
    (counted : Counted key start finish n redis) (after : start ≤ now) (before : now ≤ finish)
    (fits : finish ≤ RedisService.expiry now window) :
    Counted key start finish (n + 1) (RedisService.incr true now key window redis).1 ∧
      n + 1 ≤ (RedisService.incr true now key window redis).2 := by
  unfold Counted at counted
  cases stored : redis key with
  | none =>
    simp only [stored] at counted
    have gone : redis.get now key = none := Expiring.get_eq_none_iff.mpr (by simp [stored])
    simp [RedisService.incr, gone, Counted, counted, fits]
  | some entry =>
    obtain ⟨value, expiresAt⟩ := entry
    simp only [stored] at counted
    cases value with
    | text text => exact counted.elim
    | integer c =>
      cases expiresAt with
      | none =>
        have live : redis.get now key = some ⟨.integer c, none⟩ :=
          Expiring.get_eq_some_iff.mpr ⟨stored, rfl⟩
        have shown : n ≤ c := counted
        by_cases first : c = 0
        · simp [RedisService.incr, live, Counted, first, fits]
          omega
        · simp [RedisService.incr, live, Counted, first, shown]
      | some t =>
        rcases counted with ⟨rfl, past⟩ | ⟨le, lasts⟩
        · have gone : redis.get now key = none :=
            Expiring.get_eq_none_iff.mpr (by simp [stored, Entry.live]; omega)
          simp [RedisService.incr, gone, Counted, fits]
        · have live : redis.get now key = some ⟨.integer c, some t⟩ :=
            Expiring.get_eq_some_iff.mpr ⟨stored, by simp [Entry.live]; omega⟩
          by_cases first : c = 0
          · simp [RedisService.incr, live, Counted, first, fits]
            omega
          · simp [RedisService.incr, live, Counted, first, le, lasts]

/-! ### Five failures -/

section

variable (lower : String → String)

/-- The counter of a login is no other key of a login with the same identifier, and no key at all
of a login with another. -/
theorem attemptUser_ne (id ip id' ip' : String) :
    (loginSubject id ip).attemptUser ≠ (loginSubject id' ip').attemptIp ∧
      (loginSubject id ip).attemptUser ≠ (loginSubject id' ip').lockUser ∧
      (loginSubject id ip).attemptUser ≠ (loginSubject id' ip').lockIp :=
  ⟨append_ne_append (by simp) _ _, append_ne_append (by simp) _ _, append_ne_append (by simp) _ _⟩

theorem attemptUser_notMem {id id' : String} (differ : id ≠ id') (ip ip' : String) :
    (loginSubject id ip).attemptUser ∉ (loginSubject id' ip').redisKeys := by
  obtain ⟨attemptIp, lockUser, lockIp⟩ := attemptUser_ne id ip id' ip'
  have attemptUser : (loginSubject id ip).attemptUser ≠ (loginSubject id' ip').attemptUser :=
    fun same => differ ((String.append_right_inj _).mp same)
  simp only [Subject.redisKeys, List.mem_cons, List.not_mem_nil, or_false, not_or]
  exact ⟨attemptUser, attemptIp, lockUser, lockIp⟩

/-- A failed login of the identifier. -/
def Timed.fails (id : String) (t : Timed) : Bool :=
  match t.call with
  | .recordFailedAttempt identifier _ => cleanId lower identifier = id
  | _ => false

/-- A successful login of the identifier. -/
def Timed.succeeds (id : String) (t : Timed) : Bool :=
  match t.call with
  | .recordLoginSuccess identifier _ => cleanId lower identifier = id
  | _ => false

/-- A successful login from an address that is spelled like the identifier. -/
def Timed.spelledLike (id : String) (t : Timed) : Bool :=
  match t.call with
  | .recordLoginSuccess _ ip => address ip = id
  | _ => false

/-- A check, a failure or a success of a login. -/
def Timed.ofLogin (t : Timed) : Bool :=
  match t.call with
  | .checkLoginAllowed .. | .recordFailedAttempt .. | .recordLoginSuccess .. => true
  | .record2FAFailedAttempt .. | .record2FASuccess .. => false

def attemptKey (id : String) : String := "brute:attempt:user:" ++ id

variable {lower} {id : String} {s : BruteForce} {t : Timed} {start finish n : ℕ}

section

variable (counted : Counted (attemptKey id) start finish n s.redis)
include counted

/-- A counted failure of the identifier counts. -/
theorem Counted.failure (ip : String)
    {now : ℕ} (after : start ≤ now) (before : now ≤ finish) (fits : finish ≤ start + 600000) :
    Counted (attemptKey id) start finish (n + 1)
        (BruteForce.countFailure loginPolicy (loginSubject id ip) true now s.redis).1 ∧
      n + 1 ≤ (BruteForce.countFailure loginPolicy (loginSubject id ip) true now s.redis).2 := by
  have fits' : finish ≤ RedisService.expiry now loginPolicy.window :=
    fits.trans (Nat.add_le_add_right after _)
  obtain ⟨user, shown⟩ := counted.incr after before fits'
  exact ⟨user.congr (RedisService.incr_of_ne (attemptUser_ne id ip id ip).1),
    shown.trans (le_max_left _ _)⟩

/-- A call in the window counts when it is a failure of the identifier, and otherwise leaves the
counter. -/
theorem Counted.attempt
    (login : t.ofLogin = true) (noSuccess : t.succeeds lower id = false)
    (reachable : t.fails lower id = true → t.up = true)
    (after : start ≤ t.now) (before : t.now ≤ finish) (fits : finish ≤ start + 600000) :
    Counted (attemptKey id) start finish (n + if t.fails lower id then 1 else 0)
      (attempt lower s t).redis := by
  obtain ⟨now, up, call⟩ := t
  cases call with
  | checkLoginAllowed identifier ip => exact counted
  | recordFailedAttempt identifier ip =>
    simp only [Timed.fails, decide_eq_true_eq] at reachable ⊢
    by_cases own : cleanId lower identifier = id
    · obtain rfl := own
      obtain rfl : up = true := reachable rfl
      have stored := (counted.failure (address ip) after before fits).1
      obtain ⟨-, lockUser, lockIp⟩ := attemptUser_ne (cleanId lower identifier) (address ip)
        (cleanId lower identifier) (address ip)
      rw [if_pos rfl]
      refine stored.congr ?_
      simp only [Rokad.Security.attempt, recordFailedAttempt]
      rcases BruteForce.recordFailure_cases loginPolicy
          (loginSubject (cleanId lower identifier) (address ip)) true now s with
        ⟨-, same⟩ | ⟨seconds, -, -, same⟩
      · rw [same]
      · rw [same]
        exact BruteForce.lock_redis lockUser lockIp
    · rw [if_neg own]
      exact counted.congr (BruteForce.recordFailure_redis
        (attemptUser_notMem (Ne.symm own) (address ip) (address ip)))
  | recordLoginSuccess identifier ip =>
    have other : cleanId lower identifier ≠ id := by simpa [Timed.succeeds] using noSuccess
    exact counted.congr (BruteForce.recordSuccess_redis
      (attemptUser_notMem (Ne.symm other) (address ip) (address ip)))
  | record2FAFailedAttempt userId ip => simp [Timed.ofLogin] at login
  | record2FASuccess userId ip => simp [Timed.ofLogin] at login

/-- Over a window, every failure of the identifier counts. -/
theorem Counted.run {window : List Timed}
    (login : ∀ t ∈ window, t.ofLogin = true)
    (noSuccess : ∀ t ∈ window, t.succeeds lower id = false)
    (reachable : ∀ t ∈ window, t.fails lower id = true → t.up = true)
    (within : ∀ t ∈ window, start ≤ t.now ∧ t.now ≤ finish) (fits : finish ≤ start + 600000) :
    Counted (attemptKey id) start finish (n + window.countP (·.fails lower id))
      (run (Rokad.Security.attempt lower) s window).redis := by
  induction window generalizing s n with
  | nil => simpa using counted
  | cons t window ih =>
    have first := counted.attempt (login t List.mem_cons_self) (noSuccess t List.mem_cons_self)
      (reachable t List.mem_cons_self) (within t List.mem_cons_self).1
      (within t List.mem_cons_self).2 fits
    have rest := ih first (fun u mem => login u (List.mem_cons_of_mem _ mem))
      (fun u mem => noSuccess u (List.mem_cons_of_mem _ mem))
      (fun u mem => reachable u (List.mem_cons_of_mem _ mem))
      (fun u mem => within u (List.mem_cons_of_mem _ mem))
    rw [run_cons, List.countP_cons]
    rwa [Nat.add_assoc, Nat.add_comm (ite _ _ _)] at rest

end

/-! ### The lock in memory -/

/-- The identifier is locked in memory until `finish` at least. -/
def LockedUntil (id : String) (finish : ℕ) (s : BruteForce) : Prop :=
  ∃ m, s.memoryLocks id = some m ∧ finish ≤ m

theorem LockedUntil.congr {s' : BruteForce} (locked : LockedUntil id finish s)
    (same : s'.memoryLocks id = s.memoryLocks id) : LockedUntil id finish s' := by
  obtain ⟨m, stored, le⟩ := locked
  exact ⟨m, same.trans stored, le⟩

theorem five_minutes_le {now seconds finish : ℕ} (long : 300 ≤ seconds)
    (later : finish ≤ now + 300000) : finish ≤ now + seconds * 1000 := by
  omega

theorem memoryKeys_login {id ip key : String} :
    key ∈ (loginSubject id ip).memoryKeys ↔ key = id ∨ key = ip := by
  change key ∈ [id, ip] ↔ key = id ∨ key = ip
  simp only [List.mem_cons, List.not_mem_nil, or_false]

/-- The fifth failure of the window locks the identifier for five minutes at least. -/
theorem lockedUntil_of_fifth {ip : Option String} {now : ℕ} {identifier : String}
    (counted : Counted (attemptKey (cleanId lower identifier)) start finish 4 s.redis)
    (after : start ≤ now) (before : now ≤ finish) (fits : finish ≤ start + 600000) :
    LockedUntil (cleanId lower identifier) (now + 300000)
      (recordFailedAttempt lower identifier ip true now s).1 := by
  obtain ⟨-, five⟩ := counted.failure (address ip) after before fits
  unfold recordFailedAttempt
  rcases BruteForce.recordFailure_cases loginPolicy
      (loginSubject (cleanId lower identifier) (address ip)) true now s with
    ⟨less, -⟩ | ⟨seconds, least, -, same⟩
  · exact absurd less (not_lt.mpr five)
  · have long : 300 ≤ seconds := least
    rw [same]
    exact ⟨_, BruteForce.lock_memory_self (memoryKeys_login.mpr (Or.inl rfl)),
      five_minutes_le long le_rfl⟩

/-- A failure, of whoever it is, can only renew a lock. -/
theorem LockedUntil.recordFailure (locked : LockedUntil id finish s) {policy : Policy}
    (subject : Subject) (up : Bool) {now : ℕ} (long : 300 ≤ policy.fewSeconds)
    (later : finish ≤ now + 300000) :
    LockedUntil id finish (s.recordFailure policy subject up now).1 := by
  rcases BruteForce.recordFailure_cases policy subject up now s with
    ⟨-, same⟩ | ⟨seconds, least, -, same⟩
  · rw [same]
    exact locked
  · rw [same]
    by_cases own : id ∈ subject.memoryKeys
    · exact ⟨_, BruteForce.lock_memory_self own, five_minutes_le (long.trans least) later⟩
    · exact locked.congr (BruteForce.lock_memory own)

/-- Later calls keep the lock: a failure can only renew it. -/
theorem LockedUntil.attempt (locked : LockedUntil id finish s) (login : t.ofLogin = true)
    (noSuccess : t.succeeds lower id = false) (notSpelled : t.spelledLike id = false)
    (later : finish ≤ t.now + 300000) : LockedUntil id finish (attempt lower s t) := by
  obtain ⟨now, up, call⟩ := t
  cases call with
  | checkLoginAllowed identifier ip => exact locked
  | recordFailedAttempt identifier ip => exact locked.recordFailure _ up (le_refl 300) later
  | recordLoginSuccess identifier ip =>
    refine locked.congr (BruteForce.recordSuccess_memory ?_)
    have otherId : cleanId lower identifier ≠ id := of_decide_eq_false noSuccess
    have otherIp : address ip ≠ id := of_decide_eq_false notSpelled
    rw [memoryKeys_login, not_or]
    exact ⟨Ne.symm otherId, Ne.symm otherIp⟩
  | record2FAFailedAttempt userId ip => simp [Timed.ofLogin] at login
  | record2FASuccess userId ip => simp [Timed.ofLogin] at login

/-- A lock in memory refuses the login, whatever Redis answers. -/
theorem refused_of_lockedUntil {identifier : String}
    (locked : LockedUntil (cleanId lower identifier) finish s) (ip : Option String) (up : Bool)
    {now : ℕ} (early : now < finish) :
    ∃ e, checkLoginAllowed lower identifier ip up now s = .error e := by
  obtain ⟨m, stored, le⟩ := locked
  have consulted : cleanId lower identifier ∈
      (loginSubject (cleanId lower identifier) (address ip)).consulted (!isLoopback (address ip)) :=
    List.mem_cons_self
  exact ⟨_, if_pos (BruteForce.lockedSeconds_pos consulted stored (early.trans_le le))⟩

/-! ### Five failures in ten minutes -/

/-- Calls in the order of their times, among them five failures of the identifier within 600
seconds, the last of them `fifth`, and no success of the identifier. -/
structure FiveFailures (lower : String → String) (id : String) (start : ℕ) (before : List Timed)
    (fifth : Timed) (after : List Timed) : Prop where
  login : ∀ t ∈ before ++ fifth :: after, t.ofLogin = true
  sorted : (before ++ fifth :: after).Pairwise (·.now ≤ ·.now)
  window : ∀ t ∈ before ++ [fifth], start ≤ t.now ∧ t.now ≤ start + 600000
  four : 4 ≤ before.countP (·.fails lower id)
  last : fifth.fails lower id = true
  noSuccess : ∀ t ∈ before ++ after, t.succeeds lower id = false

/-- For the 300 seconds after `fifth`, every check for the identifier refuses. -/
def Refused (lower : String → String) (id : String) (fifth : Timed) (s : BruteForce) : Prop :=
  ∀ identifier ip up now, cleanId lower identifier = id → fifth.now ≤ now →
    now < fifth.now + 300000 → ∃ e, checkLoginAllowed lower identifier ip up now s = .error e

theorem Counted.weaken {key : String} {m : ℕ} {redis : Redis}
    (counted : Counted key start finish n redis) (le : m ≤ n) (pos : 0 < m) :
    Counted key start finish m redis := by
  unfold Counted at *
  split at counted
  · omega
  · rcases counted with ⟨zero, -⟩ | ⟨shown, lasts⟩
    · omega
    · exact Or.inr ⟨le.trans shown, lasts⟩
  · exact le.trans counted
  · exact counted

/-- **Lockout.** When each of the five failures finds Redis in reach, the counter of the identifier
does not run out between them, and no login succeeds from an address spelled like the identifier,
the identifier is locked for the 300 seconds after the fifth, whatever the state of Redis then. -/
theorem refused_of_counted (lower : String → String) (s : BruteForce) {before after : List Timed}
    {fifth : Timed} (failures : FiveFailures lower id start before fifth after)
    (counter : Counted (attemptKey id) start fifth.now 0 s.redis)
    (reachable : ∀ t ∈ before ++ [fifth], t.fails lower id = true → t.up = true)
    (notSpelled : ∀ t ∈ after, t.spelledLike id = false) :
    Refused lower id fifth (run (attempt lower) s (before ++ fifth :: after)) := by
  obtain ⟨login, sorted, window, four, last, noSuccess⟩ := failures
  have inWindow := window fifth (by simp)
  have order := List.pairwise_append.mp sorted
  have counted : Counted (attemptKey id) start fifth.now 4 (run (attempt lower) s before).redis := by
    have shown : Counted (attemptKey id) start fifth.now (0 + before.countP (·.fails lower id))
        (run (attempt lower) s before).redis := counter.run ?_ ?_ ?_ ?_ inWindow.2
    · exact shown.weaken (by simpa using four) (by norm_num)
    · exact fun t mem => login t (List.mem_append_left _ mem)
    · exact fun t mem => noSuccess t (List.mem_append_left _ mem)
    · exact fun t mem => reachable t (List.mem_append_left _ mem)
    · exact fun t mem => ⟨(window t (List.mem_append_left _ mem)).1,
        order.2.2 t mem fifth List.mem_cons_self⟩
  have fifthLocks : LockedUntil id (fifth.now + 300000)
      (attempt lower (run (attempt lower) s before) fifth) := by
    obtain ⟨now, up, call⟩ := fifth
    cases call with
    | recordFailedAttempt identifier ip =>
      obtain rfl : cleanId lower identifier = id := of_decide_eq_true last
      obtain rfl : up = true := reachable _ (by simp) last
      exact lockedUntil_of_fifth counted inWindow.1 le_rfl inWindow.2
    | _ => simp [Timed.fails] at last
  have later : ∀ t ∈ after, fifth.now ≤ t.now := (List.pairwise_cons.mp order.2.1).1
  have locked : LockedUntil id (fifth.now + 300000)
      (run (attempt lower) s (before ++ fifth :: after)) := by
    rw [run_append, run_cons]
    refine run_invariant (I := LockedUntil id (fifth.now + 300000))
      (P := fun _ t => t ∈ after) ?_ fifthLocks (along_of_forall fun _ mem => mem)
    intro s t mem locked
    exact locked.attempt (login t (by simp [mem])) (noSuccess t (by simp [mem]))
      (notSpelled t mem) (Nat.add_le_add_right (later t mem) _)
  rintro identifier ip up now rfl - early
  exact refused_of_lockedUntil locked ip up early

end

/-! ### Sara's logins -/

/-- A failed login of Sara, `n` seconds after the first. -/
def saraFails (up : Bool) (n : ℕ) : Timed :=
  ⟨1000 * n, up, .recordFailedAttempt "Sara" (some "10.0.0.7")⟩

theorem fiveFailures_sara (up : Bool) :
    FiveFailures toLowerCase "sara" 0 ([0, 1, 2, 3].map (saraFails up)) (saraFails up 4) [] where
  login := by cases up <;> decide +kernel
  sorted := by cases up <;> decide +kernel
  window := by cases up <;> decide +kernel
  four := by cases up <;> decide +kernel
  last := by cases up <;> decide +kernel
  noSuccess := by cases up <;> decide +kernel

theorem refused_of_counted_sara : Refused toLowerCase "sara" (saraFails true 4)
    (run (attempt toLowerCase) BruteForce.empty
      ([0, 1, 2, 3].map (saraFails true) ++ [saraFails true 4])) :=
  refused_of_counted toLowerCase BruteForce.empty (fiveFailures_sara true) (by decide +kernel)
    (by decide +kernel) (by simp)

/-- With Redis out of reach every failure counts as the first, and the sixth login is allowed. -/
theorem not_refused_of_outage :
    ¬ ∀ (lower : String → String) (id : String) (start : ℕ) (before after : List Timed)
      (fifth : Timed), FiveFailures lower id start before fifth after →
      Refused lower id fifth
        (run (attempt lower) BruteForce.empty (before ++ fifth :: after)) := by
  intro claim
  have refused := claim toLowerCase "sara" 0 _ [] _ (fiveFailures_sara false)
  obtain ⟨e, locked⟩ := refused "Sara" (some "10.0.0.7") false 5000 (by decide +kernel)
    (by decide +kernel) (by decide +kernel)
  have allowed : checkLoginAllowed toLowerCase "Sara" (some "10.0.0.7") false 5000
      (run (attempt toLowerCase) BruteForce.empty
        ([0, 1, 2, 3].map (saraFails false) ++ [saraFails false 4])) = .ok () := by
    decide +kernel
  rw [allowed] at locked
  cases locked

end Rokad.Security
