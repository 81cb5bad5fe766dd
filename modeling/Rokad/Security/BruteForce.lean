import Rokad.Base.Expiring
import Rokad.Base.Run
import Rokad.Common.Jalali

/-!
# Redis and brute-force protection

The commands of `RedisService` on a server that may be out of reach. Every command is
caught: out of reach, `incr` answers 1, `ttl` answers -1, and a write does nothing. Times
are milliseconds.
-/

namespace Rokad.Security

open Rokad.Base

inductive RedisValue where
  | integer (n : ℕ)
  | text (s : String)

abbrev Redis := Expiring String RedisValue

namespace RedisService

def expiry (now ttlSeconds : ℕ) : ℕ := now + 1000 * ttlSeconds

def set (up : Bool) (now : ℕ) (key value : String) (ttlSeconds : ℕ) (redis : Redis) : Redis :=
  if up then Expiring.set redis key ⟨.text value, some (expiry now ttlSeconds)⟩ else redis

def del (up : Bool) (key : String) (redis : Redis) : Redis :=
  if up then Expiring.del redis key else redis

/-- A counter that is started gets the time to live; text is no counter. -/
def incr (up : Bool) (now : ℕ) (key : String) (ttlSeconds : ℕ) (redis : Redis) : Redis × ℕ :=
  if up then
    match redis.get now key with
    | none => (Expiring.set redis key ⟨.integer 1, some (expiry now ttlSeconds)⟩, 1)
    | some ⟨.integer n, expiresAt⟩ =>
      let count := n + 1
      (Expiring.set redis key
        ⟨.integer count, if count = 1 then some (expiry now ttlSeconds) else expiresAt⟩, count)
    | some ⟨.text _, _⟩ => (redis, 1)
  else (redis, 1)

/-- The remaining seconds, to the nearest; -2 without a key, -1 without an expiry. -/
def ttl (up : Bool) (now : ℕ) (key : String) (redis : Redis) : ℤ :=
  if up then
    match redis.get now key with
    | none => -2
    | some ⟨_, none⟩ => -1
    | some ⟨_, some t⟩ => ((t - now + 500) / 1000 : ℕ)
  else -1

variable {up : Bool} {now ttlSeconds : ℕ} {key key' value : String} {redis redis' : Redis}

theorem set_of_ne (differ : key' ≠ key) : set up now key value ttlSeconds redis key' = redis key' := by
  unfold set
  split
  · exact Expiring.set_of_ne differ
  · rfl

theorem del_of_ne (differ : key' ≠ key) : del up key redis key' = redis key' := by
  unfold del
  split
  · exact Expiring.del_of_ne differ
  · rfl

theorem incr_of_ne (differ : key' ≠ key) :
    (incr up now key ttlSeconds redis).1 key' = redis key' := by
  unfold incr
  split
  · split
    · exact Expiring.set_of_ne differ
    · exact Expiring.set_of_ne differ
    · rfl
  · rfl

theorem ttl_congr (same : redis' key = redis key) : ttl up now key redis' = ttl up now key redis := by
  unfold ttl
  rw [Expiring.get_congr same]

end RedisService

/-!
## Brute-force protection

`BruteForceService`: failed logins and failed second factors are counted in Redis, and
enough of them lock a user and an address, in Redis and in a map in memory. The two
kinds differ in their keys and numbers only, so each is a `Subject` and a `Policy`; a
check for a login leaves out the addresses of the host itself.

`lower` is the host's `toLowerCase`; nothing depends on which letters it changes.
-/

open Rokad.Common

/-! ### Keys -/

/-- The keys a call works on, in Redis and in memory. -/
structure Subject where
  (attemptUser attemptIp lockUser lockIp memoryUser memoryIp : String)

def cleanId (lower : String → String) (identifier : String) : String :=
  normalizePersianDigits (lower (trim identifier))

/-- `ipAddress || 'unknown'` -/
def address (ipAddress : Option String) : String := (truthy ipAddress).getD "unknown"

def isLoopback (ip : String) : Bool :=
  ip ∈ ["127.0.0.1", "::1", "::ffff:127.0.0.1", "localhost", "unknown"]

/-- The keys of a login: `id` is the clean identifier. -/
def loginSubject (id ip : String) : Subject where
  attemptUser := "brute:attempt:user:" ++ id
  attemptIp := "brute:attempt:ip:" ++ ip
  lockUser := "brute:lock:user:" ++ id
  lockIp := "brute:lock:ip:" ++ ip
  memoryUser := id
  memoryIp := ip

/-- The keys of a second factor. -/
def twoFactorSubject (userId ip : String) : Subject where
  attemptUser := "brute:attempt:2fa:user:" ++ userId
  attemptIp := "brute:attempt:2fa:ip:" ++ ip
  lockUser := "brute:lock:2fa:user:" ++ userId
  lockIp := "brute:lock:2fa:ip:" ++ ip
  memoryUser := "2fa:" ++ userId
  memoryIp := "2fa:ip:" ++ ip

/-! ### Counting and locking -/

/-- How long attempts count, and how many of them lock for how long. -/
structure Policy where
  (window few fewSeconds many manySeconds : ℕ)
  few_le_many : few ≤ many := by decide
  fewSeconds_le_manySeconds : fewSeconds ≤ manySeconds := by decide

def loginPolicy : Policy where
  window := 600
  few := 5
  fewSeconds := 300
  many := 10
  manySeconds := 1800

def twoFactorPolicy : Policy where
  window := 300
  few := 3
  fewSeconds := 300
  many := 5
  manySeconds := 900

structure BruteForce where
  redis : Redis
  memoryLocks : String → Option ℕ

namespace BruteForce

def empty : BruteForce := ⟨Expiring.empty, fun _ => none⟩

def lock (subject : Subject) (lockSeconds : ℕ) (up : Bool) (now : ℕ) (s : BruteForce) :
    BruteForce where
  redis := RedisService.set up now subject.lockIp "locked" lockSeconds
    (RedisService.set up now subject.lockUser "locked" lockSeconds s.redis)
  memoryLocks := Function.update
    (Function.update s.memoryLocks subject.memoryUser (some (now + lockSeconds * 1000)))
    subject.memoryIp (some (now + lockSeconds * 1000))

/-- Both counters go up; their maximum is what counts. -/
def countFailure (policy : Policy) (subject : Subject) (up : Bool) (now : ℕ) (redis : Redis) :
    Redis × ℕ :=
  let user := RedisService.incr up now subject.attemptUser policy.window redis
  let ip := RedisService.incr up now subject.attemptIp policy.window user.1
  (ip.1, max user.2 ip.2)

def recordFailure (policy : Policy) (subject : Subject) (up : Bool) (now : ℕ) (s : BruteForce) :
    BruteForce × ℕ :=
  let (redis, maxAttempts) := countFailure policy subject up now s.redis
  if policy.many ≤ maxAttempts then
    (lock subject policy.manySeconds up now { s with redis }, maxAttempts)
  else if policy.few ≤ maxAttempts then
    (lock subject policy.fewSeconds up now { s with redis }, maxAttempts)
  else ({ s with redis }, maxAttempts)

def recordSuccess (subject : Subject) (up : Bool) (s : BruteForce) : BruteForce where
  redis := RedisService.del up subject.lockIp (RedisService.del up subject.attemptIp
    (RedisService.del up subject.lockUser (RedisService.del up subject.attemptUser s.redis)))
  memoryLocks := Function.update (Function.update s.memoryLocks subject.memoryUser none)
    subject.memoryIp none

/-- What Redis says of the locks. -/
def maxTtl (subject : Subject) (withIp up : Bool) (now : ℕ) (s : BruteForce) : ℤ :=
  max (RedisService.ttl up now subject.lockUser s.redis)
    (if withIp then RedisService.ttl up now subject.lockIp s.redis else 0)

/-- Until when memory says the subject is locked. -/
def memLock (subject : Subject) (withIp : Bool) (s : BruteForce) : ℕ :=
  max ((s.memoryLocks subject.memoryUser).getD 0)
    (if withIp then (s.memoryLocks subject.memoryIp).getD 0 else 0)

/-- The seconds for which the subject is locked; positive when it is. -/
def lockedSeconds (subject : Subject) (withIp up : Bool) (now : ℕ) (s : BruteForce) : ℤ :=
  if s.maxTtl subject withIp up now ≤ 0 then
    if now < s.memLock subject withIp then
      ((s.memLock subject withIp - now + 999) / 1000 : ℕ)
    else s.maxTtl subject withIp up now
  else s.maxTtl subject withIp up now

end BruteForce

/-! ### The service -/

structure TooManyRequests where
  message : String
  remainingSeconds : ℤ
deriving DecidableEq

def refuseIfLocked (before after : String) (maxTtl : ℤ) : Except TooManyRequests Unit :=
  if 0 < maxTtl then
    .error ⟨before ++ toString ((maxTtl + 59) / 60) ++ after, maxTtl⟩
  else .ok ()

variable (lower : String → String)

def checkLoginAllowed (identifier : String) (ipAddress : Option String) (up : Bool) (now : ℕ)
    (s : BruteForce) : Except TooManyRequests Unit :=
  let ip := address ipAddress
  refuseIfLocked "به دلیل ورودهای ناموفق مکرر، ورود موقتاً مسدود شده است. لطفاً "
    " دقیقه دیگر تلاش فرمایید."
    (s.lockedSeconds (loginSubject (cleanId lower identifier) ip) (!isLoopback ip) up now)

def recordFailedAttempt (identifier : String) (ipAddress : Option String) (up : Bool) (now : ℕ)
    (s : BruteForce) : BruteForce × ℕ :=
  s.recordFailure loginPolicy (loginSubject (cleanId lower identifier) (address ipAddress)) up now

def recordLoginSuccess (identifier : String) (ipAddress : Option String) (up : Bool)
    (s : BruteForce) : BruteForce :=
  s.recordSuccess (loginSubject (cleanId lower identifier) (address ipAddress)) up

def check2FAAllowed (userId : String) (ipAddress : Option String) (up : Bool) (now : ℕ)
    (s : BruteForce) : Except TooManyRequests Unit :=
  refuseIfLocked "تعداد تلاش‌های ناموفق کد امنیتی دوعاملی بیش از حد مجاز است. لطفاً "
    " دقیقه دیگر مجدداً تلاش فرمایید."
    (s.lockedSeconds (twoFactorSubject userId (address ipAddress)) true up now)

def record2FAFailedAttempt (userId : String) (ipAddress : Option String) (up : Bool) (now : ℕ)
    (s : BruteForce) : BruteForce × ℕ :=
  s.recordFailure twoFactorPolicy (twoFactorSubject userId (address ipAddress)) up now

def record2FASuccess (userId : String) (ipAddress : Option String) (up : Bool) (s : BruteForce) :
    BruteForce :=
  s.recordSuccess (twoFactorSubject userId (address ipAddress)) up

/-! ### Calls -/

inductive AttemptCall where
  | checkLoginAllowed (identifier : String) (ipAddress : Option String)
  | recordFailedAttempt (identifier : String) (ipAddress : Option String)
  | recordLoginSuccess (identifier : String) (ipAddress : Option String)
  | record2FAFailedAttempt (userId : String) (ipAddress : Option String)
  | record2FASuccess (userId : String) (ipAddress : Option String)

/-- A call with the time it is made at, and whether Redis is in reach. -/
structure Timed where
  now : ℕ
  up : Bool
  call : AttemptCall

/-- The state a call leaves; a check leaves it as it is. -/
def attempt (s : BruteForce) (t : Timed) : BruteForce :=
  match t.call with
  | .checkLoginAllowed .. => s
  | .recordFailedAttempt identifier ip =>
    (recordFailedAttempt lower identifier ip t.up t.now s).1
  | .recordLoginSuccess identifier ip => recordLoginSuccess lower identifier ip t.up s
  | .record2FAFailedAttempt userId ip => (record2FAFailedAttempt userId ip t.up t.now s).1
  | .record2FASuccess userId ip => record2FASuccess userId ip t.up s

end Rokad.Security
