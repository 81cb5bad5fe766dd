import Rokad.Security.Separation

/-!
# What failures lock

The state that failed logins leave, exactly, when Redis is in reach, nothing recorded before counts
any more, no two share an address, and they fall within one window of 600 seconds. A failure locks its
identifier and its address for 300 seconds if it is at least the fifth of its identifier; nothing
else locks (`Exact`). A check refuses exactly while such a failure that shares a name with it is
less than 300 seconds old (`locked_iff`).
-/

namespace Rokad.Security

open Rokad.Base

theorem refuseIfLocked_eq_ok_iff {before after : String} {maxTtl : ℤ} :
    refuseIfLocked before after maxTtl = .ok () ↔ ¬ 0 < maxTtl := by
  unfold refuseIfLocked
  split <;> simp [*]

/-- A failed login: its clean identifier, its address and its time. -/
structure LoginFailure where
  (id ip : String)
  now : ℕ

namespace LoginFailure

def subject (f : LoginFailure) : Subject := loginSubject f.id f.ip

/-- What a failure that locks, locks in memory. -/
def names (f : LoginFailure) : List String := [f.id, f.ip]

/-- The keys it writes in Redis, by their kind. -/
def keys (f : LoginFailure) : List (String × String) :=
  [("brute:attempt:user:", f.id), ("brute:attempt:ip:", f.ip), ("brute:lock:user:", f.id),
    ("brute:lock:ip:", f.ip)]

theorem not_mem_keys {f : LoginFailure} {p a : String}
    (id : p ∈ ["brute:attempt:user:", "brute:lock:user:"] → a ≠ f.id)
    (ip : p ∈ ["brute:attempt:ip:", "brute:lock:ip:"] → a ≠ f.ip) : (p, a) ∉ f.keys := by
  intro mem
  simp only [keys, List.mem_cons, List.not_mem_nil, or_false, Prod.mk.injEq] at mem
  rcases mem with ⟨rfl, same⟩ | ⟨rfl, same⟩ | ⟨rfl, same⟩ | ⟨rfl, same⟩
  · exact id (by decide) same
  · exact ip (by decide) same
  · exact id (by decide) same
  · exact ip (by decide) same

end LoginFailure

def countFailed (fs : List LoginFailure) (id : String) : ℕ := fs.countP (·.id = id)

/-- Among the failures, this one is at least the fifth of its identifier. -/
def Trips (fs : List LoginFailure) (f : LoginFailure) : Prop :=
  ∃ earlier later, fs = earlier ++ f :: later ∧ 4 ≤ countFailed earlier f.id

def fail (s : BruteForce) (f : LoginFailure) : BruteForce :=
  (s.recordFailure loginPolicy f.subject true f.now).1

/-- The protection lets the login through to the passwords. -/
def lets (s : BruteForce) (f : LoginFailure) : Prop :=
  s.lockedSeconds f.subject (!isLoopback f.ip) true f.now ≤ 0

section

variable {fs : List LoginFailure} {f g : LoginFailure} {id : String}

theorem countFailed_append : countFailed (fs ++ [g]) id =
    countFailed fs id + if g.id = id then 1 else 0 := by
  simp [countFailed, List.countP_append, List.countP_cons]

/-- One failure more trips if it is the fifth; the others trip as before. -/
theorem trips_append : Trips (fs ++ [g]) f ↔ Trips fs f ∨ f = g ∧ 4 ≤ countFailed fs g.id := by
  constructor
  · rintro ⟨earlier, later, split, four⟩
    rcases List.eq_nil_or_concat later with rfl | ⟨front, last, rfl⟩
    · obtain ⟨rfl, same⟩ := List.append_inj' split rfl
      cases same
      exact Or.inr ⟨rfl, four⟩
    · rw [List.concat_eq_append, ← List.cons_append, ← List.append_assoc] at split
      obtain ⟨rfl, -⟩ := List.append_inj' split rfl
      exact Or.inl ⟨earlier, front, rfl, four⟩
  · rintro (⟨earlier, later, rfl, four⟩ | ⟨rfl, four⟩)
    · exact ⟨earlier, later ++ [g], by simp, four⟩
    · exact ⟨fs, [], rfl, four⟩

theorem Trips.mem (trips : Trips fs f) : f ∈ fs := by
  obtain ⟨earlier, later, rfl, -⟩ := trips
  simp

end

/-- At `start` the key has run out. -/
def Gone (start : ℕ) (redis : Redis) (key : String) : Prop :=
  ∀ entry, redis key = some entry → entry.live start = false

theorem Gone.congr {start : ℕ} {redis redis' : Redis} {key : String} (gone : Gone start redis key)
    (same : redis' key = redis key) : Gone start redis' key :=
  fun entry stored => gone entry (same.symm.trans stored)

/-- Nothing that was recorded of logins before `start` counts any more. -/
structure Quiet (start : ℕ) (s : BruteForce) : Prop where
  user : ∀ id, Gone start s.redis (attemptKey id)
  address : ∀ ip, Gone start s.redis ("brute:attempt:ip:" ++ ip)
  lockUser : ∀ id, Gone start s.redis ("brute:lock:user:" ++ id)
  lockIp : ∀ ip, Gone start s.redis ("brute:lock:ip:" ++ ip)
  memory : ∀ name m, s.memoryLocks name = some m → m ≤ start

theorem quiet_empty (start : ℕ) : Quiet start .empty where
  user _ _ stored := by cases stored
  address _ _ stored := by cases stored
  lockUser _ _ stored := by cases stored
  lockIp _ _ stored := by cases stored
  memory _ _ stored := by cases stored

/-- The state is what the failures, from `start` on, leave of a quiet one. -/
structure Exact (start : ℕ) (fs : List LoginFailure) (s : BruteForce) : Prop where
  count : ∀ id, countFailed fs id = 0 ∧ Gone start s.redis (attemptKey id) ∨
    0 < countFailed fs id ∧ ∃ e, start + 600000 ≤ e ∧
      s.redis (attemptKey id) = some ⟨.integer (countFailed fs id), some e⟩
  first : ∀ ip ∉ fs.map (·.ip), Gone start s.redis ("brute:attempt:ip:" ++ ip)
  few : ∀ id, 5 ≤ countFailed fs id → LockedUntil id (start + (countFailed fs id - 4) * 300000) s
  memory : ∀ name m, s.memoryLocks name = some m →
    m ≤ start ∨ ∃ f, Trips fs f ∧ name ∈ f.names ∧ m = f.now + 300000
  locked : ∀ f, Trips fs f → ∀ name ∈ f.names, LockedUntil name (f.now + 300000) s
  user : ∀ id entry, s.redis ("brute:lock:user:" ++ id) = some entry → entry.live start = false ∨
      ∃ f, Trips fs f ∧ id = f.id ∧ entry.expiresAt = some (f.now + 300000)
  address : ∀ ip entry, s.redis ("brute:lock:ip:" ++ ip) = some entry → entry.live start = false ∨
      ∃ f, Trips fs f ∧ ip = f.ip ∧ entry.expiresAt = some (f.now + 300000)

theorem Quiet.exact {start : ℕ} {s : BruteForce} (quiet : Quiet start s) : Exact start [] s where
  count id := Or.inl ⟨rfl, quiet.user id⟩
  first ip _ := quiet.address ip
  few _ five := by simp [countFailed] at five
  memory name m stored := Or.inl (quiet.memory name m stored)
  locked f trips := by cases trips.mem
  user id entry stored := Or.inl (quiet.lockUser id entry stored)
  address ip entry stored := Or.inl (quiet.lockIp ip entry stored)

theorem Gone.get_eq_none {start now : ℕ} {redis : Redis} {key : String}
    (gone : Gone start redis key) (after : start ≤ now) : redis.get now key = none :=
  Expiring.get_eq_none_iff.mpr fun entry stored => Entry.live_eq_false (gone entry stored) after

variable {start : ℕ} {fs : List LoginFailure} {s : BruteForce} {g : LoginFailure}

/-- A counter that is not there is started. -/
theorem incr_of_none {key : String} {now window : ℕ} {redis : Redis}
    (absent : redis.get now key = none) :
    RedisService.incr true now key window redis =
      (Expiring.set redis key ⟨.integer 1, some (RedisService.expiry now window)⟩, 1) := by
  simp [RedisService.incr, absent]

/-- A counter that has not run out goes up. -/
theorem incr_of_some {key : String} {now window n e : ℕ} {redis : Redis} (positive : 0 < n)
    (stored : redis key = some ⟨.integer n, some e⟩) (lasts : now ≤ e) :
    RedisService.incr true now key window redis =
      (Expiring.set redis key ⟨.integer (n + 1), some e⟩, n + 1) := by
  have live : redis.get now key = some ⟨.integer n, some e⟩ :=
    Expiring.get_eq_some_iff.mpr ⟨stored, by simpa [Entry.live] using lasts⟩
  simp [RedisService.incr, live, positive.ne']

/-- The failure is counted for its identifier; for its address it is the first. -/
theorem Exact.counted (exact : Exact start fs s) (after : start ≤ g.now)
    (before : g.now ≤ start + 600000) (newIp : g.ip ∉ fs.map (·.ip)) :
    (BruteForce.countFailure loginPolicy g.subject true g.now s.redis).2 = countFailed fs g.id + 1 ∧
      ∃ e, start + 600000 ≤ e ∧
        (BruteForce.countFailure loginPolicy g.subject true g.now s.redis).1 (attemptKey g.id) =
          some ⟨.integer (countFailed fs g.id + 1), some e⟩ := by
  have apart : attemptKey g.id ≠ g.subject.attemptIp := (attemptUser_ne g.id g.ip g.id g.ip).1
  obtain ⟨e, lasts, counted⟩ : ∃ e, start + 600000 ≤ e ∧
      RedisService.incr true g.now (attemptKey g.id) loginPolicy.window s.redis =
        (Expiring.set s.redis (attemptKey g.id)
          ⟨.integer (countFailed fs g.id + 1), some e⟩, countFailed fs g.id + 1) := by
    rcases exact.count g.id with ⟨zero, gone⟩ | ⟨positive, e, lasts, stored⟩
    · refine ⟨_, ?_, by rw [incr_of_none (gone.get_eq_none after), zero]⟩
      exact Nat.add_le_add_right after _
    · exact ⟨e, lasts, incr_of_some positive stored (before.trans lasts)⟩
  have firstIp : Expiring.get (Expiring.set s.redis (attemptKey g.id)
      ⟨.integer (countFailed fs g.id + 1), some e⟩) g.now g.subject.attemptIp = none := by
    rw [Expiring.get_congr (Expiring.set_of_ne apart.symm)]
    exact (exact.first g.ip newIp).get_eq_none after
  have both : BruteForce.countFailure loginPolicy g.subject true g.now s.redis =
      (Expiring.set (Expiring.set s.redis (attemptKey g.id)
        ⟨.integer (countFailed fs g.id + 1), some e⟩) g.subject.attemptIp
          ⟨.integer 1, some (RedisService.expiry g.now loginPolicy.window)⟩,
        max (countFailed fs g.id + 1) 1) := by
    unfold BruteForce.countFailure
    rw [show g.subject.attemptUser = attemptKey g.id from rfl, counted]
    simp only [incr_of_none firstIp]
  rw [both]
  refine ⟨by simp, e, lasts, ?_⟩
  dsimp only
  rw [Expiring.set_of_ne apart, Expiring.set_self]

/-- Past the fourth failure of an identifier, each one waited for the lock of the one before. -/
theorem Exact.waited (exact : Exact start fs s) (after : start ≤ g.now) (through : lets s g) :
    start + (countFailed fs g.id - 4) * 300000 ≤ g.now := by
  by_cases five : 5 ≤ countFailed fs g.id
  · obtain ⟨m, stored, le⟩ := exact.few g.id five
    refine le.trans ?_
    by_contra early
    have locks : 0 < s.lockedSeconds g.subject (!isLoopback g.ip) true g.now :=
      BruteForce.lockedSeconds_pos List.mem_cons_self stored (not_le.mp early)
    exact absurd through (not_le.mpr locks)
  · have none : countFailed fs g.id - 4 = 0 := by omega
    rwa [none, Nat.zero_mul, Nat.add_zero]

/-- The fifth failure of an identifier locks, and those after it. -/
theorem Exact.fail_cases (exact : Exact start fs s) (after : start ≤ g.now)
    (before : g.now ≤ start + 600000) (newIp : g.ip ∉ fs.map (·.ip)) (through : lets s g) :
    countFailed fs g.id < 4 ∧ fail s g = { s with redis :=
      (BruteForce.countFailure loginPolicy g.subject true g.now s.redis).1 } ∨
    4 ≤ countFailed fs g.id ∧ fail s g = BruteForce.lock g.subject 300 true g.now { s with redis :=
      (BruteForce.countFailure loginPolicy g.subject true g.now s.redis).1 } := by
  obtain ⟨shown, -⟩ := exact.counted after before newIp
  have waited := exact.waited after through
  have seventh : countFailed fs g.id + 1 < loginPolicy.many := by
    change countFailed fs g.id + 1 < 10
    omega
  unfold fail BruteForce.recordFailure
  generalize BruteForce.countFailure loginPolicy g.subject true g.now s.redis = counted at shown ⊢
  obtain ⟨redis, n⟩ := counted
  dsimp only at shown ⊢
  rw [shown, if_neg (not_le.mpr seventh)]
  by_cases five : loginPolicy.few ≤ countFailed fs g.id + 1
  · rw [if_pos five]
    exact Or.inr ⟨Nat.le_of_succ_le_succ five, rfl⟩
  · rw [if_neg five]
    exact Or.inl ⟨Nat.lt_of_succ_lt_succ (not_le.mp five), rfl⟩

/-- The keys of a failure, by their kind. -/
theorem mem_subject_redisKeys {p a : String} (hp : p ∈ prefixes) :
    p ++ a ∈ g.subject.redisKeys ↔ (p, a) ∈ g.keys := by
  have same_iff : ∀ {q b : String}, q ∈ prefixes → (p ++ a = q ++ b ↔ (p, a) = (q, b)) := by
    intro q b hq
    constructor
    · intro same
      obtain rfl : p = q := by_contra fun differ => key_ne hp hq differ a b same
      rw [(String.append_right_inj p).mp same]
    · rintro ⟨⟩
      rfl
  change p ++ a ∈ ["brute:attempt:user:" ++ g.id, "brute:attempt:ip:" ++ g.ip,
    "brute:lock:user:" ++ g.id, "brute:lock:ip:" ++ g.ip] ↔ _
  simp only [LoginFailure.keys, List.mem_cons, List.not_mem_nil, or_false]
  rw [same_iff (by simp [prefixes]), same_iff (by simp [prefixes]), same_iff (by simp [prefixes]),
    same_iff (by simp [prefixes])]

/-- What a failure changes: its counter, and, from the fifth on, the locks of its names. -/
structure Changes (fs : List LoginFailure) (g : LoginFailure) (s s' : BruteForce) : Prop where
  other : ∀ p a, p ∈ prefixes → (p, a) ∉ g.keys → s'.redis (p ++ a) = s.redis (p ++ a)
  memory : ∀ name m, s'.memoryLocks name = some m → s.memoryLocks name = some m ∨
    4 ≤ countFailed fs g.id ∧ name ∈ g.names ∧ m = g.now + 300000
  locks : 4 ≤ countFailed fs g.id → ∀ name ∈ g.names, LockedUntil name (g.now + 300000) s'
  renews : ∀ name finish, LockedUntil name finish s → finish ≤ g.now + 300000 →
    LockedUntil name finish s'
  user : ∀ entry, s'.redis ("brute:lock:user:" ++ g.id) = some entry →
    s.redis ("brute:lock:user:" ++ g.id) = some entry ∨
      4 ≤ countFailed fs g.id ∧ entry.expiresAt = some (g.now + 300000)
  address : ∀ entry, s'.redis ("brute:lock:ip:" ++ g.ip) = some entry →
    s.redis ("brute:lock:ip:" ++ g.ip) = some entry ∨
      4 ≤ countFailed fs g.id ∧ entry.expiresAt = some (g.now + 300000)

theorem Exact.changes (exact : Exact start fs s) (after : start ≤ g.now)
    (before : g.now ≤ start + 600000) (newIp : g.ip ∉ fs.map (·.ip)) (through : lets s g) :
    Changes fs g s (Security.fail s g) := by
  have attempts : ∀ {p a}, p ∈ prefixes → (p, a) ∉ [("brute:attempt:user:", g.id),
      ("brute:attempt:ip:", g.ip)] →
        (BruteForce.countFailure loginPolicy g.subject true g.now s.redis).1 (p ++ a) =
          s.redis (p ++ a) := by
    intro p a hp apart
    simp only [List.mem_cons, List.not_mem_nil, or_false, not_or, Prod.mk.injEq, not_and] at apart
    refine BruteForce.countFailure_redis ?_ ?_
    · intro same
      by_cases kind : p = "brute:attempt:user:"
      · subst kind
        exact apart.1 rfl ((String.append_right_inj _).mp same)
      · exact key_ne hp (by simp [prefixes]) kind a g.id same
    · intro same
      by_cases kind : p = "brute:attempt:ip:"
      · subst kind
        exact apart.2 rfl ((String.append_right_inj _).mp same)
      · exact key_ne hp (by simp [prefixes]) kind a g.ip same
  have apart : g.subject.lockUser ≠ g.subject.lockIp :=
    key_ne (by simp [prefixes]) (by simp [prefixes]) (by simp) g.id g.ip
  refine ⟨fun p a hp apart => BruteForce.recordFailure_redis
    (mt (mem_subject_redisKeys hp).mp apart), ?_, ?_, fun name finish locked later =>
      locked.recordFailure g.subject true (le_refl 300) later, ?_, ?_⟩ <;>
  rcases exact.fail_cases after before newIp through with ⟨few, same⟩ | ⟨four, same⟩ <;>
  rw [same]
  · exact fun name m stored => Or.inl stored
  · intro name m stored
    by_cases own : name ∈ g.subject.memoryKeys
    · rw [BruteForce.lock_memory_self own] at stored
      cases stored
      exact Or.inr ⟨four, own, rfl⟩
    · rw [BruteForce.lock_memory own] at stored
      exact Or.inl stored
  · exact fun four => absurd four (not_le.mpr few)
  · exact fun _ name own => ⟨_, BruteForce.lock_memory_self own, le_rfl⟩
  · intro entry stored
    have kept := attempts (p := "brute:lock:user:") (a := g.id) (by simp [prefixes]) (by simp)
    exact Or.inl (kept.symm.trans stored)
  · intro entry stored
    refine Or.inr ⟨four, ?_⟩
    change RedisService.set true g.now g.subject.lockIp "locked" 300 (RedisService.set true g.now
      g.subject.lockUser "locked" 300 _) g.subject.lockUser = some entry at stored
    rw [RedisService.set_of_ne apart] at stored
    simp only [RedisService.set, if_true, Expiring.set_self, Option.some.injEq] at stored
    rw [← stored]
    rfl
  · intro entry stored
    have kept := attempts (p := "brute:lock:ip:") (a := g.ip) (by simp [prefixes]) (by simp)
    exact Or.inl (kept.symm.trans stored)
  · intro entry stored
    refine Or.inr ⟨four, ?_⟩
    change RedisService.set true g.now g.subject.lockIp "locked" 300 (RedisService.set true g.now
      g.subject.lockUser "locked" 300 _) g.subject.lockIp = some entry at stored
    simp only [RedisService.set, if_true, Expiring.set_self, Option.some.injEq] at stored
    rw [← stored]
    rfl

/-- The state after one failure more. -/
theorem Exact.fail (exact : Exact start fs s) (past : ∀ f ∈ fs, f.now ≤ g.now)
    (after : start ≤ g.now) (before : g.now ≤ start + 600000) (newIp : g.ip ∉ fs.map (·.ip))
    (through : lets s g) : Exact start (fs ++ [g]) (Security.fail s g) := by
  obtain ⟨-, e, lasts, counted⟩ := exact.counted after before newIp
  have waited := exact.waited after through
  have changes := exact.changes after before newIp through
  have own : (Security.fail s g).redis (attemptKey g.id) =
      some ⟨.integer (countFailed fs g.id + 1), some e⟩ := by
    obtain ⟨-, lockUser, lockIp⟩ := attemptUser_ne g.id g.ip g.id g.ip
    rcases exact.fail_cases after before newIp through with ⟨-, same⟩ | ⟨-, same⟩ <;> rw [same]
    · exact counted
    · exact (BruteForce.lock_redis lockUser lockIp).trans counted
  have old : ∀ {f}, Trips fs f → Trips (fs ++ [g]) f := fun trips => trips_append.mpr (Or.inl trips)
  have new : 4 ≤ countFailed fs g.id → Trips (fs ++ [g]) g :=
    fun four => trips_append.mpr (Or.inr ⟨rfl, four⟩)
  have later : ∀ {f}, Trips fs f → f.now + 300000 ≤ g.now + 300000 := fun trips =>
    Nat.add_le_add_right (past _ trips.mem) _
  refine ⟨fun id => ?_, fun ip notIn => ?_, fun id five => ?_, fun name m stored => ?_,
    fun f trips name named => ?_, fun id entry stored => ?_, fun ip entry stored => ?_⟩
  · rw [countFailed_append]
    by_cases same : g.id = id
    · subst same
      rw [if_pos rfl]
      exact Or.inr ⟨Nat.succ_pos _, e, lasts, own⟩
    · have kept : (Security.fail s g).redis (attemptKey id) = s.redis (attemptKey id) :=
        changes.other "brute:attempt:user:" id (by simp [prefixes])
          (LoginFailure.not_mem_keys (fun _ => Ne.symm same) fun ip => absurd ip (by decide))
      rw [if_neg same, Nat.add_zero, kept]
      exact (exact.count id).imp_left (And.imp_right (·.congr kept))
  · simp only [List.map_append, List.map_cons, List.map_nil, List.mem_append, List.mem_singleton,
      not_or] at notIn
    exact (exact.first ip notIn.1).congr (changes.other "brute:attempt:ip:" ip (by simp [prefixes])
      (LoginFailure.not_mem_keys (fun id => absurd id (by decide)) fun _ => notIn.2))
  · rw [countFailed_append] at five ⊢
    by_cases same : g.id = id
    · subst same
      rw [if_pos rfl] at five ⊢
      obtain ⟨m, stored, le⟩ :=
        changes.locks (Nat.le_of_succ_le_succ five) g.id List.mem_cons_self
      refine ⟨m, stored, le_trans ?_ le⟩
      have spent : countFailed fs g.id + 1 - 4 ≤ countFailed fs g.id - 4 + 1 := by omega
      linarith [Nat.mul_le_mul_right 300000 spent]
    · rw [if_neg same, Nat.add_zero] at five ⊢
      obtain ⟨m, stored, le⟩ := exact.few id five
      refine changes.renews id _ ⟨_, stored, le⟩ (le.trans ?_)
      rcases exact.memory id m stored with ended | ⟨f, trips, -, rfl⟩
      · exact (ended.trans after).trans (Nat.le_add_right _ _)
      · exact later trips
  · rcases changes.memory name m stored with before | ⟨four, named, rfl⟩
    · exact (exact.memory name m before).imp_right (Exists.imp fun _ => And.imp_left old)
    · exact Or.inr ⟨g, new four, named, rfl⟩
  · rcases trips_append.mp trips with before | ⟨rfl, four⟩
    · exact changes.renews name _ (exact.locked f before name named) (later before)
    · exact changes.locks four name named
  · by_cases same : id = g.id
    · subst same
      rcases changes.user entry stored with before | ⟨four, expires⟩
      · exact (exact.user g.id entry before).imp_right (Exists.imp fun _ => And.imp_left old)
      · exact Or.inr ⟨g, new four, rfl, expires⟩
    · rw [changes.other "brute:lock:user:" id (by simp [prefixes])
        (LoginFailure.not_mem_keys (fun _ => same) fun ip => absurd ip (by decide))] at stored
      exact (exact.user id entry stored).imp_right (Exists.imp fun _ => And.imp_left old)
  · by_cases same : ip = g.ip
    · subst same
      rcases changes.address entry stored with before | ⟨four, expires⟩
      · exact (exact.address g.ip entry before).imp_right (Exists.imp fun _ => And.imp_left old)
      · exact Or.inr ⟨g, new four, rfl, expires⟩
    · rw [changes.other "brute:lock:ip:" ip (by simp [prefixes])
        (LoginFailure.not_mem_keys (fun id => absurd id (by decide)) fun _ => same)] at stored
      exact (exact.address ip entry stored).imp_right (Exists.imp fun _ => And.imp_left old)

/-- What has still time to live has not run out, and has a time it lives to. -/
theorem ttl_pos {key : String} {now : ℕ} {redis : Redis}
    (positive : 0 < RedisService.ttl true now key redis) :
    ∃ entry t, redis.get now key = some entry ∧ entry.expiresAt = some t ∧ now < t := by
  simp only [RedisService.ttl, if_true] at positive
  cases live : redis.get now key with
  | none =>
    rw [live] at positive
    simp at positive
  | some entry =>
    rw [live] at positive
    obtain ⟨value, expiresAt⟩ := entry
    cases expiresAt with
    | none => simp at positive
    | some t => exact ⟨_, t, rfl, rfl, by simp at positive; omega⟩

/-- A check refuses exactly while a failure that locks, and shares a name with it, is young. -/
theorem Exact.locked_iff (exact : Exact start fs s) (id ip : String) (withIp : Bool) {now : ℕ}
    (after : start ≤ now) :
    0 < s.lockedSeconds (loginSubject id ip) withIp true now ↔
      ∃ f, Trips fs f ∧ now < f.now + 300000 ∧ (id ∈ f.names ∨ withIp = true ∧ ip ∈ f.names) := by
  constructor
  · intro locked
    by_cases ttl : s.maxTtl (loginSubject id ip) withIp true now ≤ 0
    · have early : now < s.memLock (loginSubject id ip) withIp := by
        by_contra late
        rw [BruteForce.lockedSeconds, if_pos ttl, if_neg late] at locked
        exact absurd locked (not_lt.mpr ttl)
      have young : ∀ name, now < (s.memoryLocks name).getD 0 →
          ∃ f, Trips fs f ∧ now < f.now + 300000 ∧ name ∈ f.names := by
        intro name early
        cases stored : s.memoryLocks name with
        | none => simp [stored] at early
        | some m =>
          rw [stored, Option.getD_some] at early
          rcases exact.memory name m stored with ended | ⟨f, trips, named, rfl⟩
          · exact absurd early (not_lt.mpr (ended.trans after))
          · exact ⟨f, trips, early, named⟩
      rcases lt_max_iff.mp early with user | address
      · obtain ⟨f, trips, early, named⟩ := young id user
        exact ⟨f, trips, early, Or.inl named⟩
      · cases withIp with
        | false => simp at address
        | true =>
          obtain ⟨f, trips, early, named⟩ := young ip address
          exact ⟨f, trips, early, Or.inr ⟨rfl, named⟩⟩
    · rcases lt_max_iff.mp (not_le.mp ttl) with user | address
      · obtain ⟨entry, t, live, expires, early⟩ := ttl_pos user
        obtain ⟨stored, alive⟩ := Expiring.get_eq_some_iff.mp live
        rcases exact.user id entry stored with
          ended | ⟨f, trips, same, finish⟩
        · rw [Entry.live_eq_false ended after] at alive
          cases alive
        · rw [expires, Option.some.injEq] at finish
          exact ⟨f, trips, finish ▸ early, Or.inl (same ▸ List.mem_cons_self)⟩
      · cases withIp with
        | false => simp at address
        | true =>
          obtain ⟨entry, t, live, expires, early⟩ := ttl_pos address
          obtain ⟨stored, alive⟩ := Expiring.get_eq_some_iff.mp live
          rcases exact.address ip entry stored with
            ended | ⟨f, trips, same, finish⟩
          · rw [Entry.live_eq_false ended after] at alive
            cases alive
          · rw [expires, Option.some.injEq] at finish
            exact ⟨f, trips, finish ▸ early, Or.inr ⟨rfl, by simp [LoginFailure.names, same]⟩⟩
  · rintro ⟨f, trips, early, shared⟩
    have consulted : ∃ name ∈ (loginSubject id ip).consulted withIp, name ∈ f.names := by
      rcases shared with user | ⟨rfl, address⟩
      · exact ⟨id, List.mem_cons_self, user⟩
      · exact ⟨ip, List.mem_cons_of_mem _ (List.mem_singleton.mpr rfl), address⟩
    obtain ⟨name, looked, named⟩ := consulted
    obtain ⟨m, stored, le⟩ := exact.locked f trips name named
    exact BruteForce.lockedSeconds_pos looked stored (early.trans_le le)

end Rokad.Security
