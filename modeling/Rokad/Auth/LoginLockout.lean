import Rokad.Auth.Families
import Rokad.Auth.Login
import Rokad.Security.Tripping

/-!
# Failed logins of one account

The lock of a login is kept for the identifier as it was typed, cleaned of spaces, case and foreign
digits; the account is found under every spelling of its identifiers. Ten failures for one account
under several spellings need not lock it under any: a further login is refused exactly if its clean
identifier, or its address, is the clean identifier or the address of a failure that was at least
the fifth of its spelling, less than 300 seconds ago.
-/

namespace Rokad.Auth

open Rokad.Base Rokad.Common Rokad.Security

/-! ### Failures and refusals -/

namespace LoginCall

variable (x : LoginHost) (s : State) (call : LoginCall)

/-- It comes to the passwords, and none fits. -/
def Fails : Prop := call.answer x s = .error wrongCredentials
deriving Decidable

/-- It is refused before the passwords. -/
def Refused : Prop := ∃ message seconds, call.answer x s = .error (.tooManyRequests message seconds)

/-- The clean identifier its lock is kept for. -/
def key : String := cleanId x.lower (lockIdentifier call.dto.identifier)

def ip : String := address call.client.ipAddress

/-- As the protection counts it. -/
def failure : LoginFailure := ⟨call.key x, call.ip, call.client.now⟩

end LoginCall

section

variable {x : LoginHost} {s : State} {call : LoginCall}

/-- A login is refused by the protection, it fails and is counted, or neither. -/
theorem fails_or_refused (x : LoginHost) (s : State) (call : LoginCall) :
    (call.check x s ≠ .ok () ∧ call.Refused x s ∧ ¬ call.Fails x s) ∨
    (call.check x s = .ok () ∧ ¬ call.Refused x s ∧ call.Fails x s ∧
      call.serve x s = call.recorded x s) ∨
    (call.check x s = .ok () ∧ ¬ call.Refused x s ∧ ¬ call.Fails x s) := by
  unfold LoginCall.Refused LoginCall.Fails LoginCall.serve LoginCall.answer
  rcases login_cases x s call with
    ⟨e, checked, same⟩ | ⟨checked, -, same⟩ | ⟨u, checked, opened, same⟩ <;>
  rw [same, checked]
  · exact Or.inl ⟨by simp, ⟨_, _, rfl⟩, by simp [wrongCredentials]⟩
  · refine Or.inr (Or.inl ⟨rfl, ?_, rfl, rfl⟩)
    rintro ⟨message, seconds, answered⟩
    cases answered
  · obtain ⟨notWrong, notRefused⟩ := signIn_answer x s call (LoginCall.opens_spec opened).2.2
    refine Or.inr (Or.inr ⟨rfl, ?_, notWrong⟩)
    rintro ⟨message, seconds, answered⟩
    exact notRefused message seconds answered

/-- The check passes exactly if the protection counts no lock for the login. -/
theorem LoginCall.check_eq_ok_iff (up : call.up = true) : call.check x s = .ok () ↔
    ¬ 0 < s.bruteForce.lockedSeconds (loginSubject (call.key x) call.ip) (!isLoopback call.ip) true
      call.client.now := by
  rw [← up]
  exact refuseIfLocked_eq_ok_iff

/-- A failure was let through to the passwords, and the database is as before. -/
theorem LoginCall.Fails.recorded (fails : call.Fails x s) (up : call.up = true) :
    lets s.bruteForce (call.failure x) ∧ (call.serve x s).db = s.db ∧
      (call.serve x s).bruteForce = Security.fail s.bruteForce (call.failure x) := by
  rcases fails_or_refused x s call with ⟨-, -, not⟩ | ⟨checked, -, -, served⟩ | ⟨-, -, not⟩
  · exact absurd fails not
  · refine ⟨not_lt.mp ((LoginCall.check_eq_ok_iff up).mp checked), by rw [served]; rfl, ?_⟩
    rw [served]
    unfold LoginCall.recorded
    rw [up]
    rfl
  · exact absurd fails not

/-- A login is refused exactly while the protection counts a lock for it. -/
theorem LoginCall.refused_iff (up : call.up = true) : call.Refused x s ↔
    0 < s.bruteForce.lockedSeconds (loginSubject (call.key x) call.ip) (!isLoopback call.ip) true
      call.client.now := by
  have checked_iff := LoginCall.check_eq_ok_iff (x := x) (s := s) up
  rcases fails_or_refused x s call with
    ⟨checked, refused, -⟩ | ⟨checked, not, -⟩ | ⟨checked, not, -⟩
  · exact ⟨fun _ => not_not.mp (mt checked_iff.mpr checked), fun _ => refused⟩
  · exact ⟨fun refused => absurd refused not, fun locked => absurd locked (checked_iff.mp checked)⟩
  · exact ⟨fun refused => absurd refused not, fun locked => absurd locked (checked_iff.mp checked)⟩

end

/-! ### Ten failures -/

/-- Ten failed logins at least of one account, under any identifiers that name it, each from another
address, in 600 seconds with Redis in reach; nothing recorded before them counts any more. -/
structure TenFailures (x : LoginHost) (s : State) (u : User) (start : ℕ)
    (calls : List LoginCall) : Prop where
  quiet : Quiet start s.bruteForce
  ten : 10 ≤ calls.length
  fails : Along (fun s call => call.serve x s) (fun s call => call.Resolves x s u ∧ call.Fails x s)
    s calls
  reachable : ∀ call ∈ calls, call.up = true
  sorted : calls.Pairwise (·.client.now ≤ ·.client.now)
  window : ∀ call ∈ calls, start ≤ call.client.now ∧ call.client.now ≤ start + 600000
  addresses : (calls.map (·.ip)).Nodup

/-- Among the failures is one, at least the fifth of its clean identifier and less than 300 seconds
old, whose clean identifier or address is that of the login; an address of the host itself does not
count for the login. -/
def Caught (x : LoginHost) (calls : List LoginCall) (call : LoginCall) : Prop :=
  ∃ f, Trips (calls.map (·.failure x)) f ∧ call.client.now < f.now + 300000 ∧
    (call.key x ∈ f.names ∨ (!isLoopback call.ip) = true ∧ call.ip ∈ f.names)

section

variable {x : LoginHost} {s : State} {u : User} {start : ℕ} {calls : List LoginCall}

/-- What the failures leave is exactly what they lock, after any that were recorded before. -/
theorem exact_run {done : List LoginFailure} (exact : Exact start done s.bruteForce)
    (fails : Along (fun s call => call.serve x s)
      (fun s call => call.Resolves x s u ∧ call.Fails x s) s calls)
    (reachable : ∀ call ∈ calls, call.up = true)
    (sorted : (done ++ calls.map (·.failure x)).Pairwise (·.now ≤ ·.now))
    (window : ∀ call ∈ calls, start ≤ call.client.now ∧ call.client.now ≤ start + 600000)
    (addresses : ((done ++ calls.map (·.failure x)).map (·.ip)).Nodup) :
    Exact start (done ++ calls.map (·.failure x))
      (run (fun s call => call.serve x s) s calls).bruteForce := by
  induction calls generalizing done s with
  | nil => simpa using exact
  | cons call calls ih =>
    obtain ⟨⟨-, failed⟩, rest⟩ := fails
    obtain ⟨through, -, served⟩ := failed.recorded (reachable call List.mem_cons_self)
    obtain ⟨after, before⟩ := window call List.mem_cons_self
    rw [List.map_cons, List.append_cons] at sorted addresses ⊢
    have past : ∀ f ∈ done, f.now ≤ call.client.now := by
      intro f mem
      have early := (List.pairwise_append.mp (List.pairwise_append.mp sorted).1).2.2
      exact early f mem _ (List.mem_singleton_self _)
    have newIp : call.ip ∉ done.map (·.ip) := by
      intro mem
      rw [List.map_append, List.map_append] at addresses
      have apart := (List.nodup_append.mp (List.nodup_append.mp addresses).1).2.2
      exact apart call.ip mem call.ip (List.mem_singleton_self _) rfl
    have counted := exact.fail past after before newIp through
    rw [← served] at counted
    exact ih counted rest (fun c mem => reachable c (List.mem_cons_of_mem _ mem)) sorted
      (fun c mem => window c (List.mem_cons_of_mem _ mem)) addresses

/-- **Lockout of an account.** After ten failures of one account a further login, of this account or
of another, is refused before any password is looked at exactly if it is `Caught`. -/
theorem refused_iff_caught {last : LoginCall}
    (failures : TenFailures x s u start (calls ++ [last])) {call : LoginCall}
    (up : call.up = true) (after : last.client.now ≤ call.client.now) :
    call.Refused x (run (fun s call => call.serve x s) s (calls ++ [last])) ↔
      Caught x (calls ++ [last]) call := by
  obtain ⟨quiet, -, fails, reachable, sorted, window, addresses⟩ := failures
  have exact := exact_run (x := x) quiet.exact fails reachable
    (List.pairwise_map.mpr sorted) window
    (by rw [List.nil_append, List.map_map]; exact addresses)
  have started : start ≤ call.client.now := (window last (by simp)).1.trans after
  rw [LoginCall.refused_iff up, exact.locked_iff _ _ _ started]
  rfl

end

namespace Desk

/-- The parts of a login, with passwords for hashes. -/
def host : LoginHost where
  sha256
  hmac s := s
  lower := toLowerCase
  argon2

/-- Her user name is a number. -/
def named : Db where
  tenants
  users := ⟨[{ user with username := some "1404" }], by decide +kernel, by decide +kernel⟩
  foreignKeys := by constructor <;> decide +kernel

/-- The user name with zeros before it and a wrong password; every login has its address. -/
def guess (zeros n : ℕ) : LoginCall where
  dto := { identifier := String.ofList (List.replicate zeros '0') ++ "1404"
           password := "letmein" }
  client := { ipAddress := some ("10.0.0." ++ toString n), now := 1000 * n }
  rawRefreshToken := "r0"

/-- Each spelling once. -/
def everySpelling : List LoginCall := (List.range 10).map fun n => guess n n

/-- Two spellings, five times each. -/
def twoSpellings : List LoginCall := (List.range 10).map fun n => guess (n / 5) n

theorem tenFailures (calls : List LoginCall) (either : calls = everySpelling ∨ calls = twoSpellings) :
    TenFailures host { db := named } { user with username := some "1404" } 0 calls where
  quiet := quiet_empty 0
  ten := by rcases either with rfl | rfl <;> decide +kernel
  fails := by rcases either with rfl | rfl <;> decide +kernel
  reachable := by rcases either with rfl | rfl <;> decide +kernel
  sorted := by rcases either with rfl | rfl <;> decide +kernel
  window := by rcases either with rfl | rfl <;> decide +kernel
  addresses := by rcases either with rfl | rfl <;> decide +kernel

end Desk

/-- The fifth failure under each of two spellings locks it. -/
theorem refused_iff_caught_twoSpellings :
    (Desk.guess 1 20).Refused Desk.host (run (fun s call => call.serve Desk.host s)
      { db := Desk.named } (((List.range 9).map fun n => Desk.guess (n / 5) n) ++ [Desk.guess 1 9])) ↔
    Caught Desk.host (((List.range 9).map fun n => Desk.guess (n / 5) n) ++ [Desk.guess 1 9])
      (Desk.guess 1 20) :=
  refused_iff_caught (Desk.tenFailures _ (Or.inr (by decide +kernel))) rfl (by decide +kernel)

/-- Ten failures under ten spellings lock none of them. -/
theorem not_refused_of_tenFailures :
    ¬ ∀ (x : LoginHost) (s : State) (u : User) (start : ℕ) (calls : List LoginCall)
      (last call : LoginCall), TenFailures x s u start (calls ++ [last]) → call.up = true →
      last.client.now ≤ call.client.now → call.client.now < last.client.now + 300000 →
      call.Resolves x (run (fun s call => call.serve x s) s (calls ++ [last])) u →
      call.Refused x (run (fun s call => call.serve x s) s (calls ++ [last])) := by
  intro claim
  obtain ⟨message, seconds, refused⟩ := claim Desk.host { db := Desk.named } _ 0
    ((List.range 9).map fun n => Desk.guess n n) (Desk.guess 9 9) (Desk.guess 0 20)
    (Desk.tenFailures _ (Or.inl (by decide +kernel))) rfl (by decide +kernel) (by decide +kernel)
    (by decide +kernel)
  have wrong : (Desk.guess 0 20).answer Desk.host (run (fun s call => call.serve Desk.host s)
      { db := Desk.named } (((List.range 9).map fun n => Desk.guess n n) ++ [Desk.guess 9 9])) =
        .error wrongCredentials := by
    decide +kernel
  rw [wrong] at refused
  cases refused

end Rokad.Auth
