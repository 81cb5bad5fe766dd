import Rokad.Auth.Requests
import Rokad.Auth.Rotation

/-!
# The end of a family

One request at a time, the chain of tokens behind a login ends for good when one of its tokens comes
back after it was exchanged, or with a logout: no token of the family is exchanged from then on,
not the successors and not the one still unused. No other family notices.
-/

namespace Rokad.Auth

open Rokad.Base Rokad.Common

section

variable {sha256 : String → String} {argon2 : Argon2} {s : State}

/-! ### One family is revoked -/

/-- A stored token of the family has this hash. -/
def InFamily (db : Db) (tokenHash : String) (familyId : Id) : Prop :=
  ∃ k, db.findHash tokenHash = some k ∧ k.familyId = familyId

def Revoked (db : Db) (familyId : Id) : Prop :=
  ∃ f, db.families.find? familyId = some f ∧ f.isRevoked = true

theorem Revoked.grows {a b : Db} {familyId : Id} (revoked : Revoked a familyId)
    (grows : Grows a b) : Revoked b familyId := by
  obtain ⟨f, found, isRevoked⟩ := revoked
  obtain ⟨f', found', -, stays⟩ := grows.families familyId f found
  exact ⟨f', found', stays isRevoked⟩

theorem InFamily.grows {a b : Db} {tokenHash : String} {familyId : Id}
    (inFamily : InFamily a tokenHash familyId) (grows : Grows a b) :
    InFamily b tokenHash familyId := by
  obtain ⟨k, found, rfl⟩ := inFamily
  obtain ⟨k', found', -, same, -⟩ := grows.token found
  exact ⟨k', found', same⟩

/-- The rows of the family and of its tokens are the same in both. -/
def Untouched (a b : Db) (familyId : Id) : Prop :=
  b.families.find? familyId = a.families.find? familyId ∧
    ∀ k : RefreshToken, k.familyId = familyId → (k ∈ b.tokens.rows ↔ k ∈ a.tokens.rows)

/-- Revoking a family revokes it and touches no other. -/
theorem revokeFamily_effect {db db' : Db} {familyId : Id} {reason : String}
    (done : db.revokeFamily familyId reason = .ok db') :
    Revoked db' familyId ∧ ∀ g, g ≠ familyId → Untouched db db' g := by
  obtain ⟨updated, same⟩ := Db.revokeFamily_ok done
  obtain ⟨f, found⟩ := Table.find?_of_update updated
  refine ⟨⟨_, find?_update_self updated found, rfl⟩, fun g differ => ⟨?_, fun k _ => ?_⟩⟩
  · exact Table.find?_update_of_ne updated differ
  · rw [same]

/-! ### What ends a family -/

/-- A logout with a stored token revokes its family. -/
theorem logout_found (argon2 : Argon2) (userId : Option Id) {refreshToken : String}
    {k : RefreshToken}
    (given : refreshToken ≠ "") (found : s.db.findHash (sha256 refreshToken) = some k) :
    ∃ db', s.db.revokeFamily k.familyId "USER_LOGOUT" = .ok db' ∧
      serve sha256 argon2 s (.logout (some refreshToken) userId) = { s with db := db' } := by
  obtain ⟨f, ofFamily⟩ := s.db.family_exists (Tables.findHash_eq_some_iff.mp found).1
  obtain ⟨db', done⟩ := Db.exists_revokeFamily ofFamily "USER_LOGOUT"
  refine ⟨db', done, ?_⟩
  have present : truthy (some refreshToken) = some refreshToken := by simp [truthy, given]
  simp only [serve, Request.prog, logout, present, query, Prog.call_bind, Prog.step_bind,
    Prog.run_step, exec, found, done, State.write, must, Prog.ret_ok_bind, Prog.pure_eq,
    Prog.run_ret]

/-- A token that a refresh has exchanged is used from then on. -/
theorem used_of_exchanged {rawToken : String} {client : Client} {newRawRefreshToken : String}
    {tokens : TokenPair} (done : answer sha256 argon2 s
      (.refresh rawToken client newRawRefreshToken) = .ok (some tokens)) :
    ∃ k, (serve sha256 argon2 s (.refresh rawToken client newRawRefreshToken)).db.findHash
      (sha256 rawToken) = some k ∧ k.isUsed = true := by
  rcases refresh_cases sha256 argon2 s rawToken client newRawRefreshToken with
    ⟨-, -, -, e, refused⟩ | ⟨_, _, -, -, -, refused⟩ | ⟨k, db', found, -, rotated, same, -⟩
  · rw [done] at refused
    cases refused
  · rw [done] at refused
    cases refused
  · obtain ⟨mem, hash⟩ := Tables.findHash_eq_some_iff.mp found
    obtain ⟨marked, new, updated, inserted, -⟩ := Db.rotate_ok rotated
    rw [same]
    refine ⟨Db.use k, Tables.findHash_eq_some_iff.mpr ⟨?_, hash⟩, rfl⟩
    exact mem_of_find? (Table.find?_insert_of_found inserted
      (find?_update_self updated (find?_key _ mem)))

/-- A replayed token revokes its family. -/
theorem replay_found (argon2 : Argon2) (client : Client) (newRawRefreshToken : String)
    {rawToken : String} {familyId : Id} (replayed : Replayed s.db (sha256 rawToken) familyId) :
    ∃ db', s.db.revokeFamily familyId "TOKEN_REUSE_DETECTED" = .ok db' ∧
      serve sha256 argon2 s (.refresh rawToken client newRawRefreshToken) =
        { s with db := db' } := by
  rcases refresh_cases sha256 argon2 s rawToken client newRawRefreshToken with
    ⟨not, -⟩ | ⟨id, db', ⟨k, f, found, -, rfl, -⟩, done, same, -⟩ |
    ⟨_, _, -, ⟨k, f, found, unused, -⟩, -⟩
  · exact absurd replayed (not familyId)
  · obtain ⟨k', -, found', -, rfl, -⟩ := replayed
    cases found.symm.trans found'
    exact ⟨db', done, same⟩
  · obtain ⟨k', -, found', used, -⟩ := replayed
    cases found.symm.trans found'
    rw [used] at unused
    cases unused

variable (sha256 argon2)

/-- After the requests `before`, this one ends the family: it presents a token of it that a request
before has exchanged, while the family is not revoked, or it logs out with a token of it. -/
inductive Ends (s : State) (before : List Request) (familyId : Id) : Request → Prop
  | replay {rawToken : String} {client : Client} {newRawRefreshToken : String}
      (exchanged : ∃ earlier client' newRawRefreshToken' later tokens,
        before = earlier ++ .refresh rawToken client' newRawRefreshToken' :: later ∧
        answer sha256 argon2 (run (serve sha256 argon2) s earlier)
          (.refresh rawToken client' newRawRefreshToken') = .ok (some tokens))
      (ofFamily : InFamily (run (serve sha256 argon2) s before).db (sha256 rawToken) familyId)
      (live : ¬ Revoked (run (serve sha256 argon2) s before).db familyId) :
      Ends s before familyId (.refresh rawToken client newRawRefreshToken)
  | logout {refreshToken : String} {userId : Option Id} (given : refreshToken ≠ "")
      (ofFamily : InFamily (run (serve sha256 argon2) s before).db (sha256 refreshToken)
        familyId) :
      Ends s before familyId (.logout (some refreshToken) userId)

variable {sha256 argon2}

/-- What ends a family revokes it, and touches no other. -/
theorem Ends.effect {before : List Request} {familyId : Id} {r : Request}
    (ends : Ends sha256 argon2 s before familyId r) :
    Revoked (serve sha256 argon2 (run (serve sha256 argon2) s before) r).db familyId ∧
      ∀ g, g ≠ familyId → Untouched (run (serve sha256 argon2) s before).db
        (serve sha256 argon2 (run (serve sha256 argon2) s before) r).db g := by
  cases ends with
  | @replay rawToken client newRawRefreshToken exchanged ofFamily live =>
    obtain ⟨earlier, client', new', later, tokens, rfl, done⟩ := exchanged
    obtain ⟨k, found, familyId⟩ := ofFamily
    -- The token has been used since the request that exchanged it.
    obtain ⟨used, foundUsed, isUsed⟩ := used_of_exchanged done
    have since : Grows (serve sha256 argon2 (run (serve sha256 argon2) s earlier)
        (.refresh rawToken client' new')).db (run (serve sha256 argon2) s
          (earlier ++ .refresh rawToken client' new' :: later)).db := by
      rw [run_append, run_cons]
      exact run_serve_grows sha256 argon2 _ later
    obtain ⟨k', found', -, becomes⟩ := since.token foundUsed
    cases found.symm.trans found'
    obtain ⟨f, family⟩ := Db.family_exists _ (Tables.findHash_eq_some_iff.mp found).1
    rw [familyId] at family
    have unrevoked : f.isRevoked = false := by
      cases revoked : f.isRevoked with
      | false => rfl
      | true => exact absurd ⟨f, family, revoked⟩ live
    obtain ⟨db', revoked, same⟩ := replay_found argon2 client newRawRefreshToken
      ⟨k, f, found, becomes.2.2 isUsed, familyId, family, unrevoked⟩
    rw [same]
    exact revokeFamily_effect revoked
  | @logout refreshToken userId given ofFamily =>
    obtain ⟨k, found, rfl⟩ := ofFamily
    obtain ⟨db', revoked, same⟩ := logout_found argon2 userId given found
    rw [same]
    exact revokeFamily_effect revoked

end

/-! ### For good -/

/-- **The end of a family.** Whatever requests come before and after, once a replay or a logout has
ended a family, every refresh with any of its tokens is refused and issues nothing; the request
that ended it left the rows of every other family as they were. -/
theorem ended_for_good (sha256 : String → String) (argon2 : Argon2) (s : State)
    (before : List Request) (r : Request) (familyId : Id)
    (ends : Ends sha256 argon2 s before familyId r) (after : List Request) :
    (∀ rawToken client newRawRefreshToken,
      InFamily (run (serve sha256 argon2) s (before ++ r :: after)).db (sha256 rawToken)
        familyId →
      (∃ e, answer sha256 argon2 (run (serve sha256 argon2) s (before ++ r :: after))
        (.refresh rawToken client newRawRefreshToken) = .error e) ∧
      serve sha256 argon2 (run (serve sha256 argon2) s (before ++ r :: after))
        (.refresh rawToken client newRawRefreshToken) =
          run (serve sha256 argon2) s (before ++ r :: after)) ∧
    ∀ g, g ≠ familyId → Untouched (run (serve sha256 argon2) s before).db
      (run (serve sha256 argon2) s (before ++ [r])).db g := by
  obtain ⟨revoked, others⟩ := ends.effect
  constructor
  · rintro rawToken client new ⟨k, found, rfl⟩
    have still : Revoked (run (serve sha256 argon2) s (before ++ r :: after)).db k.familyId := by
      rw [run_append, run_cons]
      exact revoked.grows (run_serve_grows sha256 argon2 _ after)
    obtain ⟨f, family, isRevoked⟩ := still
    obtain ⟨same, refused⟩ := refused_of_revoked argon2 client new found family isRevoked
    exact ⟨refused, same⟩
  · rw [run_append, run_cons, run_nil]
    exact others

namespace Desk

def argon2 : Argon2 where
  hash password := "hash of " ++ password
  verify passwordHash password := passwordHash = "hash of " ++ password

/-- The device has exchanged `r0` for `r1`. -/
def refreshed : List Request := [.refresh "r0" { now := 2000 } "r1"]

/-- Someone presents `r0` again. -/
def replay : Request := .refresh "r0" { now := 9000 } "r2"

end Desk

/-- After the replay of `r0`, its successor `r1`, which no one has used, is refused. -/
theorem ended_for_good_replay :
    ∃ e, answer Desk.sha256 Desk.argon2 (run (serve Desk.sha256 Desk.argon2) Desk.state
      (Desk.refreshed ++ [Desk.replay])) (.refresh "r1" { now := 9500 } "r3") = .error e := by
  have ended := ended_for_good Desk.sha256 Desk.argon2 Desk.state Desk.refreshed Desk.replay 1
    (.replay ⟨[], _, _, [], _, rfl, rfl⟩ ⟨_, rfl, rfl⟩ (by rintro ⟨_, ⟨⟩, ⟨⟩⟩)) []
  exact (ended.1 "r1" { now := 9500 } "r3" ⟨_, rfl, rfl⟩).1

end Rokad.Auth
