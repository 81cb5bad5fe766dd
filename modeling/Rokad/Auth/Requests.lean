import Rokad.Auth.Growth
import Rokad.Auth.Tokens

/-!
# Requests one at a time

The calls that make, exchange and revoke tokens, each run to its end on the state the one before
left. For each: what it did to the database, and when it went through.
-/

namespace Rokad.Auth

open Rokad.Base Rokad.Common

/-! ### Requests -/

inductive Request where
  | createTokenPair (user : User) (client : Client) (rawRefreshToken : String)
  | login (user : User) (client : Client) (rawRefreshToken : String)
  | refresh (rawToken : String) (client : Client) (newRawRefreshToken : String)
  | logout (refreshToken : Option String) (userId : Option Id)
  | revokeSession (userId sessionId : Id)
  | revokeAllOtherSessions (userId : Id) (currentRefreshToken : Option String)
  | changePassword (userId : Id) (dto : ChangePasswordDto) (currentRefreshToken : Option String)

section

variable (sha256 : String → String) (argon2 : Argon2)

/-- What was returned is dropped, unless it is a pair of tokens. -/
def Request.prog : Request → AuthProg (Option TokenPair)
  | .createTokenPair user client rawRefreshToken =>
    Auth.createTokenPair sha256 user client rawRefreshToken >>= fun tokens => pure (some tokens)
  | .login user client rawRefreshToken =>
    issueTokens sha256 user client rawRefreshToken >>= fun tokens => pure (some tokens)
  | .refresh rawToken client newRawRefreshToken =>
    refreshTokenCore sha256 rawToken client newRawRefreshToken >>= fun tokens =>
      pure (some tokens)
  | .logout refreshToken userId =>
    Auth.logout sha256 refreshToken userId >>= fun _ => pure none
  | .revokeSession userId sessionId => Auth.revokeSession userId sessionId >>= fun _ => pure none
  | .revokeAllOtherSessions userId currentRefreshToken =>
    Auth.revokeAllOtherSessions sha256 userId currentRefreshToken >>= fun _ => pure none
  | .changePassword userId dto currentRefreshToken =>
    Auth.changePassword sha256 argon2 userId dto currentRefreshToken >>= fun _ => pure none

/-- The state a request leaves. -/
def serve (s : State) (r : Request) : State := ((r.prog sha256 argon2).run exec s).1

/-- What a request answers. -/
def answer (s : State) (r : Request) : Result (Option TokenPair) :=
  ((r.prog sha256 argon2).run exec s).2

theorem serve_grows (s : State) (r : Request) : Grows s.db (serve sha256 argon2 s r).db :=
  run_grows _ s

theorem run_serve_grows (s : State) (rs : List Request) :
    Grows s.db (run (serve sha256 argon2) s rs).db :=
  run_keeps (I := fun s' => Grows s.db s'.db)
    (fun s' r grows => grows.trans (serve_grows sha256 argon2 s' r)) (.refl _) rs

end

/-! ### Refresh -/

/-- A family that exists can be revoked. -/
theorem Db.exists_revokeFamily {db : Db} {id : Id} {f : RefreshTokenFamily}
    (found : db.families.find? id = some f) (reason : String) :
    ∃ db', db.revokeFamily id reason = .ok db' := by
  obtain ⟨families, updated⟩ : ∃ t, db.families.update id (revoke reason) (key_revoke reason) =
      some t := update_isSome found fun _ _ => rfl
  unfold Db.revokeFamily
  split
  · rename_i refused
    rw [updated] at refused
    cases refused
  · exact ⟨_, rfl⟩

/-- A stored token can be rotated when the hash of its successor is new. -/
theorem Db.exists_rotate {db : Db} {k : RefreshToken} (mem : k ∈ db.tokens.rows)
    {tokenHash : String} (new : db.findHash tokenHash = none) (expiresAt : Instant)
    (ipAddress userAgent : Option String) :
    ∃ db', db.rotate k.id k.familyId tokenHash expiresAt ipAddress userAgent = .ok db' := by
  obtain ⟨tokens, updated⟩ : ∃ t, db.tokens.update k.id use key_use = some t :=
    update_isSome (db.tokens.find?_key mem) fun _ _ => rfl
  obtain ⟨mid, marked⟩ : ∃ mid, db.useToken k.id = .ok mid := by
    unfold Db.useToken
    split
    · rename_i refused
      rw [updated] at refused
      cases refused
    · exact ⟨_, rfl⟩
  obtain ⟨updated, same⟩ := Db.useToken_ok marked
  have present : mid.families.has (some k.familyId) = true := by
    rw [same]
    exact db.foreignKeys.token_family k mem
  have absent := List.find?_eq_none.mp new
  have clear : ∀ x ∈ mid.tokens.rows, Record.clash x
      ⟨mid.tokens.fresh, k.familyId, tokenHash, false, expiresAt, ipAddress, userAgent⟩ = false := by
    intro x memX
    simp only [Record.clash, beq_eq_false_iff_ne]
    rcases (mem_update updated).mp memX with ⟨before, -⟩ | ⟨row, found, rfl⟩
    · simpa using absent x before
    · simpa [use] using absent row (mem_of_find? found)
  obtain ⟨rows, inserted⟩ := mid.tokens.insert_of_fresh _ rfl clear
  unfold Db.rotate
  rw [marked]
  change ∃ db', mid.createToken k.familyId tokenHash expiresAt ipAddress userAgent = .ok db'
  unfold Db.createToken
  rw [dif_pos present]
  split
  · rename_i refused
    rw [inserted] at refused
    cases refused
  · exact ⟨_, rfl⟩

variable {sha256 : String → String} {s : State} {rawToken : String}

/-- The token comes back after it was exchanged, in a family that is not revoked. -/
def Replayed (db : Db) (tokenHash : String) (familyId : Id) : Prop :=
  ∃ k f, db.findHash tokenHash = some k ∧ k.isUsed = true ∧ k.familyId = familyId ∧
    db.families.find? familyId = some f ∧ f.isRevoked = false

/-- The token passes every check of a refresh at this time. -/
def Exchangeable (db : Db) (tokenHash : String) (now : Instant) : Prop :=
  ∃ k f, db.findHash tokenHash = some k ∧ k.isUsed = false ∧ ¬ k.expiresAt < now ∧
    db.families.find? k.familyId = some f ∧ f.isRevoked = false

/-- A refresh refuses and leaves everything, revokes the family of a replayed token and refuses,
or rotates the token. -/
theorem refresh_cases (sha256 : String → String) (argon2 : Argon2) (s : State) (rawToken : String)
    (client : Client) (newRawRefreshToken : String) :
    ((∀ familyId, ¬ Replayed s.db (sha256 rawToken) familyId) ∧
      (Exchangeable s.db (sha256 rawToken) client.now →
        s.db.findHash (sha256 newRawRefreshToken) ≠ none) ∧
      serve sha256 argon2 s (.refresh rawToken client newRawRefreshToken) = s ∧
      ∃ e, answer sha256 argon2 s (.refresh rawToken client newRawRefreshToken) = .error e) ∨
    (∃ familyId db', Replayed s.db (sha256 rawToken) familyId ∧
      s.db.revokeFamily familyId "TOKEN_REUSE_DETECTED" = .ok db' ∧
      serve sha256 argon2 s (.refresh rawToken client newRawRefreshToken) = { s with db := db' } ∧
      answer sha256 argon2 s (.refresh rawToken client newRawRefreshToken) =
        .error reuseDetected) ∨
    (∃ k db', s.db.findHash (sha256 rawToken) = some k ∧
      Exchangeable s.db (sha256 rawToken) client.now ∧
      s.db.rotate k.id k.familyId (sha256 newRawRefreshToken) (client.now + REFRESH_EXPIRY)
        client.ipAddress client.userAgent = .ok db' ∧
      serve sha256 argon2 s (.refresh rawToken client newRawRefreshToken) = { s with db := db' } ∧
      ∃ tokens, tokens.refreshToken = newRawRefreshToken ∧
        answer sha256 argon2 s (.refresh rawToken client newRawRefreshToken) =
          .ok (some tokens)) := by
  simp only [serve, answer, Request.prog, refreshTokenCore, query, Prog.call_bind, Prog.step_bind,
    Prog.run_step]
  cases stored : s.db.findHash (sha256 rawToken) with
  | none =>
    have absent : s.db.findToken (sha256 rawToken) = none := by
      simp [Tables.findToken, stored]
    refine Or.inl ⟨?_, ?_, ?_, ?_⟩
    · rintro familyId ⟨k, f, found, -⟩
      rw [stored] at found
      cases found
    · rintro ⟨k, f, found, -⟩
      rw [stored] at found
      cases found
    · simp only [exec, absent]
      rfl
    · simp only [exec, absent]
      exact ⟨_, rfl⟩
  | some k =>
    obtain ⟨record, found, rfl⟩ := s.db.findToken_isSome stored
    obtain ⟨-, ofFamily, -⟩ := Tables.findToken_eq_some_iff.mp found
    have familyId : record.family.id = record.token.familyId := key_of_find? ofFamily
    have read : exec (.findToken (sha256 rawToken)) s = (s, some record) := by
      simp only [exec, found]
    simp only [read, orThrow, orFail, Prog.ret_ok_bind]
    rcases exchange_cases sha256 record client newRawRefreshToken with
      ⟨why, e, same⟩ | ⟨unrevoked, used, same⟩ | ⟨unrevoked, unused, timely, same⟩
    · rw [same]
      refine Or.inl ⟨?_, ?_, rfl, e, rfl⟩
      · rintro id ⟨k, f, found', used, rfl, family, unrevoked⟩
        cases stored.symm.trans found'
        cases ofFamily.symm.trans family
        rcases why with revoked | ⟨unused, -⟩
        · rw [revoked] at unrevoked
          cases unrevoked
        · rw [unused] at used
          cases used
      · rintro ⟨k, f, found', -, timely, family, unrevoked⟩
        cases stored.symm.trans found'
        cases ofFamily.symm.trans family
        rcases why with revoked | ⟨-, expired⟩
        · rw [revoked] at unrevoked
          cases unrevoked
        · exact absurd expired timely
    · obtain ⟨db', done⟩ := Db.exists_revokeFamily ofFamily "TOKEN_REUSE_DETECTED"
      refine Or.inr (Or.inl ⟨record.token.familyId, db', ⟨record.token, record.family, stored,
        used, rfl, ofFamily, unrevoked⟩, done, ?_, ?_⟩) <;>
      · rw [same]
        simp only [Prog.step_bind, Prog.run_step, exec, familyId, done, State.write, must,
          Prog.ret_ok_bind, Prog.ret_error_bind, Prog.run_ret]
    · have exchangeable : Exchangeable s.db (sha256 rawToken) client.now :=
        ⟨record.token, record.family, stored, unused, timely, ofFamily, unrevoked⟩
      rw [same]
      simp only [Prog.step_bind, Prog.run_step, exec, familyId]
      cases done : s.db.rotate record.token.id record.token.familyId
          (sha256 newRawRefreshToken) (client.now + REFRESH_EXPIRY) client.ipAddress
          client.userAgent with
      | error e =>
        refine Or.inl ⟨?_, fun _ new => ?_, rfl, e, rfl⟩
        · rintro id ⟨k, f, found', used, -⟩
          cases stored.symm.trans found'
          rw [unused] at used
          cases used
        · obtain ⟨db', rotated⟩ := Db.exists_rotate
            (Tables.findHash_eq_some_iff.mp stored).1 new (client.now + REFRESH_EXPIRY)
            client.ipAddress client.userAgent
          rw [rotated] at done
          cases done
      | ok db' =>
        exact Or.inr (Or.inr ⟨record.token, db', rfl, exchangeable, done, rfl,
          successor record client newRawRefreshToken, rfl, rfl⟩)

/-- A token of a revoked family is refused, and nothing is issued. -/
theorem refused_of_revoked (argon2 : Argon2) (client : Client) (newRawRefreshToken : String)
    {k : RefreshToken} {f : RefreshTokenFamily}
    (found : s.db.findHash (sha256 rawToken) = some k)
    (ofFamily : s.db.families.find? k.familyId = some f) (revoked : f.isRevoked = true) :
    serve sha256 argon2 s (.refresh rawToken client newRawRefreshToken) = s ∧
      ∃ e, answer sha256 argon2 s (.refresh rawToken client newRawRefreshToken) = .error e := by
  have live : ∀ f' : RefreshTokenFamily, s.db.families.find? k.familyId = some f' →
      f'.isRevoked ≠ false := by
    intro f' found'
    cases ofFamily.symm.trans found'
    simp [revoked]
  rcases refresh_cases sha256 argon2 s rawToken client newRawRefreshToken with
    ⟨-, -, same, e, refused⟩ | ⟨_, _, ⟨k', f', found', -, rfl, family, unrevoked⟩, -⟩ |
    ⟨_, _, -, ⟨k', f', found', -, -, family, unrevoked⟩, -⟩
  · exact ⟨same, e, refused⟩
  · cases found.symm.trans found'
    exact absurd unrevoked (live f' family)
  · cases found.symm.trans found'
    exact absurd unrevoked (live f' family)

end Rokad.Auth
