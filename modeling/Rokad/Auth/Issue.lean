import Rokad.Auth.Requests

/-!
# Issuing tokens

What a login leaves and answers when it issues tokens: a family, its first token and a session of
the user, or as many of these as the database took.
-/

namespace Rokad.Auth

open Rokad.Base Rokad.Common

/-- The pair a login answers with. -/
def firstPair (user : User) (client : Client) (rawRefreshToken : String) : TokenPair where
  accessToken := signAccessToken user.id user.tenantId user.role user.isPlatformAdmin
    (some user) client.now
  refreshToken := rawRefreshToken

/-- A family can be opened for every user. -/
theorem Db.exists_createFamily {db : Db} {userId : Id} {user : User}
    (found : db.users.find? userId = some user) (tenantId : Id) :
    ∃ mid, db.createFamily userId tenantId = .ok mid := by
  obtain ⟨families, inserted⟩ := db.families.insert_of_fresh
    { id := db.families.fresh, userId, tenantId } rfl fun _ _ => rfl
  unfold Db.createFamily
  rw [dif_pos (has_some_iff.mpr ⟨user, found⟩)]
  split
  · rename_i refused
    rw [inserted] at refused
    cases refused
  · exact ⟨_, rfl⟩

/-- Nothing is issued and nothing left, or a family is left, or a family and its token, or all
three rows, and then the pair is issued. -/
theorem issueTokens_cases (sha256 : String → String) (s : State) (user : User) (client : Client)
    (rawRefreshToken : String) :
    (∃ problem, s.db.createFamily user.id user.tenantId = .error (.database problem) ∧
      (issueTokens sha256 user client rawRefreshToken).run exec s =
        (s, .error (.database problem))) ∨
    ∃ mid, s.db.createFamily user.id user.tenantId = .ok mid ∧
      ((∃ problem, (issueTokens sha256 user client rawRefreshToken).run exec s =
        ({ s with db := mid }, .error (.database problem))) ∨
      ∃ last, mid.createToken s.db.families.fresh (sha256 rawRefreshToken)
          (client.now + REFRESH_EXPIRY) client.ipAddress client.userAgent = .ok last ∧
        ((∃ problem, last.createSession
            (sessionRow sha256 user.id user.tenantId rawRefreshToken client) =
              .error (.database problem) ∧
          (issueTokens sha256 user client rawRefreshToken).run exec s =
            ({ s with db := last }, .error (.database problem))) ∨
        ∃ db, last.createSession
            (sessionRow sha256 user.id user.tenantId rawRefreshToken client) = .ok db ∧
          (issueTokens sha256 user client rawRefreshToken).run exec s =
            ({ s with db }, .ok (firstPair user client rawRefreshToken)))) := by
  simp only [issueTokens, createTokenPair, createSession, query, Prog.call_bind, Prog.step_bind,
    Prog.run_step, exec]
  cases opened : s.db.createFamily user.id user.tenantId with
  | error e =>
    obtain ⟨problem, rfl⟩ := Db.createFamily_error opened
    exact Or.inl ⟨problem, rfl, rfl⟩
  | ok mid =>
    refine Or.inr ⟨mid, rfl, ?_⟩
    simp only [State.write, Except.map, must, Prog.ret_ok_bind, Prog.step_bind, Prog.run_step, exec]
    cases issued : mid.createToken s.db.families.fresh (sha256 rawRefreshToken)
        (client.now + REFRESH_EXPIRY) client.ipAddress client.userAgent with
    | error e =>
      obtain ⟨problem, rfl⟩ := Db.createToken_error issued
      exact Or.inl ⟨problem, rfl⟩
    | ok last =>
      refine Or.inr ⟨last, rfl, ?_⟩
      simp only [Prog.ret_ok_bind, Prog.pure_eq, Prog.run_step, exec]
      cases created : last.createSession
          (sessionRow sha256 user.id user.tenantId rawRefreshToken client) with
      | error e =>
        obtain ⟨problem, rfl⟩ := Db.createSession_error created
        exact Or.inl ⟨problem, rfl, rfl⟩
      | ok db => exact Or.inr ⟨db, rfl, rfl⟩

/-- Tokens are refused only for a problem of the database. -/
theorem issueTokens_error {sha256 : String → String} {user : User} {client : Client}
    {rawRefreshToken : String} {s : State} {e : Failure}
    (failed : ((issueTokens sha256 user client rawRefreshToken).run exec s).2 = .error e) :
    ∃ problem, e = .database problem := by
  rcases issueTokens_cases sha256 s user client rawRefreshToken with
    ⟨problem, _, same⟩ | ⟨_, _, ⟨problem, same⟩ | ⟨_, _, ⟨problem, _, same⟩ | ⟨_, _, same⟩⟩⟩ <;>
  rw [same] at failed <;> cases failed
  · exact ⟨problem, rfl⟩
  · exact ⟨problem, rfl⟩
  · exact ⟨problem, rfl⟩

/-- No token and no session has the hash. -/
def Unused (t : Tables) (tokenHash : String) : Prop :=
  (∀ k ∈ t.tokens.rows, k.tokenHash ≠ tokenHash) ∧
    ∀ session ∈ t.sessions.rows, session.sessionTokenHash ≠ tokenHash

/-- A token can be added to every family, and a session to every user, under a new hash. -/
theorem Db.exists_createToken {db : Db} {familyId : Id} {tokenHash : String}
    (present : db.families.has (some familyId) = true)
    (unused : ∀ k ∈ db.tokens.rows, k.tokenHash ≠ tokenHash) (expiresAt : Instant)
    (ipAddress userAgent : Option String) :
    ∃ last, db.createToken familyId tokenHash expiresAt ipAddress userAgent = .ok last := by
  obtain ⟨tokens, inserted⟩ := db.tokens.insert_of_fresh
    { id := db.tokens.fresh, familyId, tokenHash, expiresAt, ipAddress, userAgent } rfl
    fun k mem => by simpa [Record.clash] using unused k mem
  unfold Db.createToken
  rw [dif_pos present]
  split
  · rename_i refused
    rw [inserted] at refused
    cases refused
  · exact ⟨_, rfl⟩

theorem Db.exists_createSession {db : Db} (row : UserSession)
    (present : db.users.has (some row.userId) = true)
    (unused : ∀ session ∈ db.sessions.rows, session.sessionTokenHash ≠ row.sessionTokenHash) :
    ∃ last, db.createSession row = .ok last := by
  obtain ⟨sessions, inserted⟩ := db.sessions.insert_of_fresh { row with id := db.sessions.fresh }
    rfl fun session mem => by simpa [Record.clash] using unused session mem
  unfold Db.createSession
  rw [dif_pos present]
  split
  · rename_i refused
    rw [inserted] at refused
    cases refused
  · exact ⟨_, rfl⟩

/-- For a user who is there, tokens are issued exactly if their hash is new. -/
theorem issueTokens_ok_iff (sha256 : String → String) (s : State) {user : User}
    (mem : user ∈ s.db.users.rows) (client : Client) (rawRefreshToken : String) :
    (∃ pair, ((issueTokens sha256 user client rawRefreshToken).run exec s).2 = .ok pair) ↔
      Unused s.db.toTables (sha256 rawRefreshToken) := by
  constructor
  · rintro ⟨pair, answered⟩
    rcases issueTokens_cases sha256 s user client rawRefreshToken with
      ⟨problem, -, same⟩ | ⟨mid, opened, ⟨problem, same⟩ | ⟨last, issued, ⟨problem, -, same⟩ |
        ⟨db, created, same⟩⟩⟩ <;>
    rw [same] at answered <;> cases answered
    obtain ⟨-, first⟩ := Db.createFamily_ok opened
    obtain ⟨insertedToken, second⟩ := Db.createToken_ok issued
    obtain ⟨insertedSession, -⟩ := Db.createSession_ok created
    have tokens : mid.tokens = s.db.tokens := by rw [first]
    have sessions : last.sessions = s.db.sessions := by rw [second, first]
    have apartToken := (insert_spec.mp insertedToken).2.2
    have apartSession := (insert_spec.mp insertedSession).2.2
    rw [tokens] at apartToken
    rw [sessions] at apartSession
    exact ⟨fun k memK => by simpa [Record.clash] using apartToken k memK,
      fun session memS => by simpa [Record.clash, sessionRow] using apartSession session memS⟩
  · rintro ⟨noToken, noSession⟩
    have found : s.db.users.find? user.id = some user := find?_key _ mem
    obtain ⟨mid, opened⟩ := Db.exists_createFamily found user.tenantId
    obtain ⟨inserted, first⟩ := Db.createFamily_ok opened
    have family : mid.families.has (some s.db.families.fresh) = true :=
      has_some_iff.mpr ⟨_, (Table.find?_insert inserted _).trans (if_pos rfl)⟩
    have tokens : mid.tokens = s.db.tokens := by rw [first]
    obtain ⟨last, issued⟩ := Db.exists_createToken family (tokens ▸ noToken)
      (client.now + REFRESH_EXPIRY) client.ipAddress client.userAgent
    have second := (Db.createToken_ok issued).2
    have users : last.users = s.db.users := by rw [second, first]
    have sessions : last.sessions = s.db.sessions := by rw [second, first]
    obtain ⟨db, created⟩ := Db.exists_createSession
      (sessionRow sha256 user.id user.tenantId rawRefreshToken client)
      (has_some_iff.mpr ⟨user, users ▸ found⟩) (sessions ▸ noSession)
    refine ⟨firstPair user client rawRefreshToken, ?_⟩
    simp only [issueTokens, createTokenPair, createSession, query, Prog.call_bind, Prog.step_bind,
      Prog.run_step, exec, opened, issued, created, State.write, Except.map, must,
      Prog.ret_ok_bind, Prog.pure_eq, Prog.run_ret, firstPair]

/-! ### Whose rows they are -/

/-- From one database to the next, families and tokens came to be for the user only; the users and
the tenants are the same. -/
structure AddsFor (v : Id) (a b : Db) : Prop where
  users : b.users = a.users
  tenants : b.tenants = a.tenants
  families : ∀ f ∈ b.families.rows, f.userId = v ∨
    ∃ f₀ ∈ a.families.rows, f₀.id = f.id ∧ f₀.userId = f.userId
  tokens : ∀ k ∈ b.tokens.rows, (∀ f ∈ b.families.rows, f.id = k.familyId → f.userId = v) ∨
    ∃ k₀ ∈ a.tokens.rows, k₀.tokenHash = k.tokenHash ∧ k₀.familyId = k.familyId

/-- A token with the hash is of the user. -/
def OwnedBy (db : Db) (tokenHash : String) (v : Id) : Prop :=
  ∀ k ∈ db.tokens.rows, k.tokenHash = tokenHash → ∀ f ∈ db.families.rows, f.id = k.familyId →
    f.userId = v

variable {a b mid last : Db} {v : Id}

theorem AddsFor.refl (v : Id) (a : Db) : AddsFor v a a where
  users := rfl
  tenants := rfl
  families f mem := Or.inr ⟨f, mem, rfl, rfl⟩
  tokens k mem := Or.inr ⟨k, mem, rfl, rfl⟩

/-- Only the named tables need an argument. -/
theorem AddsFor.of_tables {t : Tables} (same : b.toTables = t) (users : t.users = a.users)
    (tenants : t.tenants = a.tenants)
    (families : ∀ f ∈ t.families.rows, f.userId = v ∨
      ∃ f₀ ∈ a.families.rows, f₀.id = f.id ∧ f₀.userId = f.userId)
    (tokens : ∀ k ∈ t.tokens.rows, (∀ f ∈ t.families.rows, f.id = k.familyId → f.userId = v) ∨
      ∃ k₀ ∈ a.tokens.rows, k₀.tokenHash = k.tokenHash ∧ k₀.familyId = k.familyId) :
    AddsFor v a b := by
  subst same
  exact ⟨users, tenants, families, tokens⟩

variable {tenantId : Id} {tokenHash : String} {expiresAt : Instant}
  {ipAddress userAgent : Option String}

/-- The family that is opened has the key the next one was to have. -/
theorem mem_createFamily (opened : a.createFamily v tenantId = .ok mid) {f : RefreshTokenFamily} :
    f ∈ mid.families.rows ↔
      f ∈ a.families.rows ∨ f = { id := a.families.fresh, userId := v, tenantId } :=
  mem_insert (Db.createFamily_ok opened).1

theorem AddsFor.createFamily (opened : a.createFamily v tenantId = .ok mid) : AddsFor v a mid := by
  obtain ⟨-, same⟩ := Db.createFamily_ok opened
  refine .of_tables same rfl rfl (fun f mem => ?_) fun k mem => Or.inr ⟨k, mem, rfl, rfl⟩
  rcases (mem_createFamily opened).mp mem with before | rfl
  · exact Or.inr ⟨f, before, rfl, rfl⟩
  · exact Or.inl rfl

/-- A token that is added to the family of a user is of that user. -/
theorem AddsFor.createToken (adds : AddsFor v a mid) {familyId : Id}
    (owner : ∀ f ∈ mid.families.rows, f.id = familyId → f.userId = v)
    (issued : mid.createToken familyId tokenHash expiresAt ipAddress userAgent = .ok last) :
    AddsFor v a last ∧ OwnedBy last tokenHash v := by
  obtain ⟨inserted, same⟩ := Db.createToken_ok issued
  have families : last.families = mid.families := by rw [same]
  constructor
  · refine .of_tables same adds.users adds.tenants adds.families fun k mem => ?_
    rcases (mem_insert inserted).mp mem with before | rfl
    · exact adds.tokens k before
    · exact Or.inl owner
  · intro k mem hash f memF ofFamily
    rw [families] at memF
    rcases (mem_insert inserted).mp mem with before | rfl
    · have apart := (insert_spec.mp inserted).2.2 k before
      simp [Record.clash, hash] at apart
    · exact owner f memF ofFamily

theorem AddsFor.createSession (adds : AddsFor v a last) {row : UserSession}
    (created : last.createSession row = .ok b) :
    AddsFor v a b ∧ (OwnedBy last tokenHash v → OwnedBy b tokenHash v) := by
  obtain ⟨-, same⟩ := Db.createSession_ok created
  refine ⟨.of_tables same adds.users adds.tenants adds.families adds.tokens, fun owned => ?_⟩
  unfold OwnedBy
  rw [same]
  exact owned

/-- What an issue of tokens adds is the user's, whether it goes through or not; the pair it answers
with names the user, and its refresh token is the user's. -/
theorem issueTokens_adds (sha256 : String → String) (s : State) (user : User) (client : Client)
    (rawRefreshToken : String) :
    AddsFor user.id s.db ((issueTokens sha256 user client rawRefreshToken).run exec s).1.db ∧
    ∀ pair, ((issueTokens sha256 user client rawRefreshToken).run exec s).2 = .ok pair →
      pair = firstPair user client rawRefreshToken ∧
      OwnedBy ((issueTokens sha256 user client rawRefreshToken).run exec s).1.db
        (sha256 rawRefreshToken) user.id := by
  rcases issueTokens_cases sha256 s user client rawRefreshToken with
    ⟨problem, -, same⟩ | ⟨mid, opened, rest⟩
  · rw [same]
    exact ⟨.refl _ _, fun pair answered => by cases answered⟩
  · have first := AddsFor.createFamily opened
    have owner : ∀ f ∈ mid.families.rows, f.id = s.db.families.fresh → f.userId = user.id := by
      intro f mem ofFamily
      rcases (mem_createFamily opened).mp mem with before | rfl
      · have less := s.db.families.key_lt_fresh before
        exact absurd ofFamily less.ne
      · rfl
    rcases rest with ⟨problem, same⟩ | ⟨last, issued, rest⟩
    · rw [same]
      exact ⟨first, fun pair answered => by cases answered⟩
    · obtain ⟨second, owned⟩ := first.createToken owner issued
      rcases rest with ⟨problem, -, same⟩ | ⟨db, created, same⟩
      · rw [same]
        exact ⟨second, fun pair answered => by cases answered⟩
      · obtain ⟨third, keeps⟩ := second.createSession created
        rw [same]
        exact ⟨third, fun pair answered => ⟨(Except.ok.inj answered).symm, keeps owned⟩⟩

/-- For a user who is there a family is opened, and stays. -/
theorem issueTokens_opens (sha256 : String → String) (s : State) (client : Client)
    (rawRefreshToken : String) {user : User} (mem : user ∈ s.db.users.rows) :
    ∃ f ∈ ((issueTokens sha256 user client rawRefreshToken).run exec s).1.db.families.rows,
      f.id = s.db.families.fresh ∧ f.userId = user.id := by
  rcases issueTokens_cases sha256 s user client rawRefreshToken with
    ⟨problem, refused, -⟩ | ⟨mid, opened, rest⟩
  · obtain ⟨mid, opened⟩ := Db.exists_createFamily (find?_key _ mem) user.tenantId
    cases opened.symm.trans refused
  · have new := (mem_createFamily opened).mpr (Or.inr rfl)
    rcases rest with ⟨problem, same⟩ | ⟨last, issued, rest⟩
    · rw [same]
      exact ⟨_, new, rfl, rfl⟩
    · have families : last.families = mid.families := by rw [(Db.createToken_ok issued).2]
      rcases rest with ⟨problem, -, same⟩ | ⟨db, created, same⟩
      · rw [same]
        exact ⟨_, families ▸ new, rfl, rfl⟩
      · have sameFamilies : db.families = mid.families := by
          rw [(Db.createSession_ok created).2, families]
        rw [same]
        exact ⟨_, sameFamilies ▸ new, rfl, rfl⟩

/-- A refresh of a stored token adds for its owner only, and answers with the owner's tokens. -/
theorem refreshTokenCore_adds (sha256 : String → String) (s : State) {rawToken : String}
    (client : Client) (newRawRefreshToken : String) {record : TokenRecord}
    (found : s.db.findToken (sha256 rawToken) = some record) :
    AddsFor record.user.id s.db
      ((refreshTokenCore sha256 rawToken client newRawRefreshToken).run exec s).1.db ∧
    ∀ pair, ((refreshTokenCore sha256 rawToken client newRawRefreshToken).run exec s).2 =
        .ok pair → pair = successor record client newRawRefreshToken ∧
      OwnedBy ((refreshTokenCore sha256 rawToken client newRawRefreshToken).run exec s).1.db
        (sha256 newRawRefreshToken) record.user.id := by
  obtain ⟨stored, ofFamily, ofUser⟩ := Tables.findToken_eq_some_iff.mp found
  have familyId : record.family.id = record.token.familyId := key_of_find? ofFamily
  have userId : record.user.id = record.family.userId := key_of_find? ofUser
  have read : (refreshTokenCore sha256 rawToken client newRawRefreshToken).run exec s =
      (exchange sha256 record client newRawRefreshToken).run exec s := by
    simp only [refreshTokenCore, query, Prog.call_bind, Prog.run_step, exec, found, orThrow,
      orFail, Prog.ret_ok_bind]
  rw [read]
  rcases exchange_cases sha256 record client newRawRefreshToken with
    ⟨-, e, same⟩ | ⟨-, -, same⟩ | ⟨-, -, -, same⟩ <;>
  rw [same]
  · exact ⟨.refl _ _, fun pair answered => by cases answered⟩
  · simp only [Prog.run_step, exec]
    cases revoked : s.db.revokeFamily record.family.id "TOKEN_REUSE_DETECTED" with
    | error e =>
      simp only [State.write, must, Prog.ret_error_bind, Prog.run_ret]
      exact ⟨.refl _ _, fun pair answered => by cases answered⟩
    | ok db =>
      obtain ⟨updated, only⟩ := Db.revokeFamily_ok revoked
      simp only [State.write, must, Prog.ret_ok_bind, Prog.run_ret]
      refine ⟨.of_tables only rfl rfl (fun f mem => Or.inr ?_) fun k mem =>
        Or.inr ⟨k, mem, rfl, rfl⟩, fun pair answered => by cases answered⟩
      rcases (mem_update updated).mp mem with ⟨before, -⟩ | ⟨row, before, rfl⟩
      · exact ⟨f, before, rfl, rfl⟩
      · exact ⟨row, mem_of_find? before, rfl, rfl⟩
  · simp only [Prog.run_step, exec]
    cases rotated : s.db.rotate record.token.id record.family.id (sha256 newRawRefreshToken)
        (client.now + REFRESH_EXPIRY) client.ipAddress client.userAgent with
    | error e =>
      simp only [State.write, must, Prog.ret_error_bind, Prog.run_ret]
      exact ⟨.refl _ _, fun pair answered => by cases answered⟩
    | ok db =>
      simp only [State.write, must, Prog.ret_ok_bind, Prog.run_ret]
      obtain ⟨mid, marked, issued⟩ := bind_eq_ok.mp rotated
      obtain ⟨updated, only⟩ := Db.useToken_ok marked
      have families : mid.families = s.db.families := by rw [only]
      have first : AddsFor record.user.id s.db mid := by
        refine .of_tables only rfl rfl (fun f mem => Or.inr ⟨f, mem, rfl, rfl⟩) fun k mem =>
          Or.inr ?_
        rcases (mem_update updated).mp mem with ⟨before, -⟩ | ⟨row, before, rfl⟩
        · exact ⟨k, before, rfl, rfl⟩
        · exact ⟨row, mem_of_find? before, rfl, rfl⟩
      have owner : ∀ f ∈ mid.families.rows, f.id = record.family.id →
          f.userId = record.user.id := by
        intro f mem same
        rw [families] at mem
        have row := s.db.families.eq_of_key_eq mem (mem_of_find? ofFamily) same
        rw [row, userId]
      obtain ⟨adds, owned⟩ := first.createToken owner issued
      exact ⟨adds, fun pair answered => ⟨(Except.ok.inj answered).symm, owned⟩⟩

end Rokad.Auth
