import Rokad.Auth.Families
import Rokad.Auth.Issue

/-!
# Sessions and chains

A login leaves a session and a chain of refresh tokens. The two agree when a session is revoked
exactly if its chain can no longer be refreshed. Which requests keep the agreement: a login and a
rotation do (`Linked.login`, `Linked.rotate`); revoking one session leaves its chain alive, a replay
ends a chain and leaves its session, and ending all other sessions ends the chain of the device
that asked as well.

A chain is alive as long as time is all that can end it: its last token still has to be presented
before it expires.
-/

namespace Rokad.Auth

open Rokad.Base Rokad.Common

/-! ### Chains -/

/-- The chain can be refreshed: one of its tokens passes every check, at some time. -/
def Alive (db : Db) (familyId : Id) : Prop :=
  ∃ tokenHash now, InFamily db tokenHash familyId ∧ Exchangeable db tokenHash now

section

variable {a b db : Db} {tokenHash : String} {familyId : Id}

theorem inFamily_iff :
    InFamily db tokenHash familyId ↔
      ∃ k ∈ db.tokens.rows, k.tokenHash = tokenHash ∧ k.familyId = familyId := by
  constructor
  · rintro ⟨k, found, same⟩
    obtain ⟨mem, hash⟩ := Tables.findHash_eq_some_iff.mp found
    exact ⟨k, mem, hash, same⟩
  · rintro ⟨k, mem, hash, same⟩
    exact ⟨k, Tables.findHash_eq_some_iff.mpr ⟨mem, hash⟩, same⟩

/-- A hash is in one family at most. -/
theorem InFamily.unique {g : Id} (first : InFamily db tokenHash familyId)
    (second : InFamily db tokenHash g) : familyId = g := by
  obtain ⟨k, found, rfl⟩ := first
  obtain ⟨k', found', rfl⟩ := second
  cases found.symm.trans found'
  rfl

/-- The time is no obstacle: a chain is alive when its family is not revoked and has a token that
was not exchanged. -/
theorem alive_iff :
    Alive db familyId ↔ (∃ f, db.families.find? familyId = some f ∧ f.isRevoked = false) ∧
        ∃ k ∈ db.tokens.rows, k.familyId = familyId ∧ k.isUsed = false := by
  constructor
  · rintro ⟨h, now, ⟨k, found, rfl⟩, k', f, found', unused, -, family, live⟩
    cases found.symm.trans found'
    exact ⟨⟨f, family, live⟩, k, (Tables.findHash_eq_some_iff.mp found).1, rfl, unused⟩
  · rintro ⟨⟨f, family, live⟩, k, mem, rfl, unused⟩
    have found : db.findHash k.tokenHash = some k := Tables.findHash_eq_some_iff.mpr ⟨mem, rfl⟩
    exact ⟨k.tokenHash, k.expiresAt, ⟨k, found, rfl⟩, k, f, found, unused, lt_irrefl _, family,
      live⟩

theorem Untouched.alive_iff (untouched : Untouched a b familyId) :
    Alive b familyId ↔ Alive a familyId := by
  have tokens : (∃ k ∈ b.tokens.rows, k.familyId = familyId ∧ k.isUsed = false) ↔
      ∃ k ∈ a.tokens.rows, k.familyId = familyId ∧ k.isUsed = false := by
    constructor
    · rintro ⟨k, mem, same, unused⟩
      exact ⟨k, (untouched.2 k same).mp mem, same, unused⟩
    · rintro ⟨k, mem, same, unused⟩
      exact ⟨k, (untouched.2 k same).mpr mem, same, unused⟩
  rw [Auth.alive_iff, Auth.alive_iff, untouched.1, tokens]

theorem not_alive_of_revoked (revoked : Revoked db familyId) : ¬ Alive db familyId := by
  intro alive
  obtain ⟨f, found, isRevoked⟩ := revoked
  obtain ⟨⟨f', found', live⟩, -⟩ := alive_iff.mp alive
  cases found.symm.trans found'
  rw [isRevoked] at live
  cases live

end

/-! ### Agreement -/

/-- A session is revoked exactly if the chain of its login cannot be refreshed. -/
def Agrees (db : Db) : Prop :=
  ∀ s ∈ db.sessions.rows, ∀ familyId, InFamily db s.sessionTokenHash familyId →
    (Alive db familyId ↔ s.isRevoked = false)

/-- What logins and rotations build: the hash of a session is that of a token of its user; the
family of a token has a token that was not exchanged, and a session. -/
structure Linked (db : Db) : Prop where
  first : ∀ s ∈ db.sessions.rows, ∃ familyId f, InFamily db s.sessionTokenHash familyId ∧
    db.families.find? familyId = some f ∧ f.userId = s.userId
  unused : ∀ k ∈ db.tokens.rows, ∃ k' ∈ db.tokens.rows, k'.familyId = k.familyId ∧ k'.isUsed = false
  session : ∀ k ∈ db.tokens.rows, ∃ s ∈ db.sessions.rows, InFamily db s.sessionTokenHash k.familyId

section

variable {a b : Db}

/-- No new chain and no new session, and a token left in each chain that had one. -/
theorem Linked.step (linked : Linked a) (grows : Grows a b)
    (sessions : ∀ s ∈ b.sessions.rows, ∃ s₀ ∈ a.sessions.rows,
      s₀.sessionTokenHash = s.sessionTokenHash ∧ s₀.userId = s.userId)
    (chains : ∀ k ∈ b.tokens.rows, ∃ k₀ ∈ a.tokens.rows, k₀.familyId = k.familyId)
    (unused : ∀ k ∈ a.tokens.rows, k.isUsed = false →
      ∃ k' ∈ b.tokens.rows, k'.familyId = k.familyId ∧ k'.isUsed = false) : Linked b where
  first := by
    intro s mem
    obtain ⟨s₀, mem₀, hash, user⟩ := sessions s mem
    obtain ⟨familyId, f, inFamily, found, owner⟩ := linked.first s₀ mem₀
    obtain ⟨f', found', sameUser, -⟩ := grows.families familyId f found
    exact ⟨familyId, f', hash ▸ inFamily.grows grows, found', by rw [sameUser, owner, user]⟩
  unused := by
    intro k mem
    obtain ⟨k₀, mem₀, same⟩ := chains k mem
    obtain ⟨k₁, mem₁, same₁, notUsed⟩ := linked.unused k₀ mem₀
    obtain ⟨k₂, mem₂, same₂, notUsed₂⟩ := unused k₁ mem₁ notUsed
    exact ⟨k₂, mem₂, by rw [same₂, same₁, same], notUsed₂⟩
  session := by
    intro k mem
    obtain ⟨k₀, mem₀, same⟩ := chains k mem
    obtain ⟨s, memS, inFamily⟩ := linked.session k₀ mem₀
    obtain ⟨s', foundS, -, hash, -⟩ := grows.sessions _ s (find?_key _ memS)
    refine ⟨s', mem_of_find? foundS, ?_⟩
    rw [hash, ← same]
    exact inFamily.grows grows

/-- The chain of a session stays the same whatever grows. -/
theorem Linked.inFamily (linked : Linked a) (grows : Grows a b) {s : UserSession}
    (mem : s ∈ a.sessions.rows) {familyId : Id} :
    InFamily b s.sessionTokenHash familyId ↔ InFamily a s.sessionTokenHash familyId := by
  constructor
  · intro inFamily
    obtain ⟨g, -, before, -⟩ := linked.first s mem
    cases inFamily.unique (before.grows grows)
    exact before
  · intro inFamily
    exact inFamily.grows grows

/-- The family of a stored token exists. -/
theorem InFamily.exists {tokenHash : String} {familyId : Id}
    (inFamily : InFamily a tokenHash familyId) : ∃ f, a.families.find? familyId = some f := by
  obtain ⟨k, found, rfl⟩ := inFamily
  exact a.family_exists (Tables.findHash_eq_some_iff.mp found).1

/-- Where the sessions and the life of every chain stay the same, so does the agreement. -/
theorem Linked.agrees (linked : Linked a) (grows : Grows a b) (same : b.sessions = a.sessions)
    (alive : ∀ familyId f, a.families.find? familyId = some f →
      (Alive b familyId ↔ Alive a familyId)) (agrees : Agrees a) : Agrees b := by
  intro s mem familyId inFamily
  have mem' : s ∈ a.sessions.rows := same ▸ mem
  have before := (linked.inFamily grows mem').mp inFamily
  obtain ⟨f, found⟩ := before.exists
  rw [alive familyId f found]
  exact agrees s mem' familyId before

end

/-! ### Rotations -/

section

variable {a b : Db} {k : RefreshToken} {tokenHash : String} {expiresAt : Instant}
  {ipAddress userAgent : Option String}

/-- The tokens after a rotation: the successor, the token marked, and the others. -/
theorem mem_rotate (mem : k ∈ a.tokens.rows)
    (done : a.rotate k.id k.familyId tokenHash expiresAt ipAddress userAgent = .ok b) :
    ∃ new : RefreshToken, new.familyId = k.familyId ∧ new.isUsed = false ∧
      ∀ x, x ∈ b.tokens.rows ↔ (x ∈ a.tokens.rows ∧ x.id ≠ k.id) ∨ x = Db.use k ∨ x = new := by
  obtain ⟨used, new, updated, inserted, family, -, unused, -⟩ := Db.rotate_ok done
  refine ⟨new, family, unused, fun x => ?_⟩
  rw [mem_insert inserted, mem_update updated]
  have own : a.tokens.find? k.id = some k := find?_key _ mem
  simp only [own, Option.some.injEq, exists_eq_left', or_assoc]
  rfl

/-- A rotation keeps every chain alive that was, and makes none alive. -/
theorem alive_rotate (mem : k ∈ a.tokens.rows) (unused : k.isUsed = false)
    {f : RefreshTokenFamily} (family : a.families.find? k.familyId = some f)
    (live : f.isRevoked = false)
    (done : a.rotate k.id k.familyId tokenHash expiresAt ipAddress userAgent = .ok b)
    (g : Id) : Alive b g ↔ Alive a g := by
  obtain ⟨new, ofFamily, notUsed, rows⟩ := mem_rotate mem done
  have families : b.families = a.families := by
    obtain ⟨-, -, -, -, -, -, -, -, same⟩ := Db.rotate_ok done
    rw [same]
  by_cases own : g = k.familyId
  · subst own
    refine iff_of_true (alive_iff.mpr ⟨⟨f, families ▸ family, live⟩, new, ?_, ofFamily, notUsed⟩)
      (alive_iff.mpr ⟨⟨f, family, live⟩, k, mem, rfl, unused⟩)
    exact (rows new).mpr (Or.inr (Or.inr rfl))
  · refine Untouched.alive_iff ⟨by rw [families], fun x same => ?_⟩
    rw [rows x]
    constructor
    · rintro (⟨memX, -⟩ | rfl | rfl)
      · exact memX
      · exact absurd same.symm own
      · exact absurd (same.symm.trans ofFamily) own
    · intro memX
      refine Or.inl ⟨memX, fun ids => own ?_⟩
      rw [← same, a.tokens.eq_of_key_eq memX mem ids]

theorem Linked.rotate (linked : Linked a) (mem : k ∈ a.tokens.rows)
    (done : a.rotate k.id k.familyId tokenHash expiresAt ipAddress userAgent = .ok b) :
    Linked b := by
  obtain ⟨new, ofFamily, notUsed, rows⟩ := mem_rotate mem done
  have sessions : b.sessions = a.sessions := by
    obtain ⟨-, -, -, -, -, -, -, -, same⟩ := Db.rotate_ok done
    rw [same]
  obtain ⟨mid, marked, created⟩ := bind_eq_ok.mp done
  refine linked.step ((useToken_grows marked).trans (createToken_grows created))
    (fun s memS => ⟨s, sessions ▸ memS, rfl, rfl⟩) (fun x memX => ?_) (fun x memX unused => ?_)
  · rcases (rows x).mp memX with ⟨before, -⟩ | rfl | rfl
    · exact ⟨x, before, rfl⟩
    · exact ⟨k, mem, rfl⟩
    · exact ⟨k, mem, ofFamily.symm⟩
  · by_cases own : x.id = k.id
    · cases a.tokens.eq_of_key_eq memX mem own
      exact ⟨new, (rows new).mpr (Or.inr (Or.inr rfl)), ofFamily, notUsed⟩
    · exact ⟨x, (rows x).mpr (Or.inl ⟨memX, own⟩), rfl, unused⟩

end

/-! ### Logins -/

section

variable {sha256 : String → String} {argon2 : Argon2} {a b : Db}

variable {mid last : Db} {userId tenantId : Id} {tokenHash : String} {expiresAt : Instant}
  {ipAddress userAgent : Option String}

/-- A family without a token is no chain. -/
theorem Linked.createFamily (linked : Linked a)
    (opened : a.createFamily userId tenantId = .ok mid) :
    Linked mid ∧ (Agrees a → Agrees mid) := by
  obtain ⟨inserted, same⟩ := Db.createFamily_ok opened
  have grows := createFamily_grows opened
  have tokens : mid.tokens = a.tokens := by rw [same]
  have sessions : mid.sessions = a.sessions := by rw [same]
  refine ⟨linked.step grows (fun s mem => ⟨s, sessions ▸ mem, rfl, rfl⟩)
    (fun k mem => ⟨k, tokens ▸ mem, rfl⟩) (fun k mem unused => ⟨k, tokens ▸ mem, rfl, unused⟩),
    linked.agrees grows sessions fun g f found => ?_⟩
  refine Untouched.alive_iff ⟨?_, fun k _ => by rw [tokens]⟩
  rw [found, Table.find?_insert_of_found inserted found]

/-- The session of a new token can be stored: its hash is new. -/
theorem Linked.exists_createSession (linked : Linked a)
    (opened : a.createFamily userId tenantId = .ok mid)
    (issued : mid.createToken a.families.fresh tokenHash expiresAt ipAddress userAgent = .ok last)
    (row : UserSession) (hash : row.sessionTokenHash = tokenHash) (user : row.userId = userId) :
    ∃ b, last.createSession row = .ok b := by
  obtain ⟨insertedF, sameF⟩ := Db.createFamily_ok opened
  obtain ⟨insertedT, sameT⟩ := Db.createToken_ok issued
  have clear : ∀ s ∈ last.sessions.rows,
      Record.clash s { row with id := last.sessions.fresh } = false := by
    intro s mem
    have before : s ∈ a.sessions.rows := by rwa [sameT, sameF] at mem
    obtain ⟨g, -, inFamily, -⟩ := linked.first s before
    obtain ⟨k, memK, hashK, -⟩ := inFamily_iff.mp inFamily
    have apart := (insert_spec.mp insertedT).2.2 k (by rwa [sameF])
    simp only [Record.clash, beq_eq_false_iff_ne] at apart ⊢
    rwa [hash, ← hashK]
  have present : last.users.has (some row.userId) = true := by
    obtain ⟨found, ofUser⟩ := mid.user_exists ((mem_insert insertedF).mpr (Or.inr rfl))
    rw [sameT, user]
    exact has_some_iff.mpr ⟨found, ofUser⟩
  obtain ⟨sessions, inserted⟩ := last.sessions.insert_of_fresh
    { row with id := last.sessions.fresh } rfl clear
  unfold Db.createSession
  rw [dif_pos present]
  split
  · rename_i refused
    rw [inserted] at refused
    cases refused
  · exact ⟨_, rfl⟩

/-- What a login leaves: a new chain with one token, and its session. -/
theorem Linked.login (linked : Linked a) (opened : a.createFamily userId tenantId = .ok mid)
    (issued : mid.createToken a.families.fresh tokenHash expiresAt ipAddress userAgent = .ok last)
    {row : UserSession} (hash : row.sessionTokenHash = tokenHash) (user : row.userId = userId)
    (active : row.isRevoked = false) (created : last.createSession row = .ok b) :
    Linked b ∧ (Agrees a → Agrees b) := by
  obtain ⟨insertedF, sameF⟩ := Db.createFamily_ok opened
  obtain ⟨insertedT, sameT⟩ := Db.createToken_ok issued
  obtain ⟨insertedS, sameS⟩ := Db.createSession_ok created
  have grows : Grows a b := ((createFamily_grows opened).trans (createToken_grows issued)).trans
    (createSession_grows created)
  have tokens : ∃ new : RefreshToken, new.familyId = a.families.fresh ∧
      new.tokenHash = tokenHash ∧ new.isUsed = false ∧
      ∀ x, x ∈ b.tokens.rows ↔ x ∈ a.tokens.rows ∨ x = new := by
    refine ⟨⟨mid.tokens.fresh, a.families.fresh, tokenHash, false, expiresAt, ipAddress, userAgent⟩,
      rfl, rfl, rfl, fun x => ?_⟩
    rw [sameS, mem_insert insertedT, sameF]
  have sessions : ∃ new : UserSession, new.userId = userId ∧ new.sessionTokenHash = tokenHash ∧
      new.isRevoked = false ∧ ∀ x, x ∈ b.sessions.rows ↔ x ∈ a.sessions.rows ∨ x = new := by
    refine ⟨{ row with id := last.sessions.fresh }, user, hash, active, fun x => ?_⟩
    rw [mem_insert insertedS, sameT, sameF]
  have families : ∀ g, b.families.find? g = if a.families.fresh = g then
      some { id := a.families.fresh, userId, tenantId } else a.families.find? g := by
    intro g
    rw [sameS, sameT, Table.find?_insert insertedF]
    rfl
  obtain ⟨newT, ofFamily, hashT, unused, rowsT⟩ := tokens
  obtain ⟨newS, ofUser, hashS, unrevoked, rowsS⟩ := sessions
  have opens : InFamily b tokenHash a.families.fresh :=
    inFamily_iff.mpr ⟨newT, (rowsT newT).mpr (Or.inr rfl), hashT, ofFamily⟩
  constructor
  · refine ⟨fun s mem => ?_, fun k mem => ?_, fun k mem => ?_⟩
    · rcases (rowsS s).mp mem with before | rfl
      · obtain ⟨g, f, inFamily, found, owner⟩ := linked.first s before
        obtain ⟨f', found', sameUser, -⟩ := grows.families g f found
        exact ⟨g, f', inFamily.grows grows, found', sameUser.trans owner⟩
      · exact ⟨a.families.fresh, { id := a.families.fresh, userId, tenantId }, hashS ▸ opens,
          by rw [families, if_pos rfl], ofUser.symm⟩
    · rcases (rowsT k).mp mem with before | rfl
      · obtain ⟨k', mem', same, notUsed⟩ := linked.unused k before
        exact ⟨k', (rowsT k').mpr (Or.inl mem'), same, notUsed⟩
      · exact ⟨k, mem, rfl, unused⟩
    · rcases (rowsT k).mp mem with before | rfl
      · obtain ⟨s, memS, inFamily⟩ := linked.session k before
        exact ⟨s, (rowsS s).mpr (Or.inl memS), inFamily.grows grows⟩
      · exact ⟨newS, (rowsS newS).mpr (Or.inr rfl), by rw [hashS, ofFamily]; exact opens⟩
  · intro agrees s mem g inFamily
    rcases (rowsS s).mp mem with before | rfl
    · have inFamily' := (linked.inFamily grows before).mp inFamily
      obtain ⟨f, found⟩ := inFamily'.exists
      have differ : a.families.fresh ≠ g := by
        rintro rfl
        rw [find?_fresh] at found
        cases found
      rw [← agrees s before g inFamily']
      refine Untouched.alive_iff ⟨by rw [families, if_neg differ], fun k same => ?_⟩
      rw [rowsT k]
      refine or_iff_left ?_
      rintro rfl
      exact differ (ofFamily.symm.trans same)
    · rw [hashS] at inFamily
      cases inFamily.unique opens
      refine iff_of_true (alive_iff.mpr ⟨⟨_, by rw [families, if_pos rfl], rfl⟩, newT, ?_,
        ofFamily, unused⟩) unrevoked
      exact (rowsT newT).mpr (Or.inr rfl)

end

/-! ### Ending sessions -/

section

variable {sha256 : String → String} {argon2 : Argon2} {a b : Db}

/-- Revoking a session finds none of the user, or marks it. -/
theorem revokeSession_cases (sha256 : String → String) (argon2 : Argon2) (s : State)
    (userId sessionId : Id) :
    (s.db.findSession sessionId userId = none ∧
      serve sha256 argon2 s (.revokeSession userId sessionId) = s) ∨
    ∃ session db', s.db.findSession sessionId userId = some session ∧
      s.db.revokeSession session.id = .ok db' ∧
      serve sha256 argon2 s (.revokeSession userId sessionId) = { s with db := db' } := by
  simp only [serve, Request.prog, revokeSession, query, Prog.call_bind, Prog.step_bind,
    Prog.run_step, exec]
  cases found : s.db.findSession sessionId userId with
  | none => exact Or.inl ⟨rfl, rfl⟩
  | some session =>
    have stored : s.db.sessions.find? session.id = some session :=
      find?_key _ (List.mem_of_find?_eq_some found)
    obtain ⟨sessions, updated⟩ : ∃ t, s.db.sessions.update session.id Db.endSession
        Db.key_endSession = some t := update_isSome stored fun _ _ => rfl
    have done : ∃ db', s.db.revokeSession session.id = .ok db' := by
      unfold Db.revokeSession
      split
      · rename_i refused
        rw [updated] at refused
        cases refused
      · exact ⟨_, rfl⟩
    obtain ⟨db', done⟩ := done
    refine Or.inr ⟨session, db', rfl, done, ?_⟩
    simp only [orThrow, orFail, Prog.ret_ok_bind, Prog.step_bind, Prog.run_step, exec, done,
      State.write, must, Prog.pure_eq, Prog.run_ret]

/-- The sessions of the user but the kept one are revoked, and all families of the user. -/
def Db.revokeOthers (db : Db) (userId : Id) (kept : Option String) : Db :=
  (db.revokeSessions userId kept).revokeFamilies userId true "PASS_CHANGE_OR_ALL_SESSIONS_REVOKED"

theorem serve_revokeAllOtherSessions (s : State) (userId : Id) (current : Option String) :
    serve sha256 argon2 s (.revokeAllOtherSessions userId current) =
      { s with db := s.db.revokeOthers userId ((truthy current).map sha256) } := rfl

/-- A new password can always be stored. -/
theorem exists_updatePassword {userId : Id} {user : User}
    (found : a.users.find? userId = some user) (passwordHash : String) :
    ∃ mid, a.updateUser userId { passwordHash := some passwordHash } = .ok mid := by
  obtain ⟨users, updated⟩ : ∃ t, a.users.update userId
      (UserUpdate.apply { passwordHash := some passwordHash }) (UserUpdate.key_apply _) = some t :=
    update_isSome found fun _ _ => rfl
  unfold Db.updateUser
  split
  · rename_i refused
    rw [updated] at refused
    cases refused
  · exact ⟨_, rfl⟩

/-- A change of the password is refused, or it is followed by the end of all other sessions. -/
theorem changePassword_cases (sha256 : String → String) (argon2 : Argon2) (s : State)
    (userId : Id) (dto : ChangePasswordDto) (current : Option String) :
    ((∀ user, s.db.users.find? userId = some user →
        argon2.verify user.passwordHash dto.oldPassword ≠ true) ∧
      serve sha256 argon2 s (.changePassword userId dto current) = s ∧
      ∃ e, answer sha256 argon2 s (.changePassword userId dto current) = .error e) ∨
    ∃ user mid, s.db.users.find? userId = some user ∧
      argon2.verify user.passwordHash dto.oldPassword = true ∧
      s.db.updateUser userId { passwordHash := some (argon2.hash dto.newPassword) } = .ok mid ∧
      serve sha256 argon2 s (.changePassword userId dto current) =
        { s with db := mid.revokeOthers userId ((truthy current).map sha256) } ∧
      answer sha256 argon2 s (.changePassword userId dto current) = .ok none := by
  simp only [serve, answer, Request.prog, changePassword, query, Prog.call_bind, Prog.step_bind,
    Prog.run_step, exec]
  cases found : s.db.users.find? userId with
  | none =>
    refine Or.inl ⟨?_, rfl, _, rfl⟩
    intro user absent
    cases absent
  | some user =>
    simp only [orThrow, orFail, Prog.ret_ok_bind, demand]
    by_cases right : argon2.verify user.passwordHash dto.oldPassword = true
    · simp only [require, right, if_true, Prog.ret_ok_bind, Prog.step_bind, Prog.run_step, exec]
      obtain ⟨mid, done⟩ := exists_updatePassword found (argon2.hash dto.newPassword)
      rw [done]
      exact Or.inr ⟨user, mid, rfl, right, rfl, rfl, rfl⟩
    · simp only [require, right]
      refine Or.inl ⟨?_, rfl, _, rfl⟩
      rintro _ ⟨⟩
      exact right

theorem revokeOthers_grows (a : Db) (userId : Id) (kept : Option String) :
    Grows a (a.revokeOthers userId kept) :=
  (exec_grows (.revokeSessions userId kept) { db := a }).trans
    (exec_grows (.revokeFamilies userId true "PASS_CHANGE_OR_ALL_SESSIONS_REVOKED")
      { db := a.revokeSessions userId kept })

/-- Every chain of the user ends, and no other. -/
theorem alive_revokeOthers {userId : Id} {kept : Option String} {g : Id} :
    Alive (a.revokeOthers userId kept) g ↔
      Alive a g ∧ ∀ f, a.families.find? g = some f → f.userId ≠ userId := by
  have families : (a.revokeOthers userId kept).families.find? g =
      (a.families.find? g).map fun f => if f.userId = userId && !(true && f.isRevoked)
        then Db.revoke "PASS_CHANGE_OR_ALL_SESSIONS_REVOKED" f else f := by
    unfold Db.revokeOthers Db.revokeFamilies
    dsimp only
    rw [Table.find?_updateMany]
    rfl
  rw [alive_iff, alive_iff, families]
  change _ ∧ (∃ k ∈ a.tokens.rows, _) ↔ _
  cases found : a.families.find? g with
  | none => simp
  | some f =>
    by_cases own : f.userId = userId
    · cases revoked : f.isRevoked <;> simp [own, revoked, Db.revoke]
    · simp [own]

theorem mem_revokeOthers {userId : Id} {kept : Option String} {s : UserSession} :
    s ∈ (a.revokeOthers userId kept).sessions.rows ↔
      ∃ s₀ ∈ a.sessions.rows, s = if Db.isOther userId kept s₀ then Db.endSession s₀ else s₀ := by
  change s ∈ List.map _ _ ↔ _
  simp only [List.mem_map, eq_comm]

theorem Linked.revokeOthers (linked : Linked a) (userId : Id) (kept : Option String) :
    Linked (a.revokeOthers userId kept) := by
  refine linked.step (revokeOthers_grows a userId kept) (fun s mem => ?_)
    (fun k mem => ⟨k, mem, rfl⟩) fun k mem unused => ⟨k, mem, rfl, unused⟩
  obtain ⟨s₀, mem₀, rfl⟩ := mem_revokeOthers.mp mem
  exact ⟨s₀, mem₀, by split <;> rfl, by split <;> rfl⟩

/-- The agreement survives when the session that is kept is not an active one of the user. -/
theorem Linked.agrees_revokeOthers (linked : Linked a) (agrees : Agrees a) {userId : Id}
    {kept : Option String}
    (gone : ∀ s ∈ a.sessions.rows, s.userId = userId → some s.sessionTokenHash = kept →
      s.isRevoked = true) : Agrees (a.revokeOthers userId kept) := by
  intro s mem g inFamily
  obtain ⟨s₀, mem₀, rfl⟩ := mem_revokeOthers.mp mem
  have before : InFamily a s₀.sessionTokenHash g := by
    have hash : (if Db.isOther userId kept s₀ then Db.endSession s₀ else s₀).sessionTokenHash =
        s₀.sessionTokenHash := by split <;> rfl
    rwa [hash] at inFamily
  obtain ⟨g', f, inFamily', found, owner⟩ := linked.first s₀ mem₀
  cases inFamily'.unique before
  rw [alive_revokeOthers, agrees s₀ mem₀ g before]
  by_cases own : s₀.userId = userId
  · refine iff_of_false (fun ⟨_, others⟩ => others f found (owner.trans own)) ?_
    by_cases other : Db.isOther userId kept s₀ = true
    · simp [other, Db.endSession]
    · rw [if_neg other]
      cases revoked : s₀.isRevoked with
      | true => simp
      | false =>
        have isKept : some s₀.sessionTokenHash = kept := by
          simpa [Db.isOther, own, revoked] using other
        rw [gone s₀ mem₀ own isKept] at revoked
        cases revoked
  · have other : Db.isOther userId kept s₀ = false := by simp [Db.isOther, own]
    rw [other]
    refine and_iff_left fun f' found' => ?_
    cases found.symm.trans found'
    rwa [owner]

end

/-! ### Exactly that session -/

/-- A login with its session, a rotation, or a request that ends sessions. -/
def Request.OnSessions : Request → Prop
  | .createTokenPair .. | .logout .. => False
  | _ => True

section

variable (sha256 : String → String) (argon2 : Argon2)

/-- The token the device sends is of this chain, which is alive and the user's. -/
def IsCurrent (db : Db) (userId : Id) (current : Option String) (familyId : Id) : Prop :=
  ∃ rawToken f, truthy current = some rawToken ∧ InFamily db (sha256 rawToken) familyId ∧
    Alive db familyId ∧ db.families.find? familyId = some f ∧ f.userId = userId

/-- The chain of the device is alive, and every other chain of the user has ended. -/
def KeepsCurrent (a b : Db) (userId : Id) (current : Option String) : Prop :=
  ∀ familyId, IsCurrent sha256 a userId current familyId →
    Alive b familyId ∧ ∀ g f, g ≠ familyId → b.families.find? g = some f → f.userId = userId →
      ¬ Alive b g

/-- After the request each session is revoked exactly if its chain has ended; a request that ends
all other sessions has left the chain of its device, and only that. -/
def Upholds (s : State) (r : Request) : Prop :=
  Agrees (serve sha256 argon2 s r).db ∧
    match r with
    | .revokeAllOtherSessions userId current =>
      KeepsCurrent sha256 s.db (serve sha256 argon2 s r).db userId current
    | .changePassword userId _ current =>
      (∃ done, answer sha256 argon2 s r = .ok done) →
        KeepsCurrent sha256 s.db (serve sha256 argon2 s r).db userId current
    | _ => True

/-- No token is replayed, no active session is revoked by itself, and the device that ends all
other sessions has no chain to lose. -/
def Careful (s : State) : Request → Prop
  | .refresh rawToken _ _ => ∀ familyId, ¬ Replayed s.db (sha256 rawToken) familyId
  | .revokeSession userId sessionId =>
    ∀ session, s.db.findSession sessionId userId = some session → session.isRevoked = true
  | .revokeAllOtherSessions userId current =>
    ∀ familyId, ¬ IsCurrent sha256 s.db userId current familyId
  | .changePassword userId dto current =>
    ∀ user, s.db.users.find? userId = some user →
      argon2.verify user.passwordHash dto.oldPassword = true →
        ∀ familyId, ¬ IsCurrent sha256 s.db userId current familyId
  | _ => True

end

section

variable {sha256 : String → String} {argon2 : Argon2} {a b : Db}

/-- The session a device keeps is one of a chain it loses. -/
theorem Linked.upholds_revokeOthers (linked : Linked a) (agrees : Agrees a) (userId : Id)
    (current : Option String) :
    (Agrees (a.revokeOthers userId ((truthy current).map sha256)) ∧
      KeepsCurrent sha256 a (a.revokeOthers userId ((truthy current).map sha256)) userId current) ↔
    ∀ familyId, ¬ IsCurrent sha256 a userId current familyId := by
  constructor
  · rintro ⟨-, keeps⟩ g isCurrent
    obtain ⟨alive, -⟩ := keeps g isCurrent
    obtain ⟨rawToken, f, -, -, -, found, owner⟩ := isCurrent
    exact (alive_revokeOthers.mp alive).2 f found owner
  · intro none
    refine ⟨linked.agrees_revokeOthers agrees fun s mem own isKept => ?_, fun g isCurrent =>
      absurd isCurrent (none g)⟩
    cases revoked : s.isRevoked with
    | true => rfl
    | false =>
      obtain ⟨g, f, inFamily, found, owner⟩ := linked.first s mem
      cases given : truthy current with
      | none =>
        rw [given] at isKept
        cases isKept
      | some rawToken =>
        have hash : s.sessionTokenHash = sha256 rawToken := by simpa [given] using isKept
        exact absurd ⟨rawToken, f, given, hash ▸ inFamily,
          (agrees s mem g inFamily).mpr revoked, found, owner.trans own⟩ (none g)

theorem isCurrent_congr (tokens : b.tokens = a.tokens) (families : b.families = a.families)
    {userId familyId : Id} {current : Option String} :
    IsCurrent sha256 b userId current familyId ↔ IsCurrent sha256 a userId current familyId := by
  simp only [IsCurrent, inFamily_iff, alive_iff, tokens, families]

theorem Linked.updateUser (linked : Linked a) {userId : Id} {data : UserUpdate}
    (done : a.updateUser userId data = .ok b) : Linked b ∧ (Agrees a → Agrees b) := by
  obtain ⟨-, same⟩ := Db.updateUser_ok done
  have tokens : b.tokens = a.tokens := by rw [same]
  have sessions : b.sessions = a.sessions := by rw [same]
  have grows := updateUser_grows done
  refine ⟨linked.step grows (fun s mem => ⟨s, sessions ▸ mem, rfl, rfl⟩)
    (fun k mem => ⟨k, tokens ▸ mem, rfl⟩) (fun k mem unused => ⟨k, tokens ▸ mem, rfl, unused⟩),
    linked.agrees grows sessions fun g _ _ => ?_⟩
  exact Untouched.alive_iff ⟨by rw [same], fun k _ => by rw [tokens]⟩

/-- A replay ends the chain of a session that is not revoked. -/
theorem Linked.not_agrees_replay (linked : Linked a) (agrees : Agrees a) {tokenHash reason : String}
    {familyId : Id} (replayed : Replayed a tokenHash familyId)
    (done : a.revokeFamily familyId reason = .ok b) : Linked b ∧ ¬ Agrees b := by
  obtain ⟨-, same⟩ := Db.revokeFamily_ok done
  have tokens : b.tokens = a.tokens := by rw [same]
  have sessions : b.sessions = a.sessions := by rw [same]
  have grows := revokeFamily_grows done
  refine ⟨linked.step grows (fun s mem => ⟨s, sessions ▸ mem, rfl, rfl⟩)
    (fun k mem => ⟨k, tokens ▸ mem, rfl⟩) (fun k mem unused => ⟨k, tokens ▸ mem, rfl, unused⟩),
    fun agreesB => ?_⟩
  obtain ⟨k, f, foundK, -, rfl, family, live⟩ := replayed
  obtain ⟨memK, -⟩ := Tables.findHash_eq_some_iff.mp foundK
  obtain ⟨s, memS, inFamily⟩ := linked.session k memK
  obtain ⟨k', memK', sameFamily, unused⟩ := linked.unused k memK
  have alive : Alive a k.familyId :=
    alive_iff.mpr ⟨⟨f, family, live⟩, k', memK', sameFamily, unused⟩
  have active := (agrees s memS _ inFamily).mp alive
  exact not_alive_of_revoked (revokeFamily_effect done).1
    ((agreesB s (sessions ▸ memS) _ (inFamily.grows grows)).mpr active)

/-- Marking a session leaves its chain: the agreement survives if it was marked already. -/
theorem Linked.revokeSession (linked : Linked a) (agrees : Agrees a) {session : UserSession}
    (mem : session ∈ a.sessions.rows) (done : a.revokeSession session.id = .ok b) :
    Linked b ∧ (Agrees b ↔ session.isRevoked = true) := by
  obtain ⟨updated, same⟩ := Db.revokeSession_ok done
  have tokens : b.tokens = a.tokens := by rw [same]
  have families : b.families = a.families := by rw [same]
  have grows := revokeSession_grows done
  have own : a.sessions.find? session.id = some session := find?_key _ mem
  have rows : ∀ s, s ∈ b.sessions.rows ↔
      (s ∈ a.sessions.rows ∧ s.id ≠ session.id) ∨ s = Db.endSession session := by
    intro s
    rw [mem_update updated]
    simp only [own, Option.some.injEq, exists_eq_left']
    rfl
  have alive : ∀ g, Alive b g ↔ Alive a g := by
    intro g
    rw [alive_iff, alive_iff, tokens, families]
  have inFamily_same : ∀ {h g}, InFamily b h g ↔ InFamily a h g := by
    intro h g
    rw [inFamily_iff, inFamily_iff, tokens]
  constructor
  · refine linked.step grows (fun s memS => ?_) (fun k memK => ⟨k, tokens ▸ memK, rfl⟩)
      fun k memK unused => ⟨k, tokens ▸ memK, rfl, unused⟩
    rcases (rows s).mp memS with ⟨before, -⟩ | rfl
    · exact ⟨s, before, rfl, rfl⟩
    · exact ⟨session, mem, rfl, rfl⟩
  · obtain ⟨g, -, inFamily, -⟩ := linked.first session mem
    constructor
    · intro agreesB
      have dead : ¬ Alive b g := by
        rw [agreesB (Db.endSession session) ((rows _).mpr (Or.inr rfl)) g
          (inFamily_same.mpr inFamily)]
        simp [Db.endSession]
      rw [alive, agrees session mem g inFamily] at dead
      simpa using dead
    · intro marked s memS h ofH
      rw [alive]
      rcases (rows s).mp memS with ⟨before, -⟩ | rfl
      · exact agrees s before h (inFamily_same.mp ofH)
      · rw [agrees session mem h (inFamily_same.mp ofH), marked]
        simp [Db.endSession]

/-- One request, from a state in which sessions and chains agree. -/
theorem Linked.serve (sha256 : String → String) (argon2 : Argon2) {s : State}
    (linked : Linked s.db) (agrees : Agrees s.db) {r : Request} (onSessions : r.OnSessions) :
    Linked (serve sha256 argon2 s r).db ∧
      (Upholds sha256 argon2 s r ↔ Careful sha256 argon2 s r) := by
  cases r with
  | createTokenPair user client rawRefreshToken => exact onSessions.elim
  | logout refreshToken userId => exact onSessions.elim
  | login user client rawRefreshToken =>
    have issued : Auth.serve sha256 argon2 s (.login user client rawRefreshToken) =
        ((issueTokens sha256 user client rawRefreshToken).run exec s).1 := by
      unfold Auth.serve Request.prog
      rw [Prog.run_bind]
      rcases (issueTokens sha256 user client rawRefreshToken).run exec s with ⟨s', e | pair⟩ <;>
        rfl
    have kept : Linked (Auth.serve sha256 argon2 s (.login user client rawRefreshToken)).db ∧
        Agrees (Auth.serve sha256 argon2 s (.login user client rawRefreshToken)).db := by
      rw [issued]
      rcases issueTokens_cases sha256 s user client rawRefreshToken with
        ⟨_, -, same⟩ | ⟨mid, opened, ⟨_, same⟩ | ⟨last, issued, ⟨_, refused, -⟩ |
          ⟨db, created, same⟩⟩⟩
      · rw [same]
        exact ⟨linked, agrees⟩
      · rw [same]
        exact (linked.createFamily opened).imp_right fun keeps => keeps agrees
      · obtain ⟨b, created⟩ := linked.exists_createSession opened issued
          (sessionRow sha256 user.id user.tenantId rawRefreshToken client) rfl rfl
        cases created.symm.trans refused
      · rw [same]
        exact (linked.login opened issued rfl rfl rfl created).imp_right fun keeps => keeps agrees
    exact ⟨kept.1, iff_of_true ⟨kept.2, trivial⟩ trivial⟩
  | refresh rawToken client newRawRefreshToken =>
    rcases refresh_cases sha256 argon2 s rawToken client newRawRefreshToken with
      ⟨not, -, same, -⟩ | ⟨g, db', replayed, revoked, same, -⟩ |
      ⟨k, db', found, ⟨k', f, found', unused, -, family, live⟩, rotated, same, -⟩
    · refine ⟨by rw [same]; exact linked, iff_of_true ⟨?_, trivial⟩ not⟩
      rw [same]
      exact agrees
    · obtain ⟨linked', ends⟩ := linked.not_agrees_replay agrees replayed revoked
      refine ⟨by rw [same]; exact linked', iff_of_false ?_ fun not => not g replayed⟩
      rintro ⟨agrees', -⟩
      rw [same] at agrees'
      exact ends agrees'
    · cases found.symm.trans found'
      have mem := (Tables.findHash_eq_some_iff.mp found).1
      obtain ⟨mid, marked, created⟩ := bind_eq_ok.mp rotated
      refine ⟨by rw [same]; exact linked.rotate mem rotated, iff_of_true ⟨?_, trivial⟩ ?_⟩
      · rw [same]
        refine linked.agrees ((useToken_grows marked).trans (createToken_grows created)) ?_
          (fun g _ _ => alive_rotate mem unused family live rotated g) agrees
        obtain ⟨-, -, -, -, -, -, -, -, rest⟩ := Db.rotate_ok rotated
        rw [rest]
      · rintro g ⟨k', f', foundK, used, -⟩
        cases found.symm.trans foundK
        rw [unused] at used
        cases used
  | revokeSession userId sessionId =>
    rcases revokeSession_cases sha256 argon2 s userId sessionId with
      ⟨none, same⟩ | ⟨session, db', found, done, same⟩
    · refine ⟨by rw [same]; exact linked, iff_of_true ⟨by rw [same]; exact agrees, trivial⟩ ?_⟩
      intro session found
      rw [none] at found
      cases found
    · obtain ⟨linked', exactly⟩ :=
        linked.revokeSession agrees (List.mem_of_find?_eq_some found) done
      refine ⟨by rw [same]; exact linked', ?_⟩
      unfold Upholds Careful
      rw [same]
      simp only [and_true, found, Option.some.injEq, forall_eq']
      exact exactly
  | revokeAllOtherSessions userId current =>
    unfold Upholds Careful
    rw [serve_revokeAllOtherSessions]
    exact ⟨linked.revokeOthers _ _, linked.upholds_revokeOthers agrees userId current⟩
  | changePassword userId dto current =>
    rcases changePassword_cases sha256 argon2 s userId dto current with
      ⟨wrong, same, e, refused⟩ | ⟨user, mid, found, right, updated, same, done⟩
    · refine ⟨by rw [same]; exact linked, iff_of_true ⟨by rw [same]; exact agrees, ?_⟩
        fun user found right => absurd right (wrong user found)⟩
      rintro ⟨done, answered⟩
      rw [refused] at answered
      cases answered
    · obtain ⟨linked', keeps⟩ := linked.updateUser updated
      obtain ⟨-, rest⟩ := Db.updateUser_ok updated
      have current_same : ∀ g, IsCurrent sha256 mid userId current g ↔
          IsCurrent sha256 s.db userId current g :=
        fun g => isCurrent_congr (by rw [rest]) (by rw [rest])
      have exactly : (Agrees _ ∧ KeepsCurrent sha256 mid _ userId current) ↔ _ :=
        linked'.upholds_revokeOthers (keeps agrees) userId current
      simp only [KeepsCurrent, current_same] at exactly
      unfold Upholds Careful
      rw [same, done]
      refine ⟨linked'.revokeOthers _ _, ?_⟩
      simp only [Except.ok.injEq, exists_eq', forall_const, found, Option.some.injEq,
        forall_eq', right]
      exact exactly

/-- Before anyone has logged in there is nothing to agree on. -/
theorem Linked.empty {db : Db} (noTokens : db.tokens = .empty) (noSessions : db.sessions = .empty) :
    Linked db ∧ Agrees db := by
  have tokens : db.tokens.rows = [] := by rw [noTokens]; rfl
  have sessions : db.sessions.rows = [] := by rw [noSessions]; rfl
  refine ⟨⟨?_, ?_, ?_⟩, ?_⟩
  · simp [sessions]
  · simp [tokens]
  · simp [tokens]
  · simp [Agrees, sessions]

end

/-- **Exactly that session.** From any state that logins and rotations build and in which sessions
and chains agree, every request of a run upholds the agreement exactly when every request is
careful. -/
theorem ends_exactly (sha256 : String → String) (argon2 : Argon2) (s : State)
    (linked : Linked s.db) (agrees : Agrees s.db) (rs : List Request)
    (onSessions : ∀ r ∈ rs, r.OnSessions) :
    Along (serve sha256 argon2) (Upholds sha256 argon2) s rs ↔
      Along (serve sha256 argon2) (Careful sha256 argon2) s rs := by
  refine along_iff (I := fun s => Linked s.db ∧ Agrees s.db) (D := fun _ r => Request.OnSessions r)
    ?_ ?_ ⟨linked, agrees⟩ (along_of_forall onSessions)
  · rintro s r onSessions ⟨linked, agrees⟩
    exact (linked.serve sha256 argon2 agrees onSessions).2
  · rintro s r onSessions upholds ⟨linked, agrees⟩
    exact ⟨(linked.serve sha256 argon2 agrees onSessions).1, upholds.1⟩

namespace Desk

def login : Request := .login user { now := 1000 } "r0"

end Desk

/-- A login and a rotation from a state without logins. -/
theorem ends_exactly_refresh :
    Along (serve Desk.sha256 Desk.argon2) (Upholds Desk.sha256 Desk.argon2)
      { db := Desk.loggedOut } [Desk.login, .refresh "r0" { now := 2000 } "r1"] := by
  obtain ⟨linked, agrees⟩ : Linked Desk.loggedOut ∧ Agrees Desk.loggedOut := Linked.empty rfl rfl
  refine (ends_exactly Desk.sha256 Desk.argon2 { db := Desk.loggedOut } linked agrees _ ?_).mpr
    ⟨trivial, ?_, trivial⟩
  · simp [Desk.login, Request.OnSessions]
  · rintro g ⟨k, f, found, used, -⟩
    cases found
    cases used

/-- Her only session is revoked, and its chain is still refreshed; she ends all other sessions
with the token of her device, and her device can no longer refresh. -/
theorem not_ends_exactly :
    (Linked Desk.loggedOut ∧ Agrees Desk.loggedOut) ∧
    ¬ Along (serve Desk.sha256 Desk.argon2) (Upholds Desk.sha256 Desk.argon2)
      { db := Desk.loggedOut } [Desk.login, .revokeSession 3 1] ∧
    (∃ tokens, answer Desk.sha256 Desk.argon2
      (run (serve Desk.sha256 Desk.argon2) { db := Desk.loggedOut }
        [Desk.login, .revokeSession 3 1]) (.refresh "r0" { now := 2000 } "r1") =
          .ok (some tokens)) ∧
    ¬ Along (serve Desk.sha256 Desk.argon2) (Upholds Desk.sha256 Desk.argon2)
      { db := Desk.loggedOut } [Desk.login, .revokeAllOtherSessions 3 (some "r0")] := by
  refine ⟨Linked.empty rfl rfl, ?_, ⟨_, rfl⟩, ?_⟩
  · rintro ⟨-, ⟨agrees, -⟩, -⟩
    have alive : Alive (run (serve Desk.sha256 Desk.argon2) { db := Desk.loggedOut }
        [Desk.login, .revokeSession 3 1]).db 1 :=
      alive_iff.mpr ⟨⟨_, rfl, rfl⟩, _, List.mem_cons_self, rfl, rfl⟩
    have active := (agrees _ List.mem_cons_self 1 ⟨_, rfl, rfl⟩).mp alive
    cases active
  · rintro ⟨-, ⟨-, keeps⟩, -⟩
    have isCurrent : IsCurrent Desk.sha256 (run (serve Desk.sha256 Desk.argon2)
        { db := Desk.loggedOut } [Desk.login]).db 3 (some "r0") 1 :=
      ⟨"r0", _, rfl, ⟨_, rfl, rfl⟩,
        alive_iff.mpr ⟨⟨_, rfl, rfl⟩, _, List.mem_cons_self, rfl, rfl⟩, rfl, rfl⟩
    exact not_alive_of_revoked ⟨_, rfl, rfl⟩ (keeps 1 isCurrent).1

end Rokad.Auth
