import Rokad.Auth.Operations

/-!
# What no operation undoes

Families, tokens and sessions are never deleted by the services: a token that is used stays used, a
family or a session that is revoked stays revoked, and none of them changes its owner.
-/

namespace Rokad.Auth

open Rokad.Base Rokad.Common

namespace RefreshToken

def Becomes (k k' : RefreshToken) : Prop :=
  k'.familyId = k.familyId ∧ k'.tokenHash = k.tokenHash ∧ (k.isUsed = true → k'.isUsed = true)

theorem Becomes.refl (k : RefreshToken) : k.Becomes k := ⟨rfl, rfl, fun used => used⟩

theorem Becomes.trans (a b c : RefreshToken) (first : a.Becomes b) (second : b.Becomes c) :
    a.Becomes c :=
  ⟨second.1.trans first.1, second.2.1.trans first.2.1, fun used => second.2.2 (first.2.2 used)⟩

end RefreshToken

namespace RefreshTokenFamily

def Becomes (f f' : RefreshTokenFamily) : Prop :=
  f'.userId = f.userId ∧ (f.isRevoked = true → f'.isRevoked = true)

theorem Becomes.refl (f : RefreshTokenFamily) : f.Becomes f := ⟨rfl, fun revoked => revoked⟩

theorem Becomes.trans (a b c : RefreshTokenFamily) (first : a.Becomes b) (second : b.Becomes c) :
    a.Becomes c :=
  ⟨second.1.trans first.1, fun revoked => second.2 (first.2 revoked)⟩

end RefreshTokenFamily

namespace UserSession

def Becomes (s s' : UserSession) : Prop :=
  s'.userId = s.userId ∧ s'.sessionTokenHash = s.sessionTokenHash ∧
    (s.isRevoked = true → s'.isRevoked = true)

theorem Becomes.refl (s : UserSession) : s.Becomes s := ⟨rfl, rfl, fun revoked => revoked⟩

theorem Becomes.trans (a b c : UserSession) (first : a.Becomes b) (second : b.Becomes c) :
    a.Becomes c :=
  ⟨second.1.trans first.1, second.2.1.trans first.2.1,
    fun revoked => second.2.2 (first.2.2 revoked)⟩

end UserSession

/-- The second database is reached from the first. -/
structure Grows (a b : Db) : Prop where
  tokens : Table.Grows RefreshToken.Becomes a.tokens b.tokens
  families : Table.Grows RefreshTokenFamily.Becomes a.families b.families
  sessions : Table.Grows UserSession.Becomes a.sessions b.sessions

namespace Grows

variable {a b c : Db}

theorem refl (a : Db) : Grows a a :=
  ⟨.refl .refl _, .refl .refl _, .refl .refl _⟩

theorem trans (first : Grows a b) (second : Grows b c) : Grows a c :=
  ⟨first.tokens.trans .trans second.tokens, first.families.trans .trans second.families,
    first.sessions.trans .trans second.sessions⟩

/-- Only the named tables need an argument. -/
theorem of_tables {t : Tables} (same : b.toTables = t)
    (tokens : Table.Grows RefreshToken.Becomes a.tokens t.tokens)
    (families : Table.Grows RefreshTokenFamily.Becomes a.families t.families)
    (sessions : Table.Grows UserSession.Becomes a.sessions t.sessions) : Grows a b := by
  subst same
  exact ⟨tokens, families, sessions⟩

theorem token {h : String} {k : RefreshToken} (grows : Grows a b)
    (found : a.findHash h = some k) :
    ∃ k', b.findHash h = some k' ∧ k'.id = k.id ∧ k.Becomes k' := by
  obtain ⟨mem, hash⟩ := Tables.findHash_eq_some_iff.mp found
  obtain ⟨k', found', becomes⟩ := grows.tokens _ k (find?_key _ mem)
  exact ⟨k', Tables.findHash_eq_some_iff.mpr
    ⟨mem_of_find? found', becomes.2.1.trans hash⟩, key_of_find? found', becomes⟩

end Grows

section

variable {db db' : Db}

theorem createToken_grows {familyId : Id} {tokenHash : String} {expiresAt : Instant}
    {ip ua : Option String} (done : db.createToken familyId tokenHash expiresAt ip ua = .ok db') :
    Grows db db' := by
  obtain ⟨inserted, same⟩ := Db.createToken_ok done
  exact .of_tables same (.insert .refl inserted) (.refl .refl _) (.refl .refl _)

theorem useToken_grows {id : Id} (done : db.useToken id = .ok db') : Grows db db' := by
  obtain ⟨updated, same⟩ := Db.useToken_ok done
  exact .of_tables same (.update .refl updated fun _ => ⟨rfl, rfl, fun _ => rfl⟩)
    (.refl .refl _) (.refl .refl _)

theorem createFamily_grows {userId tenantId : Id}
    (done : db.createFamily userId tenantId = .ok db') : Grows db db' := by
  obtain ⟨inserted, same⟩ := Db.createFamily_ok done
  exact .of_tables same (.refl .refl _) (.insert .refl inserted) (.refl .refl _)

theorem revokeFamily_grows {id : Id} {reason : String}
    (done : db.revokeFamily id reason = .ok db') : Grows db db' := by
  obtain ⟨updated, same⟩ := Db.revokeFamily_ok done
  exact .of_tables same (.refl .refl _) (.update .refl updated fun _ => ⟨rfl, fun _ => rfl⟩)
    (.refl .refl _)

theorem createSession_grows {row : UserSession} (done : db.createSession row = .ok db') :
    Grows db db' := by
  obtain ⟨inserted, same⟩ := Db.createSession_ok done
  exact .of_tables same (.refl .refl _) (.refl .refl _) (.insert .refl inserted)

theorem revokeSession_grows {id : Id} (done : db.revokeSession id = .ok db') : Grows db db' := by
  obtain ⟨updated, same⟩ := Db.revokeSession_ok done
  exact .of_tables same (.refl .refl _) (.refl .refl _)
    (.update .refl updated fun _ => ⟨rfl, rfl, fun _ => rfl⟩)

theorem updateUser_grows {id : Id} {data : UserUpdate} (done : db.updateUser id data = .ok db') :
    Grows db db' := by
  obtain ⟨-, same⟩ := Db.updateUser_ok done
  exact .of_tables same (.refl .refl _) (.refl .refl _) (.refl .refl _)

end

theorem exec_grows (op : Op) (s : State) : Grows s.db (exec op s).1.db := by
  have start : Grows s.db s.db := .refl _
  cases op with
  | findUser id => exact start
  | findTenant id => exact start
  | findTenantBySlug slug => exact start
  | findActiveByPhone tenantId phone => exact start
  | findCandidates lower tenantId lookup => exact start
  | findOtherCandidates lower tenantId lookup => exact start
  | updateUser id data => exact write_keeps start fun _ => updateUser_grows
  | findToken tokenHash => exact start
  | findHash tokenHash => exact start
  | createFamily userId tenantId => exact write_keeps start fun _ => createFamily_grows
  | createToken familyId tokenHash expiresAt ip ua =>
    exact write_keeps start fun _ => createToken_grows
  | rotate id familyId tokenHash expiresAt ip ua =>
    refine write_keeps start fun db done => ?_
    obtain ⟨mid, marked, created⟩ := bind_eq_ok.mp done
    exact (useToken_grows marked).trans (createToken_grows created)
  | revokeFamily id reason => exact write_keeps start fun _ => revokeFamily_grows
  | revokeFamilies userId activeOnly reason =>
    exact ⟨.refl .refl _, .updateMany .refl (Db.key_revoke reason) (fun _ _ => rfl)
      fun _ => ⟨rfl, fun _ => rfl⟩, .refl .refl _⟩
  | createSession row => exact write_keeps start fun _ => createSession_grows
  | findSession id userId => exact start
  | revokeSession id => exact write_keeps start fun _ => revokeSession_grows
  | revokeSessions userId kept =>
    exact ⟨.refl .refl _, .refl .refl _, .updateMany .refl Db.key_endSession (fun _ _ => rfl)
      fun _ => ⟨rfl, rfl, fun _ => rfl⟩⟩
  | checkLoginAllowed lower identifier ip up now => exact start
  | check2FAAllowed userId ip up now => exact start
  | record lower attempt => exact start

theorem run_grows {α : Type} (p : AuthProg α) (s : State) : Grows s.db (p.run exec s).1.db :=
  Prog.run_keeps (I := fun s' => Grows s.db s'.db) exec
    (fun op _ grows => grows.trans (exec_grows op _)) p (.refl _)

/-- In whatever order the statements of any calls come, what one of them has used, revoked or ended
remains so. -/
theorem ended_under_interleaving (s : State) (ops more : List Op) :
    Grows (run (fun s op => (exec op s).1) s ops).db
      (run (fun s op => (exec op s).1) s (ops ++ more)).db := by
  rw [run_append]
  generalize run (fun s op => (exec op s).1) s ops = mid
  exact run_keeps (I := fun s' => Grows mid.db s'.db)
    (fun s' op grows => grows.trans (exec_grows op s')) (.refl _) more

end Rokad.Auth
