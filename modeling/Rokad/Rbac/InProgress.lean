import Rokad.Rbac.Effects
import Rokad.Rbac.Enforcement

/-!
# Calls in progress

Any number of readers and of calls that change access, interleaved operation by operation, with
entries of the cache expiring at any time. For each operation: whose permissions it changes. For
each call: after a transaction that went through it deletes the entries it thinks of, whatever
the other calls do (`Call.settled`).
-/

namespace Rokad.Rbac

open Rokad.Base Rokad.Common

/-! ### Calls in progress -/

inductive Call where
  | read (tenantId userId : Id)
  | change (request : RbacRequest)

def Call.prog : Call → RbacProg (Option (List Code))
  | .read tenantId userId => do
      let codes ← getUserPermissions tenantId userId
      pure (some codes)
  | .change request => do
      let _ ← request.prog
      pure none

/-- The state, and what is left of each call. -/
abbrev System (ι : Type) := Threads State (RbacProg (Option (List Code))) ι

/-- The entry of this tenant and user. -/
abbrev Entry := Id × Id

def expire (s : State) (entry : Entry) : State := s.setCache entry.1 entry.2 none

def deletes (tenantId userId : Id) (op : Op) : Prop := op = .cacheDel tenantId userId

section

variable {ι : Type} [DecidableEq ι]

def System.start (calls : ι → Call) (s : State) : System ι := ⟨s, fun i => (calls i).prog⟩

/-- One operation of one call, or the expiry of an entry. -/
abbrev System.step : System ι → Move ι Unit Entry → System ι := Prog.moveStep exec expire

/-- A call in progress is going to delete the entry. -/
def System.Owed (p : System ι) (tenantId userId : Id) : Prop :=
  ∃ i, (p.own i).Will (deletes tenantId userId)

end

/-- Lists of the same codes. -/
def SameCodes (a b : List Code) : Prop := a ⊆ b ∧ b ⊆ a
deriving Decidable

theorem sameCodes_iff {a b : List Code} : SameCodes a b ↔ ∀ c, c ∈ a ↔ c ∈ b :=
  ⟨fun same _ => ⟨fun mem => same.1 mem, fun mem => same.2 mem⟩,
    fun same => ⟨fun c mem => (same c).mp mem, fun c mem => (same c).mpr mem⟩⟩

theorem SameCodes.refl (a : List Code) : SameCodes a a := ⟨fun _ mem => mem, fun _ mem => mem⟩

theorem SameCodes.symm {a b : List Code} (same : SameCodes a b) : SameCodes b a :=
  ⟨same.2, same.1⟩

theorem SameCodes.trans {a b c : List Code} (first : SameCodes a b) (second : SameCodes b c) :
    SameCodes a c :=
  ⟨fun _ mem => second.1 (first.1 mem), fun _ mem => first.2 (second.2 mem)⟩

/-- Each cached list is what the database gives. -/
def State.Coherent (s : State) : Prop :=
  ∀ t u codes, s.cache t u = some codes → SameCodes codes (s.db.permissionsOf t u)

/-! ### What an operation changes -/

section

variable {db db' : Db} {s : State}

theorem Db.findUser_congr (users : db'.users = db.users) (t u : Id) :
    db'.findUser t u = db.findUser t u := by
  rw [findUser, findUser, users]

/-- A user's permissions are the same when its overrides decide the same and its roles give the
same. -/
theorem sameCodes_of {t u : Id} (users : db'.users = db.users)
    (same : ∀ user ∈ db.users, user.id = u → user.tenantId = t → ∀ c,
      db'.decision u c = db.decision u c ∧ (db'.HoldsCode u c ↔ db.HoldsCode u c)) :
    SameCodes (db'.permissionsOf t u) (db.permissionsOf t u) := by
  cases found : db.findUser t u with
  | none =>
    have found' : db'.findUser t u = none := (Db.findUser_congr users t u).trans found
    rw [Db.permissionsOf, Db.permissionsOf, Db.findAccess, Db.findAccess, found, found']
    exact .refl _
  | some user =>
    have member := List.mem_of_find?_eq_some found
    obtain ⟨rfl, rfl⟩ : user.id = u ∧ user.tenantId = t := by simpa using List.find?_some found
    have member' : user ∈ db'.users := users ▸ member
    cases admin : user.role.isAdmin with
    | true =>
      rw [Db.permissionsOf, Db.permissionsOf, Db.findAccess_of_mem member,
        Db.findAccess_of_mem member']
      simp only [Option.map_some, Option.getD_some, computePermissions, Db.accessOf, admin, if_true]
      exact .refl _
    | false =>
      refine sameCodes_iff.mpr fun c => ?_
      obtain ⟨decision, holds⟩ := same user member rfl rfl c
      rw [Db.mem_permissionsOf_iff member' admin, Db.mem_permissionsOf_iff member admin,
        decision, holds]

theorem users_exec (op : Op) (s : State) : (exec op s).1.db.users = s.db.users := by
  have written : ∀ result : Result Db, (∀ db, result = .ok db → db.users = s.db.users) →
      (s.write result).1.db.users = s.db.users := by
    intro result kept
    cases result with
    | ok db => exact kept db rfl
    | error e => rfl
  cases op with
  | createPermission code =>
    refine written _ fun db done => ?_
    split at done
    · cases done
    · cases done
      rfl
  | createRole tenantId name description codes =>
    simp only [exec]
    split
    · rename_i done
      exact (Db.createRole_spec done).2.2.2.2
    · rfl
  | reactivateRole | updateRole | setRoleDeletedAt =>
    exact written _ fun db done => (Db.updateRole_spec done).2.2.2
  | setUserRoles => exact written _ fun db done => (Db.setUserRoles_spec done).2.2.2
  | upsertOverride => exact written _ fun db done => (Db.upsertOverride_spec done).2.2.2
  | setOverrideDeletedAt => exact written _ fun db done => (Db.withOverrides_spec done).2.2.2
  | _ => rfl

/-- The commands to the cache. -/
def Op.OnCache : Op → Prop
  | .cacheSet .. | .cacheDel .. => True
  | _ => False

theorem cache_exec {op : Op} (database : ¬ op.OnCache) (s : State) :
    (exec op s).1.cache = s.cache := by
  have written : ∀ result : Result Db, (s.write result).1.cache = s.cache := by
    intro result
    cases result <;> rfl
  cases op with
  | cacheSet | cacheDel => exact absurd trivial database
  | createRole tenantId name description codes =>
    simp only [exec]
    split <;> rfl
  | createPermission | reactivateRole | updateRole | setRoleDeletedAt | setUserRoles
  | upsertOverride | setOverrideDeletedAt => exact written _
  | _ => rfl

/-- The transactions that replace the permissions of a role. -/
def Op.Replaces : Op → Prop
  | .reactivateRole .. | .updateRole .. => True
  | _ => False

/-- The entry whose user the operation is about. -/
def Op.target : Op → Option Entry
  | .setUserRoles tenantId userId _ | .upsertOverride tenantId userId .. => some (tenantId, userId)
  | _ => none

/-- There is such a user in the tenant. -/
def Known (users : List User) (tenantId userId : Id) : Prop :=
  ∃ user ∈ users, user.id = userId ∧ user.tenantId = tenantId

/-- Another entry of a known user's is another user's, or nobody's. -/
theorem Known.other {t u t' u' : Id} (known : Known db.users t' u') (differ : ¬ (t = t' ∧ u = u'))
    {user : User} (member : user ∈ db.users) (id : user.id = u) (tenant : user.tenantId = t) :
    u ≠ u' := by
  rintro rfl
  obtain ⟨user', member', id', tenant'⟩ := known
  obtain rfl := List.inj_on_of_nodup_map db.users_nodup member member' (id.trans id'.symm)
  exact differ ⟨tenant.symm.trans tenant', rfl⟩

theorem sameCodes_setUserRoles {t u t' u' : Id} {ids : List Id} (known : Known db.users t' u')
    (done : db.setUserRoles t' u' ids = .ok db') (differ : ¬ (t = t' ∧ u = u')) :
    SameCodes (db'.permissionsOf t u) (db.permissionsOf t u) := by
  obtain ⟨-, -, overrides, users⟩ := Db.setUserRoles_spec done
  exact sameCodes_of users fun user member id tenant c => ⟨Db.decision_congr overrides,
    Db.holdsCode_setUserRoles done (known.other differ member id tenant)⟩

theorem sameCodes_upsertOverride {t u t' u' : Id} {code : Code}
    {effect : PermissionOverrideEffect} {reason : Option String} {grantedById : Id}
    (known : Known db.users t' u')
    (done : db.upsertOverride t' u' code effect reason grantedById = .ok db')
    (differ : ¬ (t = t' ∧ u = u')) :
    SameCodes (db'.permissionsOf t u) (db.permissionsOf t u) := by
  obtain ⟨-, permissions, roles, users⟩ := Db.upsertOverride_spec done
  exact sameCodes_of users fun user member id tenant c =>
    ⟨Db.decision_upsertOverride done (.inl (known.other differ member id tenant)),
      Db.holdsCode_congr roles permissions⟩

/-- The other operations leave everybody's permissions as they are. -/
theorem sameCodes_exec {op : Op} (replaces : ¬ op.Replaces) (target : op.target = none) (t u : Id) :
    SameCodes ((exec op s).1.db.permissionsOf t u) (s.db.permissionsOf t u) := by
  have written : ∀ result : Result Db, (∀ db, result = .ok db →
      SameCodes (db.permissionsOf t u) (s.db.permissionsOf t u)) →
      SameCodes ((s.write result).1.db.permissionsOf t u) (s.db.permissionsOf t u) := by
    intro result same
    cases result with
    | ok db => exact same db rfl
    | error e => exact .refl _
  cases op with
  | createPermission code =>
    refine written _ fun db done => ?_
    split at done
    · cases done
    · cases done
      exact .refl _
  | createRole tenantId name description codes =>
    simp only [exec]
    split
    · rename_i done
      obtain ⟨-, -, -, overrides, users⟩ := Db.createRole_spec done
      exact sameCodes_of users fun _ _ _ _ c =>
        ⟨Db.decision_congr overrides, Db.holdsCode_createRole done⟩
    · exact .refl _
  | setRoleDeletedAt roleId deletedAt =>
    refine written _ fun db done => ?_
    obtain ⟨permissions, roles, overrides, users⟩ := Db.updateRole_spec done
    exact sameCodes_of users fun _ _ _ _ c =>
      ⟨Db.decision_congr overrides, Db.holdsCode_congr roles permissions⟩
  | setOverrideDeletedAt id deletedAt =>
    refine written _ fun db done => ?_
    obtain ⟨-, permissions, roles, users⟩ := Db.withOverrides_spec done
    exact sameCodes_of users fun _ _ _ _ c =>
      ⟨Db.decision_setOverrideDeletedAt done, Db.holdsCode_congr roles permissions⟩
  | reactivateRole | updateRole => exact absurd trivial replaces
  | setUserRoles | upsertOverride => cases target
  | _ => exact .refl _

end

/-! ### What the calls guarantee -/

variable {α β : Type} (users : List User)

/-- A user that is found is known. -/
def Answers (op : Op) (r : Res op) : Prop :=
  match op, r with
  | .findUser t u, some _ => Known users t u
  | .findAccess t u, some _ => Known users t u
  | _, _ => True

/-- After a transaction that went through, the call deletes the entries it thinks of. -/
def Settles (op : Op) (r : Res op) (rest : RbacProg α) : Prop :=
  match op, r with
  | .setUserRoles t u _, .ok _ => Known users t u ∧ rest.Will (deletes t u)
  | .upsertOverride t u .., .ok _ => Known users t u ∧ rest.Will (deletes t u)
  | .updateRole t _ _ _ _ userRoles, .ok _ => ∀ u ∈ userRoles, rest.Will (deletes t u)
  | _, _ => True

/-- What is left of a call settles every transaction it still performs. -/
abbrev Settled (p : RbacProg α) : Prop := p.Guarantees (Answers users) (Settles users)

variable {users}

theorem Settles.bind {op : Op} {r : Res op} {rest : RbacProg α} (settles : Settles users op r rest)
    (f : α → RbacProg β) : Settles users op r (rest >>= f) := by
  cases op with
  | setUserRoles | upsertOverride =>
    cases r with
    | ok _ => exact ⟨settles.1, settles.2.bind f⟩
    | error e => trivial
  | updateRole =>
    cases r with
    | ok _ => exact fun u mem => (settles u mem).bind f
    | error e => trivial
  | _ => trivial

theorem Settled.bind {p : RbacProg α} {f : α → RbacProg β} (first : Settled users p)
    (second : ∀ a, Settled users (f a)) : Settled users (p >>= f) :=
  Prog.Guarantees.bind first (fun _ _ _ settles => settles.bind f) second

theorem settled_ret (result : Result α) : Settled users (.ret result : RbacProg α) :=
  trivial

theorem settled_query {op : Op} {rest : Res op → RbacProg α}
    (each : ∀ r, Answers users op r → Settles users op r (rest r) ∧ Settled users (rest r)) :
    Settled users (query op >>= rest) := each

theorem settled_of_found {found : Option β} {message : String} {rest : β → RbacProg α}
    (holds : ∀ b, found = some b → Settled users (rest b)) :
    Settled users (orNotFound found message >>= rest) := by
  cases found with
  | none => exact trivial
  | some b => exact holds b rfl

theorem settled_demand {cond : Prop} [Decidable cond] {e : Failure} {rest : Unit → RbacProg α}
    (holds : Settled users (rest ())) : Settled users (demand cond e >>= rest) :=
  Settled.bind (settled_ret _) fun _ => holds

theorem settled_return {result : Result β} {rest : β → RbacProg α}
    (holds : ∀ b, Settled users (rest b)) : Settled users (.ret result >>= rest) :=
  Settled.bind (settled_ret _) holds

theorem settled_read {t u : Id} : Settled users (getUserPermissions t u) := by
  refine settled_query fun cached _ => ⟨trivial, ?_⟩
  cases cached with
  | some codes => exact trivial
  | none =>
    refine settled_query fun found _ => ⟨trivial, ?_⟩
    cases found with
    | none => exact trivial
    | some access => exact settled_query fun _ _ => ⟨trivial, trivial⟩

theorem settled_createMissing (codes : List Code) : Settled users (createMissing codes) := by
  induction codes with
  | nil => exact trivial
  | cons code rest ih =>
    refine settled_query fun created _ => ⟨trivial, ?_⟩
    cases created with
    | ok _ => exact ih
    | error e => exact trivial

theorem settled_createRole {t : Id} {dto : CreateSchoolRoleDto} :
    Settled users (createRole t dto) := by
  have catalogue : Settled users ensureCatalogPermissionsInDb :=
    settled_query fun _ _ => ⟨trivial, settled_createMissing _⟩
  refine settled_query fun existing _ => ⟨trivial, ?_⟩
  cases existing with
  | none =>
    refine catalogue.bind fun _ => settled_query fun _ _ => ⟨trivial, ?_⟩
    exact settled_query fun _ _ => ⟨trivial, settled_return fun _ => trivial⟩
  | some existing =>
    refine settled_demand (catalogue.bind fun _ => settled_query fun _ _ => ⟨trivial, ?_⟩)
    refine settled_query fun _ _ => ⟨trivial, settled_return fun _ => ?_⟩
    exact fun _ _ => ⟨trivial, trivial⟩

theorem settled_invalidate (t : Id) (userIds : List Id) :
    Settled users (Prog.forEach userIds fun u => invalidateUserPermissionsCache t u) := by
  induction userIds with
  | nil => exact trivial
  | cons u rest ih => exact Settled.bind (settled_query fun _ _ => ⟨trivial, trivial⟩) fun _ => ih

theorem settled_updateRole {t roleId : Id} {dto : UpdateSchoolRoleDto} :
    Settled users (updateRole t roleId dto) := by
  refine settled_query fun found _ => ⟨trivial, settled_of_found fun role _ => Settled.bind ?_
    fun _ => settled_query fun done _ => ?_⟩
  · unfold checkDuplicate
    split
    · exact trivial
    · split
      · exact trivial
      · exact settled_query fun _ _ => ⟨trivial, settled_ret _⟩
  · cases done with
    | error e => exact ⟨trivial, trivial⟩
    | ok _ =>
      refine ⟨fun u mem => ?_, (settled_invalidate t _).bind fun _ => fun _ _ =>
        ⟨trivial, trivial⟩⟩
      exact Prog.will_forEach (P := deletes t u) (fun u => Op.cacheDel t u) mem rfl _

theorem settled_deleteRole {t roleId : Id} {now : Instant} :
    Settled users (deleteRole t roleId now) := by
  refine settled_query fun found _ => ⟨trivial, settled_of_found fun role _ => settled_demand <|
    settled_demand <| settled_query fun _ _ => ⟨trivial, settled_return fun _ => trivial⟩⟩

theorem settled_restoreRole {t roleId : Id} : Settled users (restoreRole t roleId) := by
  refine settled_query fun found _ => ⟨trivial, settled_of_found fun role _ =>
    settled_query fun _ _ => ⟨trivial, settled_return fun _ => ?_⟩⟩
  exact fun _ _ => ⟨trivial, trivial⟩

theorem settled_syncUserRoles {t adminId target : Id} {ids : List Id} :
    Settled users (syncUserRoles t adminId target ids) := by
  refine settled_query fun admin _ => ⟨trivial, settled_query fun access answered =>
    ⟨trivial, settled_of_found fun user found => ?_⟩⟩
  have known : Known users t target := by
    rw [found] at answered
    exact answered
  refine settled_query fun roles _ => ⟨trivial, settled_demand <| settled_demand <|
    Settled.bind ?_ fun _ => settled_query fun done _ => ?_⟩
  · unfold checkSelfLockout hasPermission
    split
    · exact (settled_read.bind fun _ => settled_ret _).bind fun _ => settled_ret _
    · exact trivial
  · cases done with
    | ok _ => exact ⟨⟨known, Or.inl rfl⟩, fun _ _ => ⟨trivial, trivial⟩⟩
    | error e => exact ⟨trivial, trivial⟩

theorem settled_setUserOverride {t adminId target : Id} {dto : SetUserOverrideDto} :
    Settled users (setUserOverride t adminId target dto) := by
  refine settled_query fun admin _ => ⟨trivial, settled_query fun user answered =>
    ⟨trivial, settled_of_found fun user found => ?_⟩⟩
  have known : Known users t target := by
    rw [found] at answered
    exact answered
  refine settled_demand <| settled_demand <| settled_query fun before _ => ⟨trivial,
    settled_query fun done _ => ?_⟩
  cases done with
  | ok _ => exact ⟨⟨known, Or.inl rfl⟩, fun _ _ => ⟨trivial, trivial⟩⟩
  | error e => exact ⟨trivial, trivial⟩

theorem settled_removeUserOverride {t target : Id} {code : Code} {now : Instant} :
    Settled users (removeUserOverride t target code now) := by
  refine settled_query fun existing _ => ⟨trivial, ?_⟩
  cases existing with
  | none => exact trivial
  | some o =>
    refine settled_query fun _ _ => ⟨trivial, settled_return fun _ => ?_⟩
    exact fun _ _ => ⟨trivial, trivial⟩

theorem settled_restoreUserOverride {t target : Id} {code : Code} :
    Settled users (restoreUserOverride t target code) := by
  refine settled_query fun found _ => ⟨trivial, settled_of_found fun o _ =>
    settled_query fun _ _ => ⟨trivial, settled_return fun _ => ?_⟩⟩
  exact fun _ _ => ⟨trivial, trivial⟩

theorem settled_ignore {p : RbacProg α} (settled : Settled users p) : Settled users (ignore p) :=
  settled.bind fun _ => settled_ret _

/-- Every call settles its transactions. -/
theorem Call.settled (call : Call) : Settled users call.prog := by
  cases call with
  | read t u => exact settled_read.bind fun _ => settled_ret _
  | change request =>
    refine Settled.bind ?_ fun _ => settled_ret _
    unfold RbacRequest.prog
    cases request.call with
    | createRole => exact settled_ignore settled_createRole
    | updateRole => exact settled_ignore settled_updateRole
    | deleteRole => exact settled_ignore settled_deleteRole
    | restoreRole => exact settled_ignore settled_restoreRole
    | syncUserRoles => exact settled_ignore settled_syncUserRoles
    | setUserOverride => exact settled_setUserOverride
    | removeUserOverride => exact settled_ignore settled_removeUserOverride
    | restoreUserOverride => exact settled_restoreUserOverride

end Rokad.Rbac
