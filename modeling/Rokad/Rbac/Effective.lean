import Rokad.Rbac.Effects
import Rokad.Rbac.Enforcement

/-!
# The formula of the effective permissions

A user's permissions are meant to be those of its base role, of its roles that are not deleted
and of its live grants, less those of its live revocations. An override is live if it was set or
restored last, and not removed; `History` keeps that beside the state.

The code reads deleted roles and removed overrides like any other. `effective_iff` says exactly
when nobody can tell: a removed override says what the user inherits anyway, and so does what a
deleted role gives.
-/

namespace Rokad.Rbac

open Rokad.Base Rokad.Common

/-! ### Histories -/

/-- Tenant, user and permission of an override. -/
abbrev OverrideKey := Id × Id × Code

def UserPermissionOverride.overrideKey (o : UserPermissionOverride) : OverrideKey :=
  (o.tenantId, o.userId, o.permissionCode)

structure History where
  state : State
  live : OverrideKey → Bool

/-- The override a call is about, and whether it is live once the call has returned. -/
def RbacRequest.marks (r : RbacRequest) : Option (OverrideKey × Bool) :=
  match r.call with
  | .setUserOverride target dto => some ((r.tenantId, target, dto.permissionCode), true)
  | .restoreUserOverride target code => some ((r.tenantId, target, code), true)
  | .removeUserOverride target code => some ((r.tenantId, target, code), false)
  | _ => none

def History.step (h : History) (r : RbacRequest) : History where
  state := perform h.state r
  live :=
    match (r.prog.run exec h.state).2, r.marks with
    | .ok _, some (key, live) => Function.update h.live key live
    | _, _ => h.live

/-! ### The formula -/

namespace Db

variable (db : Db)

/-- What the base role and the roles that are not deleted give. -/
def Inherits (user : User) (c : Code) : Prop :=
  c ∈ getBaseRolePermissions user.role ∨
    ∃ v ∈ db.rolesOf user.id, v.role.deletedAt = none ∧ c ∈ v.permissions
deriving Decidable

/-- A live override of the user has this effect on the code. -/
def HasLive (live : OverrideKey → Bool) (user : User) (effect : PermissionOverrideEffect)
    (c : Code) : Prop :=
  ∃ o ∈ db.overridesOf user.id, live o.overrideKey = true ∧ o.effect = effect ∧ o.permissionCode = c
deriving Decidable

end Db

namespace History

/-- Base role, roles and live grants, less the live revocations. -/
def Effective (h : History) (user : User) (c : Code) : Prop :=
  (h.state.db.Inherits user c ∨ h.state.db.HasLive h.live user .grant c) ∧
    ¬ h.state.db.HasLive h.live user .revoke c
deriving Decidable

/-- The reader returns the effective permissions and no others. -/
def Follows (h : History) (user : User) : Prop :=
  Returns ((getUserPermissions user.tenantId user.id).run exec h.state).2 fun codes =>
    ∀ c, c ∈ codes ↔ h.Effective user c

/-- A removed override says what the user inherits anyway, and so does what a deleted role
gives beside the overrides. -/
structure Settled (h : History) (user : User) : Prop where
  removed : ∀ o ∈ h.state.db.overridesOf user.id, h.live o.overrideKey = false →
    (o.effect = .grant ↔ h.state.db.Inherits user o.permissionCode)
  deleted : ∀ v ∈ h.state.db.rolesOf user.id, v.role.deletedAt.isSome → ∀ c ∈ v.permissions,
    (∀ o ∈ h.state.db.overridesOf user.id, o.permissionCode ≠ c) → h.state.db.Inherits user c

end History

/-! ### Overrides of the user's own tenant -/

/-- The overrides of a user are in its tenant. -/
def Db.OwnOverrides (db : Db) : Prop :=
  ∀ o ∈ db.overrides.rows, ∀ u ∈ db.users, u.id = o.userId → u.tenantId = o.tenantId

theorem Db.user_of_findUser {db : Db} {tenantId userId : Id} {user : User}
    (found : db.findUser tenantId userId = some user) :
    user ∈ db.users ∧ user.id = userId ∧ user.tenantId = tenantId :=
  ⟨List.mem_of_find?_eq_some found, by simpa using List.find?_some found⟩

theorem Db.OwnOverrides.of_kept {db db' : Db} (own : db.OwnOverrides)
    (overrides : ∀ o ∈ db'.overrides.rows, ∃ o' ∈ db.overrides.rows,
      o.userId = o'.userId ∧ o.tenantId = o'.tenantId) (users : db'.users = db.users) :
    db'.OwnOverrides := by
  intro o mem u memUser same
  obtain ⟨o', mem', userId, tenantId⟩ := overrides o mem
  rw [tenantId]
  exact own o' mem' u (users ▸ memUser) (same.trans userId)

/-- An update of one override that leaves its user and its tenant. -/
theorem Db.OwnOverrides.of_update {db db' : Db} {id : Id}
    {f : UserPermissionOverride → UserPermissionOverride}
    {keep : ∀ o, Record.key (f o) = Record.key o} (own : db.OwnOverrides)
    (updated : db.overrides.update id f keep = some db'.overrides)
    (columns : ∀ o, (f o).userId = o.userId ∧ (f o).tenantId = o.tenantId)
    (users : db'.users = db.users) : db'.OwnOverrides := by
  refine own.of_kept (fun o mem => ?_) users
  rcases (mem_update updated).mp mem with ⟨before, -⟩ | ⟨row, found, rfl⟩
  · exact ⟨o, before, rfl, rfl⟩
  · exact ⟨row, mem_of_find? found, columns row⟩

/-- An override is written for a user of the tenant. -/
theorem Db.OwnOverrides.of_upsert {db db' : Db} {tenantId : Id} {user : User} {code : Code}
    {effect : PermissionOverrideEffect} {reason : Option String} {grantedById target : Id}
    (own : db.OwnOverrides) (found : db.findUser tenantId target = some user)
    (done : db.upsertOverride tenantId target code effect reason grantedById = .ok db') :
    db'.OwnOverrides := by
  obtain ⟨member, rfl, rfl⟩ := Db.user_of_findUser found
  obtain ⟨⟨o, -, updated⟩ | inserted, -, -, users⟩ := upsertOverride_spec done
  · exact own.of_update updated (fun _ => ⟨rfl, rfl⟩) users
  · intro o mem u memUser same
    rcases (mem_insert inserted).mp mem with before | rfl
    · exact own o before u (users ▸ memUser) same
    · rw [List.inj_on_of_nodup_map db.users_nodup (users ▸ memUser) member same]

theorem Effect.ownOverrides {db db' : Db} {r : RbacRequest} (effect : Effect db r db')
    (own : db.OwnOverrides) : db'.OwnOverrides := by
  have kept : ∀ {db' : Db}, db'.overrides = db.overrides → db'.users = db.users →
      db'.OwnOverrides := fun overrides users =>
    own.of_kept (fun o mem => ⟨o, overrides ▸ mem, rfl, rfl⟩) users
  cases effect with
  | entered permissions => exact own
  | created call done =>
    obtain ⟨-, -, -, overrides, users⟩ := Db.createRole_spec done
    exact kept overrides users
  | reactivated call found deleted done | updated call found ownTenant done | marked done =>
    obtain ⟨-, -, overrides, users⟩ := Db.updateRole_spec done
    exact kept overrides users
  | assigned call roles allowed done =>
    obtain ⟨-, -, overrides, users⟩ := Db.setUserRoles_spec done
    exact kept overrides users
  | overridden call found allowed done => exact own.of_upsert found done
  | toggled done =>
    obtain ⟨updated, -, -, users⟩ := Db.withOverrides_spec done
    exact own.of_update updated (fun _ => ⟨rfl, rfl⟩) users

/-! ### When the formula holds -/

section

variable {h : History} {user : User}

/-- A user of the tenant has one override of a code at most. -/
theorem override_unique (own : h.state.db.OwnOverrides) (member : user ∈ h.state.db.users)
    {o o' : UserPermissionOverride} (mem : o ∈ h.state.db.overridesOf user.id)
    (mem' : o' ∈ h.state.db.overridesOf user.id) (same : o.permissionCode = o'.permissionCode) :
    o = o' := by
  obtain ⟨row, userId⟩ := List.mem_filter.mp mem
  obtain ⟨row', userId'⟩ := List.mem_filter.mp mem'
  rw [decide_eq_true_eq] at userId userId'
  have tenant := own o row user member userId.symm
  have tenant' := own o' row' user member userId'.symm
  by_contra differ
  have keys : Record.key o ≠ Record.key o' := fun key =>
    differ (h.state.db.overrides.eq_of_key_eq row row' key)
  have clear := h.state.db.overrides.no_clash o row o' row' keys
  simp [Record.clash, ← tenant, ← tenant', userId, userId', same] at clear

/-- The one override of a code decides about it. -/
theorem decision_of_override (own : h.state.db.OwnOverrides) (member : user ∈ h.state.db.users)
    {o : UserPermissionOverride} (mem : o ∈ h.state.db.overridesOf user.id) :
    h.state.db.decision user.id o.permissionCode = some o.effect := by
  unfold Db.decision
  cases last : ((h.state.db.overridesOf user.id).filter fun x =>
      x.permissionCode = o.permissionCode).getLast? with
  | none =>
    have empty := List.getLast?_eq_none_iff.mp last
    have found : o ∈ (h.state.db.overridesOf user.id).filter fun x =>
      x.permissionCode = o.permissionCode := List.mem_filter.mpr ⟨mem, by simp⟩
    rw [empty] at found
    cases found
  | some x =>
    obtain ⟨memX, same⟩ := List.mem_filter.mp (List.mem_of_getLast? last)
    rw [override_unique own member memX mem (of_decide_eq_true same), Option.map_some]

theorem decision_of_no_override {c : Code}
    (none : ∀ o ∈ h.state.db.overridesOf user.id, o.permissionCode ≠ c) :
    h.state.db.decision user.id c = .none := by
  have empty : (h.state.db.overridesOf user.id).filter (fun o => o.permissionCode = c) = [] := by
    simpa using none
  rw [Db.decision, empty, List.getLast?_nil, Option.map_none]

/-- A code with an override: the override decides, and so does the formula if it is live. -/
theorem effective_of_override (own : h.state.db.OwnOverrides) (member : user ∈ h.state.db.users)
    {o : UserPermissionOverride} (mem : o ∈ h.state.db.overridesOf user.id) :
    h.Effective user o.permissionCode ↔
      if h.live o.overrideKey then o.effect = .grant
      else h.state.db.Inherits user o.permissionCode := by
  have hasLive : ∀ effect, h.state.db.HasLive h.live user effect o.permissionCode ↔
      h.live o.overrideKey = true ∧ o.effect = effect := by
    intro effect
    constructor
    · rintro ⟨o', mem', live, is, same⟩
      obtain rfl := override_unique own member mem' mem same
      exact ⟨live, is⟩
    · exact fun ⟨live, is⟩ => ⟨o, mem, live, is, rfl⟩
  unfold History.Effective
  rw [hasLive, hasLive]
  cases live : h.live o.overrideKey <;> cases effect : o.effect <;> simp

theorem effective_of_no_override {c : Code}
    (none : ∀ o ∈ h.state.db.overridesOf user.id, o.permissionCode ≠ c) :
    h.Effective user c ↔ h.state.db.Inherits user c := by
  have absent : ∀ effect, ¬ h.state.db.HasLive h.live user effect c :=
    fun effect ⟨o, mem, _, _, same⟩ => none o mem same
  simp [History.Effective, absent]

theorem mem_permissionsOf_of_override (own : h.state.db.OwnOverrides)
    (member : user ∈ h.state.db.users) (ordinary : user.role.isAdmin = false)
    {o : UserPermissionOverride} (mem : o ∈ h.state.db.overridesOf user.id) :
    o.permissionCode ∈ h.state.db.permissionsOf user.tenantId user.id ↔ o.effect = .grant := by
  simp [Db.mem_permissionsOf_iff member ordinary, decision_of_override own member mem]

/-- A code without an override comes from the base role or a role held. -/
theorem mem_permissionsOf_of_no_override (member : user ∈ h.state.db.users)
    (ordinary : user.role.isAdmin = false) {c : Code}
    (none : ∀ o ∈ h.state.db.overridesOf user.id, o.permissionCode ≠ c) :
    c ∈ h.state.db.permissionsOf user.tenantId user.id ↔ c ∈ getBaseRolePermissions user.role ∨
        ∃ v ∈ h.state.db.rolesOf user.id, c ∈ v.permissions := by
  simp [Db.mem_permissionsOf_iff member ordinary, decision_of_no_override none, Db.mem_rolesOf_iff]

theorem follows_iff_settled (own : h.state.db.OwnOverrides) (member : user ∈ h.state.db.users)
    (ordinary : user.role.isAdmin = false) (current : h.state.Current user) :
    h.Follows user ↔ h.Settled user := by
  have follows : h.Follows user ↔ ∀ c, c ∈ h.state.db.permissionsOf user.tenantId user.id ↔
      h.Effective user c := by
    rw [History.Follows, run_getUserPermissions]
    exact forall_congr' fun c => by rw [← current_listed current]
  rw [follows]
  constructor
  · intro agree
    refine ⟨fun o mem removed => ?_, fun v mem deleted c memC none => ?_⟩
    · have this := agree o.permissionCode
      rw [mem_permissionsOf_of_override own member ordinary mem,
        effective_of_override own member mem, removed] at this
      simpa using this
    · rw [← effective_of_no_override none, ← agree,
        mem_permissionsOf_of_no_override member ordinary none]
      exact Or.inr ⟨v, mem, memC⟩
  · intro settled c
    by_cases overridden : ∃ o ∈ h.state.db.overridesOf user.id, o.permissionCode = c
    · obtain ⟨o, mem, rfl⟩ := overridden
      rw [mem_permissionsOf_of_override own member ordinary mem,
        effective_of_override own member mem]
      cases live : h.live o.overrideKey with
      | true => simp
      | false => simpa using settled.removed o mem live
    · have none : ∀ o ∈ h.state.db.overridesOf user.id, o.permissionCode ≠ c :=
        fun o mem same => overridden ⟨o, mem, same⟩
      rw [effective_of_no_override none, mem_permissionsOf_of_no_override member ordinary none]
      constructor
      · rintro (base | ⟨v, mem, memC⟩)
        · exact Or.inl base
        · cases deleted : v.role.deletedAt with
          | none => exact Or.inr ⟨v, mem, deleted, memC⟩
          | some at_ => exact settled.deleted v mem (by simp [deleted]) c memC none
      · rintro (base | ⟨v, mem, -, memC⟩)
        · exact Or.inl base
        · exact Or.inr ⟨v, mem, memC⟩

end

/-! ### Over a run -/

theorem History.step_db (h : History) (r : RbacRequest) :
    Effect h.state.db r (h.step r).state.db := perform_effect h.state r

/-- **The formula over runs.** After any run, the reader returns the effective permissions of an
ordinary user exactly if its removed overrides and deleted roles change nothing. -/
theorem effective_iff (h : History) (requests : List RbacRequest) (user : User)
    (own : h.state.db.OwnOverrides) (member : user ∈ h.state.db.users)
    (ordinary : user.role.isAdmin = false)
    (current : (run History.step h requests).state.Current user) :
    (run History.step h requests).Follows user ↔ (run History.step h requests).Settled user := by
  have kept : (run History.step h requests).state.db.OwnOverrides ∧
      user ∈ (run History.step h requests).state.db.users := by
    refine run_keeps (I := fun h : History => h.state.db.OwnOverrides ∧ user ∈ h.state.db.users)
      (fun h r kept => ?_) ⟨own, member⟩ requests
    have effect := h.step_db r
    exact ⟨effect.ownOverrides kept.1, effect.users ▸ kept.2⟩
  exact follows_iff_settled kept.1 kept.2 ordinary current

namespace Desk

/-- The staff room before any call; nothing is cached. -/
def fresh : History where
  state :=
    { db :=
        { users := [principal, teacher]
          users_nodup := by decide
          held_exists := none_held }
      cache := fun _ _ => none }
  live _ := false

def setOverride (permissionCode : String) (effect : PermissionOverrideEffect)
    (permissionCode_notEmpty : permissionCode ≠ "" := by decide) : RbacRequest where
  tenantId := 7
  adminId := 2
  call := .setUserOverride 3 { permissionCode, effect, permissionCode_notEmpty }

def grantFees : RbacRequest := setOverride "finance.fee.read" .grant

def removeFees : RbacRequest where
  tenantId := 7
  adminId := 2
  call := .removeUserOverride 3 "finance.fee.read"

end Desk

/-- A grant that was removed still counts. -/
theorem not_follows_of_removed_grant : Returns ((getUserPermissions 7 3).run exec
        (run History.step Desk.fresh [Desk.grantFees, Desk.removeFees]).state).2
      ("finance.fee.read" ∈ ·) ∧
    ¬ (run History.step Desk.fresh [Desk.grantFees, Desk.removeFees]).Effective Desk.teacher
      "finance.fee.read" := by
  decide +kernel

/-- Overrides that grant, revoke, and grant again. -/
theorem effective_iff_grant : (run History.step Desk.fresh [Desk.grantFees,
      Desk.setOverride "attendance.read" .revoke, Desk.setOverride "lesson.read" .revoke,
      Desk.setOverride "attendance.read" .grant]).Follows Desk.teacher :=
  (effective_iff Desk.fresh _ Desk.teacher nofun (by decide) (by decide)
    (.of_uncached (by decide +kernel))).mpr ⟨by decide +kernel, by decide +kernel⟩

end Rokad.Rbac
