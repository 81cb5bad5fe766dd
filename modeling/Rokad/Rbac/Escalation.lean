import Rokad.Rbac.Effects
import Rokad.Rbac.Enforcement

/-!
# Escalation of the management of roles

Assigning a role with `rbac.manage` and granting it are reserved to administrators. Giving it
to a role that is already held is not: neither `updateRole` nor the creation of a role over a
deleted one looks at who holds it. `no_escalation_iff` says that there is no other way.
-/

namespace Rokad.Rbac

open Rokad.Base Rokad.Common

/-! ### Who manages roles -/

namespace Db

/-- The database gives the user the management of roles. -/
def Manages (db : Db) (user : User) : Prop :=
  rbacManage ∈ db.permissionsOf user.tenantId user.id
deriving Decidable

variable {db db' : Db} {user : User}

theorem manages_of_isAdmin (member : user ∈ db.users) (admin : user.role.isAdmin = true) :
    db.Manages user := by
  have access := findAccess_of_mem member
  have manage : rbacManage ∈ PERMISSION_CATALOG := by decide
  simp [Manages, permissionsOf, access, computePermissions, accessOf, admin, manage]

/-- An ordinary user manages roles by its overrides, or by a role where they are silent. -/
theorem manages_iff (member : user ∈ db.users) (ordinary : user.role.isAdmin = false) :
    db.Manages user ↔ db.decision user.id rbacManage = some .grant ∨
      db.decision user.id rbacManage = none ∧ db.HoldsCode user.id rbacManage := by
  have base : rbacManage ∉ getBaseRolePermissions user.role := by
    cases user.role <;> decide
  rw [Manages, mem_permissionsOf_iff member ordinary]
  simp only [base, false_or]

/-- Where the deciding override did not come to grant and none vanished, a user that manages
roles held the role that gives it. -/
theorem manages_mono (member : user ∈ db.users) (users : db'.users = db.users)
    (granted : db'.decision user.id rbacManage = some .grant →
      db.decision user.id rbacManage = some .grant)
    (silent : db'.decision user.id rbacManage = none → db.decision user.id rbacManage = none ∧
        (db'.HoldsCode user.id rbacManage → db.HoldsCode user.id rbacManage))
    (manages : db'.Manages user) : db.Manages user := by
  cases admin : user.role.isAdmin with
  | true => exact manages_of_isAdmin member admin
  | false =>
    rcases (manages_iff (users ▸ member) admin).mp manages with grant | ⟨none, held⟩
    · exact (manages_iff member admin).mpr (Or.inl (granted grant))
    · obtain ⟨before, holds⟩ := silent none
      exact (manages_iff member admin).mpr (Or.inr ⟨before, holds held⟩)

end Db

/-! ### Which calls give it -/

/-- No other role of the tenant has the new name. -/
def Db.nameFree (db : Db) (role : SchoolRole) (name : Option String) : Prop :=
  ∀ new ∈ name, new = role.name ∨
    ∀ x ∈ db.roles.rows, x.tenantId = role.tenantId → x.name = new → x.id = role.id
deriving Decidable

/-- The role that the call leaves with the management of roles, if it goes through. -/
def RbacRequest.gives (r : RbacRequest) (db : Db) : Option SchoolRole :=
  match r.call with
  | .createRole dto =>
    (db.roles.rows.find? fun x => x.tenantId = r.tenantId ∧ x.name = trim dto.name).filter
      fun role => role.deletedAt.isSome ∧ rbacManage ∈ dto.permissionCodes
  | .updateRole roleId dto =>
    (db.roles.find? roleId).filter fun role => role.tenantId = r.tenantId ∧
      rbacManage ∈ dto.permissionCodes.getD [] ∧ rbacManage ∈ db.permissions ∧
      db.nameFree role ((truthy dto.name).map trim)
  | _ => none

/-- The user holds the role, and no override keeps the management of roles from it. -/
def Db.Exposed (db : Db) (user : User) (roleId : Id) : Prop :=
  (∃ h ∈ db.userSchoolRoles, h.userId = user.id ∧ h.schoolRoleId = roleId) ∧
    db.decision user.id rbacManage ≠ some .revoke
deriving Decidable

/-- Whom the call exposes to the management of roles already had it at the start. -/
def RbacRequest.Guarded (start : Db) (s : State) (r : RbacRequest) : Prop :=
  ∀ role ∈ r.gives s.db, ∀ user ∈ start.users, s.db.Exposed user role.id → start.Manages user
deriving Decidable

/-- The actor is no administrator. -/
def RbacRequest.ByOrdinary (r : RbacRequest) (db : Db) : Prop :=
  ∀ user ∈ db.users, user.id = r.adminId → user.role.isAdmin = false
deriving Decidable

theorem RbacRequest.ByOrdinary.notAdmin {r : RbacRequest} {db : Db} (ordinary : r.ByOrdinary db) :
    actsAsAdmin (db.findUser r.tenantId r.adminId) = false := by
  cases found : db.findUser r.tenantId r.adminId with
  | none => rfl
  | some user =>
    have is : user.id = r.adminId ∧ user.tenantId = r.tenantId := by
      simpa using List.find?_some found
    exact ordinary user (List.mem_of_find?_eq_some found) is.1

/-! ### No other call does -/

section

variable {db db' : Db} {r : RbacRequest} {user : User}

/-- Permissions of one role replaced: a user manages roles as before, or is exposed. -/
theorem manages_of_replaced {id : Id} {codes : Option (List Code)} {f : SchoolRole → SchoolRole}
    {keep : ∀ x, Record.key (f x) = Record.key x} (member : user ∈ db.users)
    (done : db.updateRole id f keep codes = .ok db') (manages : db'.Manages user) :
    db.Manages user ∨ rbacManage ∈ codes.getD [] ∧ db.Exposed user id := by
  obtain ⟨permissions, roles, overrides, users⟩ := Db.updateRole_spec done
  have decision := Db.decision_congr (u := user.id) (c := rbacManage) overrides
  by_cases exposed : rbacManage ∈ codes.getD [] ∧ db.Exposed user id
  · exact Or.inr exposed
  · left
    refine Db.manages_mono member users (fun grant => decision ▸ grant) (fun none => ?_) manages
    refine ⟨decision ▸ none, fun ⟨h, mem, is, code⟩ => ?_⟩
    rw [roles] at mem
    refine ⟨h, mem, is, ?_⟩
    rw [Db.mem_codesOf, permissions] at code
    rw [Db.mem_codesOf]
    cases codes with
    | none => exact code
    | some codes =>
      rw [Option.elim_some, Db.mem_replacePermissions] at code
      split at code
      · rename_i this
        refine absurd ⟨code, ⟨h, mem, is, this⟩, ?_⟩ exposed
        rw [← decision, none]
        exact nofun
      · exact code

theorem manages_of_created {row : SchoolRole} {codes : List Code} (member : user ∈ db.users)
    (done : db.createRole row codes = .ok db') (manages : db'.Manages user) : db.Manages user := by
  obtain ⟨-, -, -, overrides, users⟩ := Db.createRole_spec done
  have decision := Db.decision_congr (u := user.id) (c := rbacManage) overrides
  exact Db.manages_mono member users (fun grant => decision ▸ grant)
    (fun none => ⟨decision ▸ none, (Db.holdsCode_createRole done).mp⟩) manages

/-- As many rows as there are identifiers: each identifier has its row. -/
theorem exists_of_length_eq {α : Type} [Record α] {t : Table α} {ids : List ℕ} {p : α → Prop}
    [DecidablePred p]
    (all : (t.rows.filter fun x => Record.key x ∈ ids ∧ p x).length = ids.length) {id : ℕ}
    (mem : id ∈ ids) : ∃ x ∈ t.rows, Record.key x = id ∧ p x := by
  have nodup : ((t.rows.filter fun x => Record.key x ∈ ids ∧ p x).map Record.key).Nodup :=
    t.keys_nodup.sublist (List.filter_sublist.map _)
  have sub : ((t.rows.filter fun x => Record.key x ∈ ids ∧ p x).map Record.key) ⊆ ids := by
    intro k memK
    obtain ⟨x, memX, rfl⟩ := List.mem_map.mp memK
    exact (of_decide_eq_true (List.mem_filter.mp memX).2).1
  have perm := (nodup.subperm sub).perm_of_length_le (by rw [List.length_map, all])
  obtain ⟨x, memX, rfl⟩ := List.mem_map.mp (perm.mem_iff.mpr mem)
  obtain ⟨row, -, own⟩ : x ∈ t.rows ∧ Record.key x ∈ ids ∧ p x := by simpa using memX
  exact ⟨x, row, rfl, own⟩

theorem manages_of_assigned {target tenantId : Id} {ids : List Id} (member : user ∈ db.users)
    (roles : ((db.roles.rows.filter fun x => x.id ∈ ids ∧ x.tenantId = tenantId)).length =
      ids.length)
    (allowed : ∀ x ∈ db.roles.rows, x.id ∈ ids → x.tenantId = tenantId →
      rbacManage ∉ db.codesOf x.id)
    (done : db.setUserRoles tenantId target ids = .ok db') (manages : db'.Manages user) :
    db.Manages user := by
  obtain ⟨permissions, held, overrides, users⟩ := Db.setUserRoles_spec done
  have decision := Db.decision_congr (u := user.id) (c := rbacManage) overrides
  refine Db.manages_mono member users (fun grant => decision ▸ grant) (fun none => ?_) manages
  refine ⟨decision ▸ none, fun ⟨h, mem, is, code⟩ => ?_⟩
  rw [Db.mem_codesOf, permissions, ← Db.mem_codesOf] at code
  rw [held] at mem
  rcases List.mem_append.mp mem with before | new
  · exact ⟨h, (List.mem_filter.mp before).1, is, code⟩
  · obtain ⟨id, memId, rfl⟩ := List.mem_map.mp new
    obtain ⟨x, row, rfl, own⟩ := exists_of_length_eq (t := db.roles)
      (p := fun x => x.tenantId = tenantId) roles memId
    exact absurd code (allowed x row memId own)

theorem manages_of_overridden {target tenantId : Id} {code : Code}
    {effect : PermissionOverrideEffect} {reason : Option String} {grantedById : Id}
    (member : user ∈ db.users) (allowed : code = rbacManage → effect = .revoke)
    (done : db.upsertOverride tenantId target code effect reason grantedById = .ok db')
    (manages : db'.Manages user) : db.Manages user := by
  obtain ⟨written, permissions, roles, users⟩ := Db.upsertOverride_spec done
  have holds := Db.holdsCode_congr (u := user.id) (c := rbacManage) roles permissions
  rcases written with ⟨o, found, updated⟩ | inserted
  · have decision := Db.decision_update (u := user.id) (c := rbacManage) updated
      fun _ => ⟨rfl, rfl⟩
    have isCode : ∀ x ∈ db.overrides.rows, x.id = o.id → x.permissionCode = rbacManage →
        effect = .revoke := by
      intro x mem same manage
      obtain rfl : x = o :=
        db.overrides.eq_of_key_eq mem (List.mem_of_find?_eq_some found) same
      have is : x.tenantId = tenantId ∧ x.userId = target ∧ x.permissionCode = code := by
        simpa using List.find?_some (show db.overrides.rows.find? _ = some x from found)
      exact allowed (is.2.2.symm.trans manage)
    cases last : ((db.overridesOf user.id).filter fun x =>
        x.permissionCode = rbacManage).getLast? with
    | none =>
      have before : db.decision user.id rbacManage = none := by rw [Db.decision, last]; rfl
      rw [last, Option.map_none] at decision
      refine Db.manages_mono member users (fun grant => ?_) (fun _ => ⟨before, holds.mp⟩) manages
      rw [decision] at grant
      cases grant
    | some x =>
      have before : db.decision user.id rbacManage = some x.effect := by
        rw [Db.decision, last]
        rfl
      obtain ⟨ofUser, manage⟩ := List.mem_filter.mp (List.mem_of_getLast? last)
      rw [last, Option.map_some] at decision
      refine Db.manages_mono member users (fun grant => ?_) (fun none => ?_) manages
      · rw [decision] at grant
        rw [before]
        split at grant
        · rename_i same
          have revoke := isCode x (List.mem_filter.mp ofUser).1 same (of_decide_eq_true manage)
          rw [revoke] at grant
          cases grant
        · exact grant
      · rw [decision] at none
        cases none
  · have decision := Db.decision_insert (u := user.id) (c := rbacManage) inserted
    refine Db.manages_mono member users (fun grant => ?_) (fun none => ?_) manages
    · rw [decision] at grant
      split at grant
      · rename_i mine
        rw [allowed mine.2] at grant
        cases grant
      · exact grant
    · rw [decision] at none
      split at none
      · cases none
      · exact ⟨none, holds.mp⟩

theorem manages_of_toggled {id : Id} {deletedAt : Option Instant} (member : user ∈ db.users)
    (done : db.setOverrideDeletedAt id deletedAt = .ok db') (manages : db'.Manages user) :
    db.Manages user := by
  obtain ⟨-, permissions, roles, users⟩ := Db.withOverrides_spec done
  have holds := Db.holdsCode_congr (u := user.id) (c := rbacManage) roles permissions
  have decision := Db.decision_setOverrideDeletedAt (u := user.id) (c := rbacManage) done
  exact Db.manages_mono member users (fun grant => decision ▸ grant)
    (fun none => ⟨decision ▸ none, holds.mp⟩) manages

/-- A renaming that went through did not take another role's name. -/
theorem nameFree_of_done {role : SchoolRole} {name description : Option String}
    {codes : Option (List Code)} (found : db.roles.find? role.id = some role)
    (done : db.updateRole role.id (renamed name description) (fun _ => rfl) codes = .ok db') :
    db.nameFree role name := by
  obtain ⟨roles, updated⟩ := Db.exists_of_updateRole done
  obtain ⟨row, again, clear, -⟩ := Table.update_spec.mp updated
  rw [found] at again
  cases again
  rintro new rfl
  refine Or.inr fun x mem tenant same => ?_
  by_contra differ
  have apart := clear x mem differ
  simp [Record.clash, renamed, tenant, same] at apart

theorem clear_of_nameFree {role : SchoolRole} {name description : Option String}
    (found : db.roles.find? role.id = some role) (free : db.nameFree role name) :
    ∀ x ∈ db.roles.rows, Record.key x ≠ role.id →
      Record.clash (renamed name description role) x = false := by
  intro x mem differ
  have apart := db.roles.no_clash role (mem_of_find? found) x mem (Ne.symm differ)
  have taken : ¬ (x.tenantId = role.tenantId ∧ x.name = name.getD role.name) := by
    rintro ⟨tenant, same⟩
    cases name with
    | none => simp [Record.clash, tenant, same] at apart
    | some new =>
      rcases free new rfl with keeps | free
      · simp [Record.clash, tenant, same, keeps] at apart
      · exact differ (free x mem tenant same)
  simp only [Record.clash, renamed, Bool.and_eq_false_iff, beq_eq_false_iff_ne]
  by_cases tenant : role.tenantId = x.tenantId
  · exact Or.inr fun same => taken ⟨tenant.symm, same.symm⟩
  · exact Or.inl tenant

/-- **Effects on the management of roles.** -/
theorem Effect.manages (effect : Effect db r db') (ordinary : r.ByOrdinary db)
    (member : user ∈ db.users) (manages : db'.Manages user) :
    db.Manages user ∨ ∃ role ∈ r.gives db, db.Exposed user role.id := by
  cases effect with
  | entered permissions => exact Or.inl manages
  | created call done =>
    have before : db.catalogued.Manages user := manages_of_created member done manages
    exact Or.inl before
  | @reactivated dto role _ call found deleted done =>
    have before : db.catalogued.Manages user ∨ rbacManage ∈ _ ∧ db.catalogued.Exposed user _ :=
      manages_of_replaced member done manages
    refine before.imp_right ?_
    rintro ⟨given, exposed⟩
    have wanted : rbacManage ∈ dto.permissionCodes :=
      of_decide_eq_true (List.mem_filter.mp given).2
    refine ⟨role, ?_, exposed⟩
    rw [RbacRequest.gives, call]
    exact Option.filter_eq_some_iff.mpr ⟨found, by simp [deleted, wanted]⟩
  | @updated roleId dto role _ call found own done =>
    obtain rfl : role.id = roleId := key_of_find? found
    refine (manages_of_replaced member done manages).imp_right ?_
    rintro ⟨given, exposed⟩
    refine ⟨role, ?_, exposed⟩
    rw [RbacRequest.gives, call]
    refine Option.filter_eq_some_iff.mpr ⟨found, decide_eq_true ?_⟩
    cases codes : dto.permissionCodes with
    | none =>
      rw [codes] at given
      cases given
    | some wanted =>
      rw [codes] at given
      obtain ⟨known, among⟩ := List.mem_filter.mp given
      exact ⟨own, of_decide_eq_true among, known, nameFree_of_done found done⟩
  | marked done =>
    rcases manages_of_replaced member done manages with before | ⟨given, -⟩
    · exact Or.inl before
    · cases given
  | assigned call roles allowed done =>
    exact Or.inl (manages_of_assigned member roles (allowed ordinary.notAdmin) done manages)
  | overridden call found allowed done =>
    exact Or.inl (manages_of_overridden member (allowed ordinary.notAdmin) done manages)
  | toggled done => exact Or.inl (manages_of_toggled member done manages)

/-! ### These calls do -/

theorem demand_of {cond : Prop} [Decidable cond] {e : Failure} (holds : cond) :
    demand cond e = .ret (.ok ()) := by
  rw [demand, require, if_pos holds]

theorem run_reactivate {s : State} {tenantId : Id} {dto : CreateSchoolRoleDto} {role : SchoolRole}
    (found : s.db.roles.rows.find? (fun x => x.tenantId = tenantId ∧ x.name = trim dto.name) =
      some role) (deleted : role.deletedAt.isSome)
    (done : s.db.catalogued.updateRole role.id (reactivated (dto.description.map trim))
      (fun _ => rfl) (some (s.db.existing dto.permissionCodes)) = .ok db') :
    ((createRole tenantId dto).run exec s).1.db = db' := by
  unfold createRole
  simp only [Prog.call_bind, Prog.run_step, exec, found, demand_of deleted, Prog.ret_ok_bind,
    Prog.run_bind, run_ensureCatalogPermissionsInDb]
  rw [Db.existing] at done
  rw [done]
  rfl

theorem run_updateRole {s : State} {tenantId : Id} {dto : UpdateSchoolRoleDto} {role : SchoolRole}
    (found : s.db.roles.find? role.id = some role) (own : role.tenantId = tenantId)
    (free : s.db.nameFree role ((truthy dto.name).map trim))
    (done : s.db.updateRole role.id
      (renamed ((truthy dto.name).map trim) (dto.description.map trim)) (fun _ => rfl)
      (dto.permissionCodes.map s.db.findPermissions) = .ok db') :
    ((updateRole tenantId role.id dto).run exec s).1.db = db' := by
  have checked : (checkDuplicate tenantId role.id ((truthy dto.name).map trim)
      (s.db.viewOf role).role dto.name).run exec s = (s, .ok ()) := by
    unfold checkDuplicate
    cases name : (truthy dto.name).map trim with
    | none => rfl
    | some new =>
      dsimp only
      split
      · rfl
      · rename_i differ
        have clear : s.db.roles.rows.find? (fun r => r.tenantId = tenantId ∧ r.name = new ∧
            r.id ≠ role.id) = none := by
          refine List.find?_eq_none.mpr fun x mem taken => ?_
          have is := of_decide_eq_true taken
          rcases free new (by rw [name]; rfl) with same | free
          · exact differ same
          · exact is.2.2 (free x mem (is.1.trans own.symm) is.2.1)
        simp only [Prog.call_bind, Prog.run_step, exec, clear, demand_of (Option.isNone_none)]
        rfl
  have filtered : (s.db.roles.find? role.id).filter (·.tenantId = tenantId) = some role :=
    Option.filter_eq_some_iff.mpr ⟨found, decide_eq_true own⟩
  unfold updateRole
  simp only [Prog.call_bind, Prog.run_step, exec, filtered, Option.map_some, orNotFound, orFail,
    Prog.ret_ok_bind]
  rw [Prog.run_bind, checked]
  simp only [Prog.run_step, exec, done]
  exact invalidate_db _ _ _ (fun _ => rfl) ⟨db', s.cache⟩

theorem perform_gives {s : State} {role : SchoolRole} (gives : role ∈ r.gives s.db) :
    ∃ (db : Db) (f : SchoolRole → SchoolRole) (keep : ∀ x, Record.key (f x) = Record.key x)
      (codes : List Code), db.users = s.db.users ∧ db.userSchoolRoles = s.db.userSchoolRoles ∧
      db.overrides = s.db.overrides ∧ rbacManage ∈ codes ∧
      db.updateRole role.id f keep (some codes) = .ok (perform s r).db := by
  unfold RbacRequest.gives at gives
  unfold perform RbacRequest.prog
  cases call : r.call with
  | createRole dto =>
    rw [call] at gives
    obtain ⟨found, given⟩ := Option.filter_eq_some_iff.mp gives
    obtain ⟨deleted, wanted⟩ := of_decide_eq_true given
    have row : s.db.roles.find? role.id = some role :=
      s.db.roles.find?_key (List.mem_of_find?_eq_some found)
    obtain ⟨roles, updated⟩ : ∃ roles, s.db.catalogued.roles.update role.id
        (reactivated (dto.description.map trim)) (fun _ => rfl) = some roles :=
      update_isSome row fun _ _ => rfl
    obtain ⟨db', done⟩ := Db.updateRole_of_update updated
      (some (s.db.existing dto.permissionCodes))
    have known : rbacManage ∈ s.db.existing dto.permissionCodes := by
      have entered : rbacManage ∈ PERMISSION_CATALOG := by decide
      refine List.mem_filter.mpr ⟨List.mem_append.mpr ?_, decide_eq_true wanted⟩
      by_cases before : rbacManage ∈ s.db.permissions
      · exact Or.inl before
      · exact Or.inr (List.mem_filter.mpr ⟨entered, decide_eq_true before⟩)
    refine ⟨s.db.catalogued, reactivated (dto.description.map trim), fun _ => rfl, _, rfl, rfl,
      rfl, known, ?_⟩
    rw [run_ignore, run_reactivate found deleted done]
    exact done
  | updateRole roleId dto =>
    rw [call] at gives
    obtain ⟨found, given⟩ := Option.filter_eq_some_iff.mp gives
    obtain ⟨own, wanted, known, free⟩ := of_decide_eq_true given
    obtain rfl : role.id = roleId := key_of_find? found
    obtain ⟨codes, is⟩ : ∃ codes, dto.permissionCodes = some codes := by
      cases given : dto.permissionCodes with
      | none =>
        rw [given] at wanted
        cases wanted
      | some codes => exact ⟨codes, rfl⟩
    obtain ⟨roles, updated⟩ : ∃ roles, s.db.roles.update role.id
        (renamed ((truthy dto.name).map trim) (dto.description.map trim)) (fun _ => rfl) =
          some roles := Table.update_of_clear found (clear_of_nameFree found free)
    obtain ⟨db', done⟩ := Db.updateRole_of_update updated
      (dto.permissionCodes.map s.db.findPermissions)
    have run := run_updateRole found own free done
    rw [is, Option.map_some] at done
    rw [is, Option.getD_some] at wanted
    have given : rbacManage ∈ s.db.findPermissions codes :=
      List.mem_filter.mpr ⟨known, decide_eq_true wanted⟩
    refine ⟨s.db, renamed ((truthy dto.name).map trim) (dto.description.map trim),
      fun _ => rfl, _, rfl, rfl, rfl, given, ?_⟩
    rw [run_ignore, run]
    exact done
  | _ =>
    rw [call] at gives
    cases gives

/-- Whom such a call exposes manages roles afterwards. -/
theorem manages_of_gives {s : State} {role : SchoolRole} (gives : role ∈ r.gives s.db)
    (member : user ∈ s.db.users) (exposed : s.db.Exposed user role.id) :
    (perform s r).db.Manages user := by
  obtain ⟨db, f, keep, codes, users, roles, overrides, known, done⟩ := perform_gives gives
  obtain ⟨permissions, roles', overrides', users'⟩ := Db.updateRole_spec done
  have member' : user ∈ (perform s r).db.users := by
    rw [users', users]
    exact member
  cases admin : user.role.isAdmin with
  | true => exact Db.manages_of_isAdmin member' admin
  | false =>
    refine (Db.manages_iff member' admin).mpr ?_
    have decision : (perform s r).db.decision user.id rbacManage =
        s.db.decision user.id rbacManage := Db.decision_congr (overrides'.trans overrides)
    obtain ⟨⟨h, held, is, same⟩, spared⟩ := exposed
    rw [decision]
    cases last : s.db.decision user.id rbacManage with
    | none =>
      refine Or.inr ⟨rfl, h, by rw [roles', roles]; exact held, is, ?_⟩
      rw [Db.mem_codesOf, permissions, Option.elim_some, Db.mem_replacePermissions, if_pos same]
      exact known
    | some effect =>
      cases effect with
      | grant => exact Or.inl rfl
      | revoke => exact absurd last spared

end

/-! ### Over a run -/

/-- Whoever manages roles did so at the start. -/
def NoEscalation (start db : Db) : Prop := ∀ user ∈ db.users, db.Manages user → start.Manages user

theorem noEscalation_step {start : Db} {s : State} {r : RbacRequest}
    (users : s.db.users = start.users) (ordinary : r.ByOrdinary s.db) (before : NoEscalation start s.db) :
    NoEscalation start (perform s r).db ↔ r.Guarded start s := by
  have effect := perform_effect s r
  constructor
  · intro after role gives user member exposed
    rw [← users] at member
    exact after user (effect.users ▸ member) (manages_of_gives gives member exposed)
  · intro guarded user member manages
    rw [effect.users] at member
    rcases effect.manages ordinary member manages with already | ⟨role, gives, exposed⟩
    · exact before user member already
    · exact guarded role gives user (users ▸ member) exposed

/-- **No escalation over runs.** In a run of ordinary actors' calls nobody comes to manage roles,
however far it goes, exactly if each call that gives the management of roles to a role exposes
only users who already had it. -/
theorem no_escalation_iff (s : State) (requests : List RbacRequest)
    (ordinary : ∀ r ∈ requests, r.ByOrdinary s.db) :
    (∀ done rest, requests = done ++ rest → NoEscalation s.db (run perform s done).db) ↔
      Along perform (fun s' r => r.Guarded s.db s') s requests := by
  have generalized : ∀ (requests : List RbacRequest) (s' : State), s'.db.users = s.db.users →
      NoEscalation s.db s'.db → (∀ r ∈ requests, r.ByOrdinary s.db) →
      ((∀ done rest, requests = done ++ rest → NoEscalation s.db (run perform s' done).db) ↔
        Along perform (fun s' r => r.Guarded s.db s') s' requests) := by
    intro requests
    induction requests with
    | nil =>
      intro s' _ before _
      refine ⟨fun _ => trivial, fun _ done rest split => ?_⟩
      obtain ⟨rfl, rfl⟩ := List.append_eq_nil_iff.mp split.symm
      exact before
    | cons r requests ih =>
      intro s' users before ordinary
      have byOrdinary : r.ByOrdinary s'.db := by
        intro user member
        exact ordinary r List.mem_cons_self user (users ▸ member)
      have step := noEscalation_step users byOrdinary before
      have users' := (perform_effect s' r).users.trans users
      have later := fun after => ih (perform s' r) users' after fun r mem =>
        ordinary r (List.mem_cons_of_mem _ mem)
      constructor
      · intro all
        have after : NoEscalation s.db (perform s' r).db := all [r] requests rfl
        exact ⟨step.mp after, (later after).mp fun done rest split =>
          all (r :: done) rest (by rw [split]; rfl)⟩
      · rintro ⟨guarded, along⟩ done rest split
        cases done with
        | nil => exact before
        | cons first done =>
          obtain ⟨rfl, tail⟩ := List.cons_eq_cons.mp split
          exact (later (step.mpr guarded)).mpr along done rest tail
  exact generalized requests s rfl (fun _ _ manages => manages) ordinary

namespace Desk

/-- The teacher holds the role of counsellor, which gives nothing yet; the vice manages roles. -/
def counselling : Db where
  users := [vice, principal, teacher]
  permissions := PERMISSION_CATALOG
  roles := .of [{ id := 1, tenantId := 7, name := "counsellor" }]
  userSchoolRoles := [⟨7, 3, 1⟩]
  overrides := .of
    [{ id := 1, tenantId := 7, userId := 1, permissionCode := rbacManage, effect := .grant,
       grantedById := 2 }]
  users_nodup := staff_nodup
  held_exists := by decide

/-- The vice edits the role. -/
def widen (codes : List Code) : RbacRequest where
  tenantId := 7
  adminId := 1
  call := .updateRole 1 { permissionCodes := some codes }

end Desk

/-- A member of staff edits a role that a teacher holds, and the teacher manages roles. -/
theorem escalation_by_updateRole :
    (Desk.widen [rbacManage]).ByOrdinary Desk.counselling ∧
    ¬ Desk.counselling.Manages Desk.teacher ∧
    (run perform ⟨Desk.counselling, fun _ _ => none⟩ [Desk.widen [rbacManage]]).db.Manages
      Desk.teacher := by
  decide +kernel

theorem no_escalation_exams : NoEscalation Desk.counselling
      (run perform ⟨Desk.counselling, fun _ _ => none⟩ [Desk.widen ["exam.read"]]).db :=
  (no_escalation_iff ⟨Desk.counselling, fun _ _ => none⟩ [Desk.widen ["exam.read"]]
    (by decide +kernel)).mpr (by decide +kernel) _ [] (List.append_nil _).symm

end Rokad.Rbac
