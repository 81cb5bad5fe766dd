import Rokad.Rbac.Escalation

/-!
# Locking oneself out

Who manages roles may not take that from itself: an override and the assignment of its own roles
are checked for it. Editing a role is not, so an actor that manages roles by one role alone loses
that when it edits the role (`locked_out_by_updateRole`). `no_self_lockout_iff` says when a call
that goes through leaves the actor the management of roles.
-/

namespace Rokad.Rbac

open Rokad.Base Rokad.Common

/-! ### What leaves it -/

namespace Db

/-- Some role the user holds has the code, and is not this one. -/
def HoldsBeside (db : Db) (userId roleId : Id) (c : Code) : Prop :=
  ∃ h ∈ db.userSchoolRoles, h.userId = userId ∧ h.schoolRoleId ≠ roleId ∧
    c ∈ db.codesOf h.schoolRoleId
deriving Decidable

/-- Some role the user holds under another tenant has the code. -/
def HoldsElsewhere (db : Db) (tenantId userId : Id) (c : Code) : Prop :=
  ∃ h ∈ db.userSchoolRoles, h.userId = userId ∧ h.tenantId ≠ tenantId ∧
    c ∈ db.codesOf h.schoolRoleId
deriving Decidable

end Db

/-- The calls that can take a permission from somebody. -/
def RbacRequest.Revises (r : RbacRequest) : Prop :=
  match r.call with
  | .updateRole .. | .deleteRole _ | .syncUserRoles .. | .setUserOverride ..
  | .removeUserOverride .. => True
  | .createRole _ | .restoreRole _ | .restoreUserOverride .. => False

/-- The call goes through. -/
def RbacRequest.Succeeds (s : State) (r : RbacRequest) : Prop :=
  Returns (r.prog.run exec s).2 fun _ => True
deriving Decidable

/-- A grant or another role gives the actor the management of roles, or the role keeps it; and its
own roles are not assigned while the cache has it without. -/
def RbacRequest.KeepsManage (s : State) (r : RbacRequest) : Prop :=
  match r.call with
  | .updateRole roleId dto => ∀ codes ∈ dto.permissionCodes,
      s.db.decision r.adminId rbacManage = some .grant ∨
        s.db.HoldsBeside r.adminId roleId rbacManage ∨ rbacManage ∈ s.db.findPermissions codes
  | .syncUserRoles target _ => target = r.adminId →
      rbacManage ∈ s.listed r.tenantId r.adminId ∨
        s.db.decision r.adminId rbacManage = some .grant ∨
          s.db.HoldsElsewhere r.tenantId r.adminId rbacManage
  | _ => True

instance (r : RbacRequest) : Decidable r.Revises := by
  unfold RbacRequest.Revises
  split <;> infer_instance

instance (s : State) (r : RbacRequest) : Decidable (r.KeepsManage s) := by
  unfold RbacRequest.KeepsManage
  split <;> infer_instance

/-! ### Calls that go through -/

section

variable {α β : Type} {s s' : State} {b : β}

theorem run_bind_eq_ok {p : RbacProg α} {rest : α → RbacProg β} :
    (p >>= rest).run exec s = (s', .ok b) ↔
      ∃ t a, p.run exec s = (t, .ok a) ∧ (rest a).run exec t = (s', .ok b) := by
  rw [Prog.run_bind]
  cases run : p.run exec s with
  | mk t result =>
    cases result with
    | ok a => simp
    | error e => simp

theorem run_ret_eq_ok {result : Result α} {rest : α → RbacProg β} :
    (Prog.ret result >>= rest).run exec s = (s', .ok b) ↔
      ∃ a, result = .ok a ∧ (rest a).run exec s = (s', .ok b) := by
  cases result with
  | ok a => simp
  | error e => simp

/-- A statement that goes through. -/
theorem write_eq_ok {result : Result Db} {u : Unit} (done : (s.write result).2 = .ok u) :
    ∃ db, result = .ok db ∧ (s.write result).1 = { s with db } := by
  cases result with
  | ok db => exact ⟨db, rfl, rfl⟩
  | error e => cases done

theorem updateRole_ok {tenantId roleId : Id} {dto : UpdateSchoolRoleDto} {view : Option RoleView}
    (done : (updateRole tenantId roleId dto).run exec s = (s', .ok view)) :
    s.db.updateRole roleId (renamed ((truthy dto.name).map trim) (dto.description.map trim))
      (fun _ => rfl) (dto.permissionCodes.map s.db.findPermissions) = .ok s'.db := by
  unfold updateRole at done
  simp only [Prog.call_bind, Prog.run_step, exec, orNotFound, run_ret_eq_ok, orFail_eq_ok] at done
  obtain ⟨holders, -, done⟩ := done
  obtain ⟨t, _, checked, done⟩ := run_bind_eq_ok.mp done
  have same : t.db = s.db := by
    rw [← checkDuplicate_db tenantId roleId _ holders.view.role dto.name s, checked]
  simp only [Prog.run_step, exec, run_ret_eq_ok] at done
  obtain ⟨_, written, rest⟩ := done
  obtain ⟨db, updated, now⟩ := write_eq_ok written
  have last := invalidate_db tenantId holders.userRoles (.findRoleById roleId) (fun _ => rfl)
    { t with db }
  rw [now] at rest
  rw [rest] at last
  rw [← same, updated, show s'.db = db from last]

theorem setUserOverride_ok {tenantId adminId target : Id} {dto : SetUserOverrideDto}
    (done : (setUserOverride tenantId adminId target dto).run exec s = (s', .ok ())) :
    ¬ (adminId = target ∧ dto.permissionCode = rbacManage ∧ dto.effect = .revoke) ∧
    ¬ (dto.permissionCode = rbacManage ∧ dto.effect = .grant ∧
      actsAsAdmin (s.db.findUser tenantId adminId) = false) ∧
    s.db.upsertOverride tenantId target dto.permissionCode dto.effect (dto.reason.map trim)
      adminId = .ok s'.db := by
  unfold setUserOverride at done
  simp only [Prog.call_bind, Prog.run_step, exec, orNotFound, demand, run_ret_eq_ok, orFail_eq_ok]
    at done
  obtain ⟨user, -, _, spared, _, allowed, _, written, rest⟩ := done
  obtain ⟨db, updated, now⟩ := write_eq_ok written
  rw [now] at rest
  cases rest
  exact ⟨require_eq_ok.mp spared, require_eq_ok.mp allowed, updated⟩

theorem checkSelfLockout_ok {tenantId adminId target : Id} {adminUser : Option User} {grants : Bool}
    (done : (checkSelfLockout tenantId adminId target adminUser grants).run exec s = (s', .ok ()))
    (own : adminId = target) (ordinary : actsAsAdmin adminUser = false) :
    ¬ (rbacManage ∈ s.listed tenantId adminId ∧ grants = false) := by
  unfold checkSelfLockout hasPermission demand at done
  rw [if_pos ⟨own, ordinary⟩] at done
  obtain ⟨t, listed, asked, done⟩ := run_bind_eq_ok.mp done
  obtain ⟨t', perms, read, done'⟩ := run_bind_eq_ok.mp asked
  rw [run_getUserPermissions] at read
  cases read
  cases done'
  rw [Prog.run_ret, Prod.mk.injEq, require_eq_ok] at done
  simpa using done.2

theorem syncUserRoles_ok {tenantId adminId target : Id} {ids : List Id} {names : List String}
    (done : (syncUserRoles tenantId adminId target ids).run exec s = (s', .ok names)) :
    (s.db.roles.rows.filter fun x => x.id ∈ ids ∧ x.tenantId = tenantId).length = ids.length ∧
    (actsAsAdmin (s.db.findUser tenantId adminId) = false →
      (∀ x ∈ s.db.roles.rows, x.id ∈ ids → x.tenantId = tenantId → rbacManage ∉ s.db.codesOf x.id) ∧
      (adminId = target → rbacManage ∉ s.listed tenantId adminId)) ∧
    s.db.setUserRoles tenantId target ids = .ok s'.db := by
  unfold syncUserRoles at done
  simp only [Prog.call_bind, Prog.run_step, exec, orNotFound, demand, run_ret_eq_ok, orFail_eq_ok]
    at done
  obtain ⟨access, -, _, roles, _, allowed, done⟩ := done
  have known := require_eq_ok.mp roles
  have guarded := require_eq_ok.mp allowed
  obtain ⟨t, _, checked, done⟩ := run_bind_eq_ok.mp done
  have same : t.db = s.db := by
    rw [← checkSelfLockout_db tenantId adminId target _ _ s, checked]
  simp only [Prog.run_step, exec, run_ret_eq_ok] at done
  obtain ⟨_, written, rest⟩ := done
  obtain ⟨db, updated, now⟩ := write_eq_ok written
  rw [now] at rest
  cases rest
  refine ⟨(List.length_map s.db.viewOf).symm.trans known, fun ordinary => ?_, same ▸ updated⟩
  have none : ((s.db.roles.rows.filter fun x => x.id ∈ ids ∧ x.tenantId = tenantId).map
      s.db.viewOf).any (fun r => r.permissions.contains rbacManage) = false :=
    Bool.eq_false_iff.mpr fun some => guarded ⟨some, ordinary⟩
  refine ⟨fun x mem among own manage => ?_, fun self listed =>
    checkSelfLockout_ok checked self ordinary ⟨listed, none⟩⟩
  refine Bool.eq_false_iff.mp none (List.any_eq_true.mpr ⟨s.db.viewOf x, ?_, ?_⟩)
  · exact List.mem_map_of_mem (List.mem_filter.mpr ⟨mem, by simp [among, own]⟩)
  · exact List.contains_iff_mem.mpr manage

/-- What an ignored program returns. -/
theorem of_succeeds_ignore {p : RbacProg α}
    (returns : Returns ((ignore p).run exec s).2 fun _ => True) :
    ∃ a, p.run exec s = (((ignore p).run exec s).1, .ok a) := by
  rw [run_ignore]
  obtain ⟨_, done, -⟩ := returns.exists
  unfold ignore at done
  rw [Prog.run_bind] at done
  cases run : p.run exec s with
  | mk t result =>
    rw [run] at done
    cases result with
    | ok a => exact ⟨a, rfl⟩
    | error e => cases done

end

/-! ### What a call leaves -/

section

variable {db db' : Db} {user : User}

theorem Db.manages_congr (member : user ∈ db.users) (ordinary : user.role.isAdmin = false)
    (users : db'.users = db.users)
    (decision : db'.decision user.id rbacManage = db.decision user.id rbacManage)
    (holds : db'.HoldsCode user.id rbacManage ↔ db.HoldsCode user.id rbacManage) :
    db'.Manages user ↔ db.Manages user := by
  rw [Db.manages_iff (users ▸ member) ordinary, Db.manages_iff member ordinary, decision, holds]

/-- After its permissions were replaced the role gives what is new, and every other role what it
gave. -/
theorem holdsCode_of_updated {roleId : Id} {f : SchoolRole → SchoolRole}
    {keep : ∀ x, Record.key (f x) = Record.key x} {codes : List Code} {c : Code} {u : Id}
    (done : db.updateRole roleId f keep (some codes) = .ok db') (before : db.HoldsCode u c) :
    db'.HoldsCode u c ↔ db.HoldsBeside u roleId c ∨ c ∈ codes := by
  obtain ⟨permissions, roles, -, -⟩ := Db.updateRole_spec done
  have code (id : Id) :
      c ∈ db'.codesOf id ↔ if id = roleId then c ∈ codes else c ∈ db.codesOf id := by
    rw [Db.mem_codesOf, permissions, Option.elim_some, Db.mem_replacePermissions, Db.mem_codesOf]
  simp only [Db.HoldsCode, Db.HoldsBeside, roles, code]
  constructor
  · rintro ⟨h, mem, is, given⟩
    split_ifs at given with own
    · exact .inr given
    · exact .inl ⟨h, mem, is, own, given⟩
  · rintro (⟨h, mem, is, other, given⟩ | given)
    · exact ⟨h, mem, is, by rwa [if_neg other]⟩
    · obtain ⟨h, mem, is, held⟩ := before
      refine ⟨h, mem, is, ?_⟩
      split_ifs
      · exact given
      · exact held

/-- After its roles were assigned a user holds those, and what it held under other tenants. -/
theorem holdsCode_of_assigned {tenantId target : Id} {ids : List Id} {c : Code}
    (done : db.setUserRoles tenantId target ids = .ok db')
    (without : ∀ id ∈ ids, c ∉ db.codesOf id) :
    db'.HoldsCode target c ↔ db.HoldsElsewhere tenantId target c := by
  obtain ⟨permissions, held, -, -⟩ := Db.setUserRoles_spec done
  simp only [Db.HoldsCode, Db.HoldsElsewhere, Db.mem_codesOf, permissions, held]
  simp only [← Db.mem_codesOf]
  constructor
  · rintro ⟨h, mem, is, given⟩
    rcases List.mem_append.mp mem with before | new
    · obtain ⟨row, other⟩ := List.mem_filter.mp before
      exact ⟨h, row, is, fun same => of_decide_eq_true other ⟨same, is⟩, given⟩
    · obtain ⟨id, memId, rfl⟩ := List.mem_map.mp new
      exact absurd given (without id memId)
  · rintro ⟨h, row, is, other, given⟩
    exact ⟨h, List.mem_append_left _ (List.mem_filter.mpr ⟨row, by simp [other]⟩), is, given⟩

/-- Replacing the permissions of a role leaves a user that manages roles so exactly where a grant or
another role gives it, or the role keeps it. -/
theorem manages_updateRole_iff {roleId : Id} {f : SchoolRole → SchoolRole}
    {keep : ∀ x, Record.key (f x) = Record.key x} {codes : Option (List Code)}
    (member : user ∈ db.users) (ordinary : user.role.isAdmin = false) (manages : db.Manages user)
    (done : db.updateRole roleId f keep codes = .ok db') :
    db'.Manages user ↔ ∀ given ∈ codes, db.decision user.id rbacManage = some .grant ∨
      db.HoldsBeside user.id roleId rbacManage ∨ rbacManage ∈ given := by
  obtain ⟨permissions, roles, overrides, users⟩ := Db.updateRole_spec done
  have decision := Db.decision_congr (u := user.id) (c := rbacManage) overrides
  cases codes with
  | none =>
    have same := Db.holdsCode_congr (u := user.id) (c := rbacManage) roles permissions
    exact iff_of_true ((Db.manages_congr member ordinary users decision same).mpr manages) nofun
  | some codes =>
    rw [Db.manages_iff (users ▸ member) ordinary, decision]
    simp only [Option.mem_some_iff, forall_eq']
    rcases (Db.manages_iff member ordinary).mp manages with grant | ⟨silent, held⟩
    · exact iff_of_true (.inl grant) (.inl grant)
    · rw [holdsCode_of_updated done held]
      simp [silent]

/-- An assignment of its own roles leaves a user that manages roles so exactly where a grant or a
role of another tenant gives it. -/
theorem manages_setUserRoles_iff {tenantId : Id} {ids : List Id} (member : user ∈ db.users)
    (ordinary : user.role.isAdmin = false) (manages : db.Manages user)
    (without : ∀ id ∈ ids, rbacManage ∉ db.codesOf id)
    (done : db.setUserRoles tenantId user.id ids = .ok db') :
    db'.Manages user ↔ db.decision user.id rbacManage = some .grant ∨
      db.HoldsElsewhere tenantId user.id rbacManage := by
  obtain ⟨-, -, overrides, users⟩ := Db.setUserRoles_spec done
  have decision := Db.decision_congr (u := user.id) (c := rbacManage) overrides
  rw [Db.manages_iff (users ▸ member) ordinary, decision, holdsCode_of_assigned done without]
  rcases (Db.manages_iff member ordinary).mp manages with grant | ⟨silent, -⟩
  · exact iff_of_true (.inl grant) (.inl grant)
  · simp [silent]

/-- Deleting a role or an override changes nothing for anybody. -/
theorem Effect.manages_of_deletes {s : State} {r : RbacRequest} (effect : Effect s.db r db')
    (deletes : (∃ roleId, r.call = .deleteRole roleId) ∨
      ∃ target code, r.call = .removeUserOverride target code)
    (member : user ∈ s.db.users) (ordinary : user.role.isAdmin = false) :
    db'.Manages user ↔ s.db.Manages user := by
  have only : (∀ dto, r.call ≠ .createRole dto) ∧ (∀ id dto, r.call ≠ .updateRole id dto) ∧
      (∀ target ids, r.call ≠ .syncUserRoles target ids) ∧
      ∀ target dto, r.call ≠ .setUserOverride target dto := by
    rcases deletes with ⟨_, call⟩ | ⟨_, _, call⟩ <;> rw [call] <;> simp
  cases effect with
  | entered permissions => exact Iff.rfl
  | created call done => exact absurd call (only.1 _)
  | reactivated call found deleted done => exact absurd call (only.1 _)
  | updated call found own done => exact absurd call (only.2.1 _ _)
  | marked done =>
    obtain ⟨permissions, roles, overrides, users⟩ := Db.updateRole_spec done
    exact Db.manages_congr member ordinary users (Db.decision_congr overrides)
      (Db.holdsCode_congr roles permissions)
  | assigned call roles allowed done => exact absurd call (only.2.2.1 _ _)
  | overridden call found allowed done => exact absurd call (only.2.2.2 _ _)
  | toggled done =>
    obtain ⟨-, permissions, roles, users⟩ := Db.withOverrides_spec done
    exact Db.manages_congr member ordinary users (Db.decision_setOverrideDeletedAt done)
      (Db.holdsCode_congr roles permissions)

end

/-! ### The actor -/

section

variable {s : State} {r : RbacRequest} {user : User}

theorem notAdmin_of_actor (member : user ∈ s.db.users) (actor : user.id = r.adminId)
    (ordinary : user.role.isAdmin = false) :
    actsAsAdmin (s.db.findUser r.tenantId r.adminId) = false := by
  refine RbacRequest.ByOrdinary.notAdmin fun other mem same => ?_
  obtain rfl : other = user :=
    List.inj_on_of_nodup_map s.db.users_nodup mem member (same.trans actor.symm)
  exact ordinary

/-- **No self-lockout.** A call that goes through leaves its ordinary actor the management of roles
exactly if a grant or another role gives it, or the role that is edited keeps it, and its own roles
are not assigned while the cache has it without. -/
theorem no_self_lockout_iff (member : user ∈ s.db.users) (actor : user.id = r.adminId)
    (ordinary : user.role.isAdmin = false) (manages : s.db.Manages user) (revises : r.Revises)
    (succeeds : r.Succeeds s) : (perform s r).db.Manages user ↔ r.KeepsManage s := by
  have notAdmin := notAdmin_of_actor member actor ordinary
  have effect := perform_effect s r
  obtain ⟨tenantId, _, now, call⟩ := r
  obtain rfl : user.id = _ := actor
  cases call with
  | createRole dto | restoreRole roleId | restoreUserOverride target code => exact revises.elim
  | updateRole roleId dto =>
    obtain ⟨view, done⟩ := of_succeeds_ignore succeeds
    rw [perform, RbacRequest.prog,
      manages_updateRole_iff member ordinary manages (updateRole_ok done)]
    simp only [RbacRequest.KeepsManage, Option.mem_map, forall_exists_index, and_imp,
      forall_apply_eq_imp_iff₂]
  | deleteRole roleId =>
    exact iff_of_true ((effect.manages_of_deletes (.inl ⟨_, rfl⟩) member ordinary).mpr manages)
      trivial
  | removeUserOverride target code =>
    exact iff_of_true
      ((effect.manages_of_deletes (.inr ⟨_, _, rfl⟩) member ordinary).mpr manages) trivial
  | syncUserRoles target ids =>
    obtain ⟨names, done⟩ := of_succeeds_ignore succeeds
    obtain ⟨known, allowed, assigned⟩ := syncUserRoles_ok done
    obtain ⟨without, unlisted⟩ := allowed notAdmin
    by_cases own : target = user.id
    · subst own
      simp only [RbacRequest.KeepsManage, unlisted rfl, false_or, forall_const]
      refine manages_setUserRoles_iff member ordinary manages (fun id mem => ?_) assigned
      obtain ⟨x, row, rfl, ofTenant⟩ := exists_of_length_eq (t := s.db.roles)
        (p := fun x => x.tenantId = tenantId) known mem
      exact without x row mem ofTenant
    · obtain ⟨-, -, overrides, users⟩ := Db.setUserRoles_spec assigned
      exact iff_of_true ((Db.manages_congr member ordinary users (Db.decision_congr overrides)
        (Db.holdsCode_setUserRoles assigned (Ne.symm own))).mpr manages) fun self =>
          absurd self own
  | setUserOverride target dto =>
    obtain ⟨_, done, -⟩ := succeeds.exists
    obtain ⟨spared, allowed, written⟩ := setUserOverride_ok (Prod.ext rfl done)
    obtain ⟨-, permissions, roles, users⟩ := Db.upsertOverride_spec written
    have other : user.id ≠ target ∨ rbacManage ≠ dto.permissionCode := by
      by_contra both
      push Not at both
      obtain ⟨own, manage⟩ := both
      cases effect : dto.effect with
      | revoke => exact spared ⟨own, manage.symm, effect⟩
      | grant => exact allowed ⟨manage.symm, effect, notAdmin⟩
    exact iff_of_true ((Db.manages_congr member ordinary users
      (Db.decision_upsertOverride written other)
      (Db.holdsCode_congr roles permissions)).mpr manages) trivial

end

namespace Desk

/-- The vice manages roles by the one role it holds. -/
def office : Db where
  users := [vice, principal]
  permissions := PERMISSION_CATALOG
  roles := .of [{ id := 1, tenantId := 7, name := "deputy" }]
  rolePermissions := [⟨1, rbacManage⟩, ⟨1, "exam.read"⟩]
  userSchoolRoles := [⟨7, 1, 1⟩]
  users_nodup := by decide
  held_exists := by decide

end Desk

/-- The vice edits its role and keeps the management of roles in it. -/
theorem no_self_lockout_exams :
    (perform ⟨Desk.office, fun _ _ => none⟩ (Desk.widen ["fees.read", rbacManage])).db.Manages
      Desk.vice :=
  (no_self_lockout_iff (by decide) rfl rfl (by decide +kernel) (by decide)
    (by decide +kernel)).mpr (by decide +kernel)

/-- The vice edits its role and leaves the management of roles out. -/
theorem locked_out_by_updateRole : ¬ ∀ (s : State) (r : RbacRequest) (user : User),
    user ∈ s.db.users → user.id = r.adminId → user.tenantId = r.tenantId →
      user.role.isAdmin = false → s.db.Manages user → r.Revises → r.Succeeds s →
        (perform s r).db.Manages user := by
  intro claim
  have manages := claim ⟨Desk.office, fun _ _ => none⟩ (Desk.widen ["exam.read"]) Desk.vice
    (by decide) rfl rfl rfl (by decide +kernel) (by decide) (by decide +kernel)
  exact absurd manages (by decide +kernel)

end Rokad.Rbac
