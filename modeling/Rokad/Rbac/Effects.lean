import Rokad.Rbac.Grants
import Rokad.Rbac.Service

/-!
# What a call does

`Effect` lists what a call on its own can do to the database, with what the call has checked
before, and `perform_effect` says that there is nothing else. What a run of calls does to the
permissions of the users is a case analysis of it.
-/

namespace Rokad.Rbac

open Rokad.Base Rokad.Common

/-! ### Calls -/

def Db.withPermissions (db : Db) (permissions : List Code) : Db := { db with permissions }

/-- The database after the catalogue was entered. -/
def Db.catalogued (db : Db) : Db :=
  db.withPermissions (db.permissions ++ PERMISSION_CATALOG.filter (· ∉ db.permissions))

/-- The existing permissions among those given. -/
def Db.existing (db : Db) (codes : List Code) : List Code := db.catalogued.findPermissions codes

inductive Effect (db : Db) (r : RbacRequest) : Db → Prop
  /-- At most the catalogue was entered. -/
  | entered (permissions : List Code) : Effect db r (db.withPermissions permissions)
  | created {dto db'} (call : r.call = .createRole dto)
      (done : db.catalogued.createRole
        { id := db.roles.fresh, tenantId := r.tenantId, name := trim dto.name,
          description := dto.description.map trim } (db.existing dto.permissionCodes) = .ok db') :
      Effect db r db'
  | reactivated {dto role db'} (call : r.call = .createRole dto)
      (found : db.roles.rows.find? (fun x => x.tenantId = r.tenantId ∧ x.name = trim dto.name) =
        some role) (deleted : role.deletedAt.isSome)
      (done : db.catalogued.updateRole role.id (reactivated (dto.description.map trim))
        (fun _ => rfl) (some (db.existing dto.permissionCodes)) = .ok db') : Effect db r db'
  | updated {roleId dto role db'} (call : r.call = .updateRole roleId dto)
      (found : db.roles.find? roleId = some role) (own : role.tenantId = r.tenantId)
      (done : db.updateRole roleId (renamed ((truthy dto.name).map trim) (dto.description.map trim))
        (fun _ => rfl) (dto.permissionCodes.map db.findPermissions) = .ok db') : Effect db r db'
  | marked {roleId deletedAt db'}
      (done : db.updateRole roleId (withDeletedAt deletedAt) (fun _ => rfl) none = .ok db') :
      Effect db r db'
  | assigned {target ids db'} (call : r.call = .syncUserRoles target ids)
      (roles : ((db.roles.rows.filter fun x => x.id ∈ ids ∧ x.tenantId = r.tenantId)).length =
        ids.length)
      (allowed : actsAsAdmin (db.findUser r.tenantId r.adminId) = false →
        ∀ x ∈ db.roles.rows, x.id ∈ ids → x.tenantId = r.tenantId → rbacManage ∉ db.codesOf x.id)
      (done : db.setUserRoles r.tenantId target ids = .ok db') : Effect db r db'
  | overridden {target dto user db'} (call : r.call = .setUserOverride target dto)
      (found : db.findUser r.tenantId target = some user)
      (allowed : actsAsAdmin (db.findUser r.tenantId r.adminId) = false →
        dto.permissionCode = rbacManage → dto.effect = .revoke)
      (done : db.upsertOverride r.tenantId target dto.permissionCode dto.effect
        (dto.reason.map trim) r.adminId = .ok db') : Effect db r db'
  | toggled {id deletedAt db'} (done : db.setOverrideDeletedAt id deletedAt = .ok db') :
      Effect db r db'

variable {s : State} {r : RbacRequest}

theorem Effect.same : Effect s.db r s.db := .entered s.db.permissions

theorem run_ignore {α : Type} (p : RbacProg α) (s : State) :
    ((ignore p).run exec s).1 = (p.run exec s).1 := by
  unfold ignore
  rw [Prog.run_bind]
  cases p.run exec s with
  | mk s' result => cases result <;> rfl

theorem run_createMissing {codes : List Code} (s : State) (nodup : codes.Nodup)
    (missing : ∀ c ∈ codes, c ∉ s.db.permissions) :
    (createMissing codes).run exec s =
      ({ s with db := s.db.withPermissions (s.db.permissions ++ codes) }, .ok ()) := by
  induction codes generalizing s with
  | nil => simp [createMissing, Db.withPermissions]
  | cons code rest ih =>
    obtain ⟨absent, nodup⟩ := List.nodup_cons.mp nodup
    have new := missing code List.mem_cons_self
    simp only [createMissing, Prog.call_bind, Prog.run_step, exec, State.write, if_neg new]
    rw [ih]
    · simp [Db.withPermissions]
    · exact nodup
    · intro c mem
      have before := missing c (List.mem_cons_of_mem _ mem)
      have differ : c ≠ code := fun same => absent (same ▸ mem)
      simp [before, differ]

theorem run_ensureCatalogPermissionsInDb (s : State) :
    ensureCatalogPermissionsInDb.run exec s = ({ s with db := s.db.catalogued }, .ok ()) := by
  have nodup : PERMISSION_CATALOG.Nodup := by decide
  exact run_createMissing s (nodup.filter _) fun c mem =>
    of_decide_eq_true (List.mem_filter.mp mem).2

variable {db : Db} {s' : State} {α β : Type}

theorem effect_of_demand {cond : Prop} [Decidable cond] {e : Failure} {rest : Unit → RbacProg α}
    (same : s'.db = db) (holds : cond → Effect db r ((rest ()).run exec s').1.db) :
    Effect db r ((demand cond e >>= rest).run exec s').1.db := by
  unfold demand require
  by_cases this : cond
  · rw [if_pos this]
    exact holds this
  · rw [if_neg this]
    exact same ▸ .same

theorem effect_of_found {found : Option β} {message : String} {rest : β → RbacProg α}
    (same : s'.db = db) (holds : ∀ b, found = some b → Effect db r ((rest b).run exec s').1.db) :
    Effect db r ((orNotFound found message >>= rest).run exec s').1.db := by
  unfold orNotFound orFail
  cases found with
  | none => exact same ▸ .same
  | some b => exact holds b rfl

/-- A program that leaves the database alone, and then a rest. -/
theorem effect_of_quiet {p : RbacProg β} {rest : β → RbacProg α}
    (kept : (p.run exec s').1.db = db)
    (holds : ∀ b s'', s''.db = db → Effect db r ((rest b).run exec s'').1.db) :
    Effect db r ((p >>= rest).run exec s').1.db := by
  rw [Prog.run_bind]
  cases run : p.run exec s' with
  | mk s'' result =>
    have same : s''.db = db := by rw [← kept, run]
    cases result with
    | ok b => exact holds b s'' same
    | error e => exact same ▸ .same

/-- A statement, and then a rest that leaves the database alone. -/
theorem effect_of_write {result : Result Db} {rest : Unit → RbacProg α}
    (kept : Effect db r s'.db) (quiet : ∀ s : State, ((rest ()).run exec s).1.db = s.db)
    (done : ∀ db', result = .ok db' → Effect db r db') :
    Effect db r ((Prog.ret (s'.write result).2 >>= rest).run exec (s'.write result).1).1.db := by
  cases result with
  | ok db' =>
    have unfolded : ((Prog.ret (s'.write (.ok db')).2 >>= rest).run exec
        (s'.write (.ok db')).1).1.db = db' := quiet _
    rw [unfolded]
    exact done db' rfl
  | error e => exact kept

theorem createRole_effect {dto : CreateSchoolRoleDto} (call : r.call = .createRole dto) :
    Effect s.db r ((createRole r.tenantId dto).run exec s).1.db := by
  unfold createRole
  simp only [Prog.call_bind, Prog.run_step, exec]
  split
  · rename_i existing found
    refine effect_of_demand rfl fun deleted => ?_
    rw [Prog.run_bind, run_ensureCatalogPermissionsInDb]
    exact effect_of_write (.entered _) (fun _ => rfl) fun db' done =>
      .reactivated call found deleted done
  · rw [Prog.run_bind, run_ensureCatalogPermissionsInDb]
    simp only [Prog.run_step, exec]
    cases done : s.db.catalogued.createRole
        { id := s.db.roles.fresh, tenantId := r.tenantId, name := trim dto.name,
          description := dto.description.map trim } (s.db.existing dto.permissionCodes) with
    | ok db =>
      have effect := Effect.created call done
      simp only [Db.existing, Db.catalogued, Db.withPermissions] at done ⊢
      simp only [done]
      exact effect
    | error e =>
      simp only [Db.existing, Db.catalogued, Db.withPermissions] at done ⊢
      simp only [done]
      exact .entered _

theorem invalidate_db (tenantId : Id) (userIds : List Id) (op : Op)
    (reads : ∀ s, (exec op s).1.db = s.db) (s : State) :
    (((Prog.forEach userIds fun userId => invalidateUserPermissionsCache tenantId userId) >>=
      fun _ => query op).run exec s).1.db = s.db := by
  induction userIds generalizing s with
  | nil => exact reads s
  | cons userId rest ih => exact ih (s.setCache tenantId userId none)

theorem checkDuplicate_db (tenantId roleId : Id) (name : Option String) (role : SchoolRole)
    (given : Option String) (s : State) :
    ((checkDuplicate tenantId roleId name role given).run exec s).1.db = s.db := by
  unfold checkDuplicate
  split
  · rfl
  · split <;> rfl

theorem updateRole_effect {roleId : Id} {dto : UpdateSchoolRoleDto}
    (call : r.call = .updateRole roleId dto) :
    Effect s.db r ((updateRole r.tenantId roleId dto).run exec s).1.db := by
  refine effect_of_found rfl fun holders known => ?_
  obtain ⟨role, row, rfl⟩ := Option.map_eq_some_iff.mp known
  obtain ⟨found, own⟩ := Option.filter_eq_some_iff.mp row
  refine effect_of_quiet (checkDuplicate_db _ _ _ _ _ _) fun _ s' same => ?_
  refine effect_of_write (same ▸ .same) (invalidate_db _ _ _ fun _ => rfl) fun db' done => ?_
  rw [same] at done
  exact .updated call found (by simpa using own) done

theorem deleteRole_effect {roleId : Id} :
    Effect s.db r ((deleteRole r.tenantId roleId r.now).run exec s).1.db := by
  refine effect_of_found rfl fun holders _ => effect_of_demand rfl fun _ =>
    effect_of_demand rfl fun _ => ?_
  exact effect_of_write .same (fun _ => rfl) fun db' done => .marked done

theorem restoreRole_effect {roleId : Id} :
    Effect s.db r ((restoreRole r.tenantId roleId).run exec s).1.db := by
  refine effect_of_found rfl fun role _ => ?_
  exact effect_of_write .same (fun _ => rfl) fun db' done => .marked done

theorem checkSelfLockout_db (tenantId adminId target : Id) (adminUser : Option User)
    (grants : Bool) (s : State) :
    ((checkSelfLockout tenantId adminId target adminUser grants).run exec s).1.db = s.db := by
  unfold checkSelfLockout hasPermission
  split
  · simp only [Prog.run_bind, run_getUserPermissions]
    exact s.read_db _ _
  · rfl

theorem syncUserRoles_effect {target : Id} {ids : List Id}
    (call : r.call = .syncUserRoles target ids) :
    Effect s.db r ((syncUserRoles r.tenantId r.adminId target ids).run exec s).1.db := by
  refine effect_of_found rfl fun access _ => effect_of_demand rfl fun roles =>
    effect_of_demand rfl fun allowed => ?_
  refine effect_of_quiet (checkSelfLockout_db _ _ _ _ _ _) fun _ s' same => ?_
  refine effect_of_write (same ▸ .same) (fun _ => rfl) fun db' done => ?_
  rw [same] at done
  refine .assigned call ((List.length_map s.db.viewOf).symm.trans roles)
    (fun notAdmin x mem among own manage => ?_) done
  refine allowed ⟨List.any_eq_true.mpr ⟨s.db.viewOf x, ?_, ?_⟩, notAdmin⟩
  · exact List.mem_map_of_mem (List.mem_filter.mpr ⟨mem, by simp [among, own]⟩)
  · exact List.contains_iff_mem.mpr manage

theorem setUserOverride_effect {target : Id} {dto : SetUserOverrideDto}
    (call : r.call = .setUserOverride target dto) :
    Effect s.db r ((setUserOverride r.tenantId r.adminId target dto).run exec s).1.db := by
  refine effect_of_found rfl fun user found => effect_of_demand rfl fun _ =>
    effect_of_demand rfl fun allowed => ?_
  refine effect_of_write .same (fun _ => rfl) fun db' done =>
    .overridden call found (fun notAdmin manage => ?_) done
  cases effect : dto.effect with
  | revoke => rfl
  | grant => exact absurd ⟨manage, effect, notAdmin⟩ allowed

theorem removeUserOverride_effect {target : Id} {code : Code} :
    Effect s.db r ((removeUserOverride r.tenantId target code r.now).run exec s).1.db := by
  unfold removeUserOverride
  simp only [Prog.call_bind, Prog.run_step, exec]
  cases s.db.findOverride r.tenantId target code with
  | none => exact .same
  | some o => exact effect_of_write .same (fun _ => rfl) fun db' done => .toggled done

theorem restoreUserOverride_effect {target : Id} {code : Code} :
    Effect s.db r ((restoreUserOverride r.tenantId target code).run exec s).1.db := by
  refine effect_of_found rfl fun o _ => ?_
  exact effect_of_write .same (fun _ => rfl) fun db' done => .toggled done

/-- **Inversion.** Whatever a call does to the database is one of the effects. -/
theorem perform_effect (s : State) (r : RbacRequest) : Effect s.db r (perform s r).db := by
  unfold perform RbacRequest.prog
  cases call : r.call with
  | createRole dto =>
    rw [run_ignore]
    exact createRole_effect call
  | updateRole roleId dto =>
    rw [run_ignore]
    exact updateRole_effect call
  | deleteRole roleId =>
    rw [run_ignore]
    exact deleteRole_effect
  | restoreRole roleId =>
    rw [run_ignore]
    exact restoreRole_effect
  | syncUserRoles target ids =>
    rw [run_ignore]
    exact syncUserRoles_effect call
  | setUserOverride target dto => exact setUserOverride_effect call
  | removeUserOverride target code =>
    rw [run_ignore]
    exact removeUserOverride_effect
  | restoreUserOverride target code => exact restoreUserOverride_effect

/-- No call changes the users. -/
theorem Effect.users {db' : Db} (effect : Effect db r db') : db'.users = db.users := by
  cases effect with
  | entered permissions => rfl
  | created call done => exact (Db.createRole_spec done).2.2.2.2
  | reactivated call found deleted done | updated call found own done | marked done =>
    exact (Db.updateRole_spec done).2.2.2
  | assigned call roles allowed done => exact (Db.setUserRoles_spec done).2.2.2
  | overridden call found allowed done => exact (Db.upsertOverride_spec done).2.2.2
  | toggled done => exact (Db.withOverrides_spec done).2.2.2

end Rokad.Rbac
