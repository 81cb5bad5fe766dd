import Rokad.Rbac.Operations

/-!
# Where a permission comes from

What the database gives a user depends on the tables in three ways: the base role, the codes of
the roles held (`HoldsCode`), and the last override of each code (`decision`).
`mem_permissionsOf_iff` says how. The statements come with a `_spec` that says which columns they
leave alone, and from these follows what each does to the three.
-/

namespace Rokad.Rbac

open Rokad.Base Rokad.Common

namespace Db

/-- Some role the user holds has the code. -/
def HoldsCode (db : Db) (userId : Id) (c : Code) : Prop :=
  ∃ h ∈ db.userSchoolRoles, h.userId = userId ∧ c ∈ db.codesOf h.schoolRoleId

/-- What the last override of the code does, if there is one. -/
def decision (db : Db) (userId : Id) (c : Code) : Option PermissionOverrideEffect :=
  ((db.overridesOf userId).filter fun o => o.permissionCode = c).getLast?.map (·.effect)

variable {db db' : Db} {user : User}

/-- A user of the database is found in its tenant. -/
theorem findAccess_of_mem (member : user ∈ db.users) :
    db.findAccess user.tenantId user.id = some (db.accessOf user) := by
  have only : ∀ u ∈ db.users, u.id = user.id → u = user := fun u mem same =>
    List.inj_on_of_nodup_map db.users_nodup mem member same
  have found : db.findUser user.tenantId user.id = some user := by
    cases first : db.findUser user.tenantId user.id with
    | none => exact absurd (by simp) (List.find?_eq_none.mp first user member)
    | some u =>
      have same : u.id = user.id ∧ u.tenantId = user.tenantId := by
        simpa using List.find?_some first
      rw [only u (List.mem_of_find?_eq_some first) same.1]
  rw [Db.findAccess, found, Option.map_some]

theorem mem_rolesOf_iff {userId : Id} {c : Code} :
    (∃ v ∈ db.rolesOf userId, c ∈ v.permissions) ↔ db.HoldsCode userId c := by
  constructor
  · rintro ⟨v, mem, memC⟩
    obtain ⟨h, held, view⟩ := List.mem_filterMap.mp mem
    obtain ⟨memH, userId⟩ := List.mem_filter.mp held
    obtain ⟨role, found, rfl⟩ := Option.map_eq_some_iff.mp view
    have key : role.id = h.schoolRoleId := key_of_find? found
    exact ⟨h, memH, of_decide_eq_true userId, key ▸ memC⟩
  · rintro ⟨h, memH, rfl, memC⟩
    obtain ⟨role, found⟩ := has_some_iff.mp (db.held_exists h memH)
    have key : role.id = h.schoolRoleId := key_of_find? found
    refine ⟨db.viewOf role, List.mem_filterMap.mpr ⟨h, ?_, by simp [found]⟩, ?_⟩
    · exact List.mem_filter.mpr ⟨memH, by simp⟩
    · simpa [viewOf, key] using memC

/-- An ordinary user has a code by its overrides, or where they are silent by its base role or a
role it holds. -/
theorem mem_permissionsOf_iff (member : user ∈ db.users) (ordinary : user.role.isAdmin = false)
    {c : Code} : c ∈ db.permissionsOf user.tenantId user.id ↔
      db.decision user.id c = some .grant ∨ db.decision user.id c = none ∧
        (c ∈ getBaseRolePermissions user.role ∨ db.HoldsCode user.id c) := by
  have roles : (∃ v ∈ db.rolesOf user.id, c ∈ v.permissions) ↔ db.HoldsCode user.id c :=
    mem_rolesOf_iff
  rw [permissionsOf, findAccess_of_mem member, Option.map_some, Option.getD_some,
    mem_computePermissions (show (db.accessOf user).user.role.isAdmin = false from ordinary)]
  unfold decision
  simp only [accessOf, roles]
  cases ((db.overridesOf user.id).filter fun o => o.permissionCode = c).getLast? with
  | none => simp
  | some ov => simp

/-! ### Overrides -/

theorem decision_congr {u : Id} {c : Code} (same : db'.overrides = db.overrides) :
    db'.decision u c = db.decision u c := by
  rw [decision, decision, overridesOf, overridesOf, same]

/-- An update of one override that leaves its user and its permission: what was last is last. -/
theorem decision_update {id : Id} {f : UserPermissionOverride → UserPermissionOverride}
    {keep : ∀ o, Record.key (f o) = Record.key o} {u : Id} {c : Code}
    (updated : db.overrides.update id f keep = some db'.overrides)
    (columns : ∀ o, (f o).userId = o.userId ∧ (f o).permissionCode = o.permissionCode) :
    db'.decision u c =
      ((db.overridesOf u).filter fun o => o.permissionCode = c).getLast?.map fun o =>
        if o.id = id then (f o).effect else o.effect := by
  obtain ⟨-, -, -, rows⟩ := Table.update_spec.mp updated
  have kept : ∀ o, (if Record.key o = id then f o else o).userId = o.userId ∧
      (if Record.key o = id then f o else o).permissionCode = o.permissionCode := by
    intro o
    split
    · exact columns o
    · exact ⟨rfl, rfl⟩
  have users : ((fun o => decide (o.userId = u)) ∘ fun o : UserPermissionOverride =>
      if Record.key o = id then f o else o) = fun o => decide (o.userId = u) := by
    funext o
    simp [(kept o).1]
  have codes : ((fun o => decide (o.permissionCode = c)) ∘ fun o : UserPermissionOverride =>
      if Record.key o = id then f o else o) = fun o => decide (o.permissionCode = c) := by
    funext o
    simp [(kept o).2]
  rw [decision, overridesOf, rows, List.filter_map, users, List.filter_map, codes,
    List.getLast?_map, Option.map_map]
  refine congrArg (Option.map · _) (funext fun o => ?_)
  simp only [Function.comp]
  split <;> rename_i this
  · rw [if_pos (show o.id = id from this)]
  · rw [if_neg (show ¬ o.id = id from this)]

/-- A new override counts for its user and its permission alone. -/
theorem decision_insert {row : UserPermissionOverride} {u : Id} {c : Code}
    (inserted : db.overrides.insert row = some db'.overrides) :
    db'.decision u c =
      if row.userId = u ∧ row.permissionCode = c then some row.effect
      else db.decision u c := by
  rw [decision, overridesOf, (insert_spec.mp inserted).1, List.filter_append, List.filter_append]
  by_cases mine : row.userId = u <;> by_cases code : row.permissionCode = c <;>
    simp [mine, code, decision, overridesOf]

/-! ### Codes of roles -/

theorem mem_codesOf {roleId : Id} {c : Code} :
    c ∈ db.codesOf roleId ↔ ⟨roleId, c⟩ ∈ db.rolePermissions := by
  unfold codesOf
  constructor
  · intro mem
    obtain ⟨rp, held, rfl⟩ := List.mem_map.mp mem
    obtain ⟨row, is⟩ := List.mem_filter.mp held
    obtain rfl : rp.schoolRoleId = roleId := of_decide_eq_true is
    exact row
  · intro mem
    exact List.mem_map.mpr ⟨_, List.mem_filter.mpr ⟨mem, by simp⟩, rfl⟩

theorem mem_replacePermissions {rows : List RolePermission} {id roleId : Id} {codes : List Code}
    {c : Code} : ⟨roleId, c⟩ ∈ replacePermissions rows id codes ↔
      if roleId = id then c ∈ codes else ⟨roleId, c⟩ ∈ rows := by
  unfold replacePermissions
  by_cases same : roleId = id
  · subst same
    simp
  · simp [same, Ne.symm same]

theorem holdsCode_congr {u : Id} {c : Code} (roles : db'.userSchoolRoles = db.userSchoolRoles)
    (permissions : db'.rolePermissions = db.rolePermissions) :
    db'.HoldsCode u c ↔ db.HoldsCode u c := by
  simp only [HoldsCode, mem_codesOf, roles, permissions]

/-! ### Statements that went through -/

theorem createRole_spec {row : SchoolRole} {codes : List Code}
    (done : db.createRole row codes = .ok db') :
    (∃ roles, db.roles.insert row = some roles) ∧
      db'.rolePermissions = db.rolePermissions ++ (codes.map fun c => ⟨row.id, c⟩) ∧
      db'.userSchoolRoles = db.userSchoolRoles ∧ db'.overrides = db.overrides ∧
      db'.users = db.users := by
  unfold createRole at done
  split at done
  · cases done
  · rename_i roles inserted
    cases done
    exact ⟨⟨roles, inserted⟩, rfl, rfl, rfl, rfl⟩

theorem updateRole_spec {id : Id} {f : SchoolRole → SchoolRole}
    {keep : ∀ r, Record.key (f r) = Record.key r} {codes : Option (List Code)}
    (done : db.updateRole id f keep codes = .ok db') :
    db'.rolePermissions = codes.elim db.rolePermissions (replacePermissions db.rolePermissions id) ∧
      db'.userSchoolRoles = db.userSchoolRoles ∧ db'.overrides = db.overrides ∧
      db'.users = db.users := by
  unfold updateRole at done
  split at done
  · cases done
  · cases done
    exact ⟨rfl, rfl, rfl, rfl⟩

theorem exists_of_updateRole {id : Id} {f : SchoolRole → SchoolRole}
    {keep : ∀ r, Record.key (f r) = Record.key r} {codes : Option (List Code)}
    (done : db.updateRole id f keep codes = .ok db') :
    ∃ roles, db.roles.update id f keep = some roles := by
  unfold updateRole at done
  split at done
  · cases done
  · exact ⟨_, ‹_›⟩

theorem updateRole_of_update {id : Id} {f : SchoolRole → SchoolRole}
    {keep : ∀ r, Record.key (f r) = Record.key r} {roles : Table SchoolRole}
    (updated : db.roles.update id f keep = some roles) (codes : Option (List Code)) :
    ∃ db', db.updateRole id f keep codes = .ok db' := by
  unfold updateRole
  split
  · rename_i missing
    rw [updated] at missing
    cases missing
  · exact ⟨_, rfl⟩

theorem setUserRoles_spec {tenantId userId : Id} {ids : List Id}
    (done : db.setUserRoles tenantId userId ids = .ok db') :
    db'.rolePermissions = db.rolePermissions ∧
      db'.userSchoolRoles = (db.userSchoolRoles.filter fun h =>
        ¬ (h.tenantId = tenantId ∧ h.userId = userId)) ++
          (ids.map fun id => ⟨tenantId, userId, id⟩) ∧
      db'.overrides = db.overrides ∧ db'.users = db.users := by
  unfold setUserRoles at done
  split at done
  · cases done
    exact ⟨rfl, rfl, rfl, rfl⟩
  · cases done

theorem withOverrides_spec {overrides : Option (Table UserPermissionOverride)}
    {problem : DatabaseProblem} (done : db.withOverrides overrides problem = .ok db') :
    overrides = some db'.overrides ∧ db'.rolePermissions = db.rolePermissions ∧
      db'.userSchoolRoles = db.userSchoolRoles ∧ db'.users = db.users := by
  cases overrides with
  | none => cases done
  | some overrides =>
    cases done
    exact ⟨rfl, rfl, rfl, rfl⟩

theorem upsertOverride_spec {tenantId userId : Id} {code : Code}
    {effect : PermissionOverrideEffect} {reason : Option String} {grantedById : Id}
    (done : db.upsertOverride tenantId userId code effect reason grantedById = .ok db') :
    ((∃ o, db.findOverride tenantId userId code = some o ∧
        db.overrides.update o.id (overwrite effect reason grantedById)
          (key_overwrite effect reason grantedById) = some db'.overrides) ∨
      db.overrides.insert
        { id := db.overrides.fresh, tenantId, userId, permissionCode := code, effect, reason,
          grantedById } = some db'.overrides) ∧
      db'.rolePermissions = db.rolePermissions ∧ db'.userSchoolRoles = db.userSchoolRoles ∧
      db'.users = db.users := by
  unfold upsertOverride at done
  split at done
  · cases done
  · split at done
    · rename_i o found
      obtain ⟨updated, kept⟩ := withOverrides_spec done
      exact ⟨Or.inl ⟨o, found, updated⟩, kept⟩
    · obtain ⟨inserted, kept⟩ := withOverrides_spec done
      exact ⟨Or.inr inserted, kept⟩

/-! ### What they leave alone -/

/-- Nobody holds a role that was just created. -/
theorem holdsCode_createRole {row : SchoolRole} {codes : List Code} {userId : Id} {c : Code}
    (done : db.createRole row codes = .ok db') :
    db'.HoldsCode userId c ↔ db.HoldsCode userId c := by
  obtain ⟨⟨_, inserted⟩, permissions, roles, -, -⟩ := createRole_spec done
  simp only [HoldsCode, mem_codesOf, permissions, roles, List.mem_append, List.mem_map]
  constructor
  · rintro ⟨h, mem, is, before | ⟨_, -, same⟩⟩
    · exact ⟨h, mem, is, before⟩
    · obtain ⟨role, found⟩ := has_some_iff.mp (db.held_exists h mem)
      have held : row.id = h.schoolRoleId := congrArg RolePermission.schoolRoleId same
      have key : Record.key role = h.schoolRoleId := key_of_find? found
      exact absurd (key.trans held.symm)
        ((insert_spec.mp inserted).2.1 role (mem_of_find? found))
  · rintro ⟨h, mem, is, before⟩
    exact ⟨h, mem, is, Or.inl before⟩

/-- The roles of other users stay. -/
theorem holdsCode_setUserRoles {tenantId target : Id} {ids : List Id} {userId : Id} {c : Code}
    (done : db.setUserRoles tenantId target ids = .ok db') (other : userId ≠ target) :
    db'.HoldsCode userId c ↔ db.HoldsCode userId c := by
  obtain ⟨permissions, held, -, -⟩ := setUserRoles_spec done
  simp only [HoldsCode, mem_codesOf, permissions, held, List.mem_append, List.mem_filter,
    List.mem_map, decide_eq_true_eq]
  constructor
  · rintro ⟨h, ⟨before, -⟩ | ⟨id, -, rfl⟩, is, code⟩
    · exact ⟨h, before, is, code⟩
    · exact absurd is.symm other
  · rintro ⟨h, before, is, code⟩
    exact ⟨h, Or.inl ⟨before, fun own => other (is.symm.trans own.2)⟩, is, code⟩

/-- The overrides of other users, and those of other codes, stay. -/
theorem decision_upsertOverride {tenantId target : Id} {code : Code}
    {effect : PermissionOverrideEffect} {reason : Option String} {grantedById : Id} {userId : Id}
    {c : Code} (done : db.upsertOverride tenantId target code effect reason grantedById = .ok db')
    (other : userId ≠ target ∨ c ≠ code) : db'.decision userId c = db.decision userId c := by
  rcases (upsertOverride_spec done).1 with ⟨o, found, updated⟩ | inserted
  · rw [decision_update updated fun _ => ⟨rfl, rfl⟩, decision]
    cases last : ((db.overridesOf userId).filter fun x => x.permissionCode = c).getLast? with
    | none => rfl
    | some x =>
      obtain ⟨ofUser, ofCode⟩ := List.mem_filter.mp (List.mem_of_getLast? last)
      obtain ⟨row, is⟩ := List.mem_filter.mp ofUser
      have differ : x.id ≠ o.id := by
        intro same
        obtain rfl : x = o :=
          db.overrides.eq_of_key_eq row (List.mem_of_find?_eq_some found) same
        have owner : x.tenantId = tenantId ∧ x.userId = target ∧ x.permissionCode = code := by
          simpa using List.find?_some (show db.overrides.rows.find? _ = some x from found)
        rcases other with user | different
        · exact user ((of_decide_eq_true is).symm.trans owner.2.1)
        · exact different ((of_decide_eq_true ofCode).symm.trans owner.2.2)
      simp [differ]
  · rw [decision_insert inserted, if_neg]
    rintro ⟨rfl, rfl⟩
    simp at other

/-- When an override was deleted does not matter. -/
theorem decision_setOverrideDeletedAt {id : Id} {deletedAt : Option Instant} {u : Id}
    {c : Code} (done : db.setOverrideDeletedAt id deletedAt = .ok db') :
    db'.decision u c = db.decision u c := by
  obtain ⟨updated, -, -, -⟩ := withOverrides_spec done
  rw [decision_update updated fun _ => ⟨rfl, rfl⟩, decision]
  simp only [setDeletedAt, ite_self]

end Db

end Rokad.Rbac
