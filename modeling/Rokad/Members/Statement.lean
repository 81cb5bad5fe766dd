import Rokad.Auth.Statement

/-!
# Statements of the member service

The rows the service adds, changes and deletes: users, profiles and the links between parents and
students.
-/

namespace Rokad.Auth

open Rokad.Base Rokad.Common

/-- The columns an update of a student sets; an absent one keeps its value. -/
structure StudentUpdate where
  studentCode : Option String := none
  (nationalCode fatherFullName fatherPhone motherFullName
    motherPhone : Option (Option String) := none)

def StudentUpdate.apply (data : StudentUpdate) (p : StudentProfile) : StudentProfile :=
  { p with
    studentCode := data.studentCode.getD p.studentCode
    nationalCode := data.nationalCode.getD p.nationalCode
    fatherFullName := data.fatherFullName.getD p.fatherFullName
    fatherPhone := data.fatherPhone.getD p.fatherPhone
    motherFullName := data.motherFullName.getD p.motherFullName
    motherPhone := data.motherPhone.getD p.motherPhone }

theorem StudentUpdate.key_apply (data : StudentUpdate) (p : StudentProfile) :
    Record.key (data.apply p) = Record.key p := rfl

namespace Db

/-- The id of a new row is the table's to choose. -/
def createUser (db : Db) (row : User) : Result Db :=
  if present : db.tenants.has (some row.tenantId) = true then
    match inserted : db.users.insert { row with id := db.users.fresh } with
    | none => .error (.database .uniqueConstraint)
    | some users => .ok
        { db with
          users
          foreignKeys :=
            { db.foreignKeys with
              user_tenant := db.foreignKeys.user_tenant.insert_child inserted present
              family_user := db.foreignKeys.family_user.insert_parent inserted
              session_user := db.foreignKeys.session_user.insert_parent inserted
              student_user := db.foreignKeys.student_user.insert_parent inserted
              teacher_user := db.foreignKeys.teacher_user.insert_parent inserted
              coach_user := db.foreignKeys.coach_user.insert_parent inserted
              staff_user := db.foreignKeys.staff_user.insert_parent inserted
              parent_user := db.foreignKeys.parent_user.insert_parent inserted } }
  else .error (.database .foreignKey)

def createStudentProfile (db : Db) (row : StudentProfile) : Result Db :=
  if present : db.users.has (some row.userId) = true then
    match inserted : db.students.insert { row with id := db.students.fresh } with
    | none => .error (.database .uniqueConstraint)
    | some students => .ok
        { db with
          students
          foreignKeys :=
            { db.foreignKeys with
              student_user := db.foreignKeys.student_user.insert_child inserted present
              link_student := db.foreignKeys.link_student.insert_parent inserted } }
  else .error (.database .foreignKey)

def updateStudentProfile (db : Db) (id : Id) (data : StudentUpdate) : Result Db :=
  match updated : db.students.update id data.apply data.key_apply with
  | none => .error (.database
      (if db.students.has (some id) then .uniqueConstraint else .recordNotFound))
  | some students => .ok
      { db with
        students
        foreignKeys :=
          { db.foreignKeys with
            student_user := db.foreignKeys.student_user.update_child updated fun _ found => found
            link_student := db.foreignKeys.link_student.update_parent updated } }

def createTeacherProfile (db : Db) (row : Profile) : Result Db :=
  if present : db.users.has (some row.userId) = true then
    match inserted : db.teachers.insert { row with id := db.teachers.fresh } with
    | none => .error (.database .uniqueConstraint)
    | some teachers => .ok
        { db with
          teachers
          foreignKeys :=
            { db.foreignKeys with
              teacher_user := db.foreignKeys.teacher_user.insert_child inserted present } }
  else .error (.database .foreignKey)

def createParentProfile (db : Db) (row : Profile) : Result Db :=
  if present : db.users.has (some row.userId) = true then
    match inserted : db.parents.insert { row with id := db.parents.fresh } with
    | none => .error (.database .uniqueConstraint)
    | some parents => .ok
        { db with
          parents
          foreignKeys :=
            { db.foreignKeys with
              parent_user := db.foreignKeys.parent_user.insert_child inserted present
              link_parent := db.foreignKeys.link_parent.insert_parent inserted } }
  else .error (.database .foreignKey)

def createLink (db : Db) (row : ParentStudentLink) : Result Db :=
  if present : db.parents.has (some row.parentId) = true ∧
      db.students.has (some row.studentId) = true then
    match inserted : db.links.insert { row with id := db.links.fresh } with
    | none => .error (.database .uniqueConstraint)
    | some links => .ok
        { db with
          links
          foreignKeys :=
            { db.foreignKeys with
              link_parent := db.foreignKeys.link_parent.insert_child inserted present.1
              link_student := db.foreignKeys.link_student.insert_child inserted present.2 } }
  else .error (.database .foreignKey)

/-! ### Deletions -/

/-- The links of the student go with the profile. -/
def deleteStudentProfile (db : Db) (id : Id) : Db :=
  let gone : StudentProfile → Bool := fun p => p.id = id
  let orphan := Table.orphaned (fun l : ParentStudentLink => some l.studentId) db.students gone
  { db with
    students := db.students.deleteMany gone
    links := db.links.deleteMany orphan
    foreignKeys :=
      { db.foreignKeys with
        student_user := db.foreignKeys.student_user.deleteMany_child gone
        link_parent := db.foreignKeys.link_parent.deleteMany_child orphan
        link_student := db.foreignKeys.link_student.cascade gone } }

/-- Families and their tokens, sessions and profiles and their links go with the user. -/
def deleteUser (db : Db) (id : Id) : Db :=
  let gone : User → Bool := fun u => u.id = id
  let family := Table.orphaned (fun f : RefreshTokenFamily => some f.userId) db.users gone
  let student := Table.orphaned (fun p : StudentProfile => some p.userId) db.users gone
  let profile := Table.orphaned (fun p : Profile => some p.userId) db.users gone
  let ofParent := Table.orphaned (fun l : ParentStudentLink => some l.parentId) db.parents profile
  let ofStudent := Table.orphaned (fun l : ParentStudentLink => some l.studentId) db.students student
  { db with
    users := db.users.deleteMany gone
    families := db.families.deleteMany family
    tokens := db.tokens.deleteMany
      (Table.orphaned (fun k => some k.familyId) db.families family)
    sessions := db.sessions.deleteMany (Table.orphaned (fun s => some s.userId) db.users gone)
    students := db.students.deleteMany student
    teachers := db.teachers.deleteMany profile
    coaches := db.coaches.deleteMany profile
    staff := db.staff.deleteMany profile
    parents := db.parents.deleteMany profile
    links := (db.links.deleteMany ofParent).deleteMany ofStudent
    foreignKeys :=
      { user_tenant := db.foreignKeys.user_tenant.deleteMany_child gone
        family_user := db.foreignKeys.family_user.cascade gone
        token_family := db.foreignKeys.token_family.cascade family
        session_user := db.foreignKeys.session_user.cascade gone
        student_user := db.foreignKeys.student_user.cascade gone
        teacher_user := db.foreignKeys.teacher_user.cascade gone
        coach_user := db.foreignKeys.coach_user.cascade gone
        staff_user := db.foreignKeys.staff_user.cascade gone
        parent_user := db.foreignKeys.parent_user.cascade gone
        link_parent := (db.foreignKeys.link_parent.cascade profile).deleteMany_child ofStudent
        link_student :=
          (db.foreignKeys.link_student.deleteMany_child ofParent).cascade student } }

/-! ### What they did -/

variable {db db' : Db}

theorem createUser_ok {row : User} (done : db.createUser row = .ok db') :
    db.users.insert { row with id := db.users.fresh } = some db'.users ∧
      db'.toTables = { db.toTables with users := db'.users } := by
  unfold createUser at done
  split at done
  · split at done
    · cases done
    · rename_i users inserted
      cases done
      exact ⟨inserted, rfl⟩
  · cases done

theorem createStudentProfile_ok {row : StudentProfile}
    (done : db.createStudentProfile row = .ok db') :
    db'.toTables = { db.toTables with students := db'.students } := by
  unfold createStudentProfile at done
  split at done
  · split at done
    · cases done
    · cases done
      rfl
  · cases done

theorem createStudentProfile_inserted {row : StudentProfile} (done : db.createStudentProfile row = .ok db') :
    db.students.insert { row with id := db.students.fresh } = some db'.students := by
  unfold createStudentProfile at done
  split at done
  · split at done
    · cases done
    · rename_i students inserted
      cases done
      exact inserted
  · cases done

theorem updateStudentProfile_ok {id : Id} {data : StudentUpdate}
    (done : db.updateStudentProfile id data = .ok db') :
    db'.toTables = { db.toTables with students := db'.students } := by
  unfold updateStudentProfile at done
  split at done
  · cases done
  · cases done
    rfl

theorem updateStudentProfile_updated {id : Id} {data : StudentUpdate}
    (done : db.updateStudentProfile id data = .ok db') :
    db.students.update id data.apply data.key_apply = some db'.students := by
  unfold updateStudentProfile at done
  split at done
  · cases done
  · rename_i students updated
    cases done
    exact updated

theorem createTeacherProfile_ok {row : Profile} (done : db.createTeacherProfile row = .ok db') :
    db'.toTables = { db.toTables with teachers := db'.teachers } := by
  unfold createTeacherProfile at done
  split at done
  · split at done
    · cases done
    · cases done
      rfl
  · cases done

theorem createParentProfile_ok {row : Profile} (done : db.createParentProfile row = .ok db') :
    db'.toTables = { db.toTables with parents := db'.parents } := by
  unfold createParentProfile at done
  split at done
  · split at done
    · cases done
    · cases done
      rfl
  · cases done

theorem createParentProfile_inserted {row : Profile} (done : db.createParentProfile row = .ok db') :
    db.parents.insert { row with id := db.parents.fresh } = some db'.parents := by
  unfold createParentProfile at done
  split at done
  · split at done
    · cases done
    · rename_i parents inserted
      cases done
      exact inserted
  · cases done

theorem createLink_ok {row : ParentStudentLink} (done : db.createLink row = .ok db') :
    db'.toTables = { db.toTables with links := db'.links } := by
  unfold createLink at done
  split at done
  · split at done
    · cases done
    · cases done
      rfl
  · cases done

theorem createLink_inserted {row : ParentStudentLink} (done : db.createLink row = .ok db') :
    db.links.insert { row with id := db.links.fresh } = some db'.links := by
  unfold createLink at done
  split at done
  · split at done
    · cases done
    · rename_i links inserted
      cases done
      exact inserted
  · cases done

end Db

end Rokad.Auth
