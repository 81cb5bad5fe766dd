import Rokad.Members.CodesUnique

/-!
# Parents log in with the code of their child

Whoever knows the national code of a student can tell the user name and the password of the account
the parents were given. `syncParentForStudent` writes both to an account it creates or finds linked
to the student, and only the password to one it finds by the phone or the user name; it looks for no
other student the account is tied to, and at the role only where the phone is in question.

So the parents of a student are locked out where an account they share is given the credentials of
another child, and where the account that was found has another user name. They keep their access
in a run in which neither happens (`Fits`).
-/

namespace Rokad.Members

open Rokad.Base Rokad.Auth
open Rokad.Common (Id)

/-! ### Accounts of parents -/

/-- The student has a national code. -/
def Coded (p : StudentProfile) : Prop := normalizeNationalCode p.nationalCode ≠ ""
deriving Decidable

/-- The user name of the parents of a student with a code, and their password. -/
def parentName (p : StudentProfile) : String := "p" ++ stripLeadingZero p.nationalCode

/-- The user is tied to the student. -/
def LinkedTo (t : Tables) (p : StudentProfile) (userId : Id) : Prop :=
  ∃ l ∈ t.links.rows, l.studentId = p.id ∧
    ∃ parent ∈ t.parents.rows, parent.id = l.parentId ∧ parent.userId = userId
deriving Decidable

/-- A parent gets in with the credentials that the code yields. -/
def LetsIn (x : MemberHost) (user : User) (p : StudentProfile) : Prop :=
  user.role = .parent ∧ ∀ phone draws,
    user.username = some (generateParentCredentials p.nationalCode phone draws).username ∧
    ∃ salt, user.passwordHash =
      x.hash salt (generateParentCredentials p.nationalCode phone draws).finalPassword

theorem letsIn_iff {x : MemberHost} {user : User} {p : StudentProfile} (coded : Coded p) :
    LetsIn x user p ↔ user.role = .parent ∧ user.username = some (parentName p) ∧
      ∃ salt, user.passwordHash = x.hash salt (parentName p) := by
  unfold LetsIn parentName
  simp only [generateParentCredentials_of_code coded]
  exact ⟨fun ⟨role, creds⟩ => ⟨role, creds none { now := 0, studentCode := 0 }⟩,
    fun ⟨role, creds⟩ => ⟨role, fun _ _ => creds⟩⟩

/-- Every student of the school who has a code has one link, to an account that lets the parents in;
the student whose parents are still to be given an account is left out. -/
structure ParentsLogIn (x : MemberHost) (A : Id) (pending : Option Id) (t : Tables) : Prop where
  linked : ∀ p ∈ t.students.rows, p.tenantId = A → Coded p → pending ≠ some p.id →
    ∃ l ∈ t.links.rows, l.studentId = p.id
  one : ∀ p ∈ t.students.rows, p.tenantId = A → ∀ l ∈ t.links.rows, ∀ l' ∈ t.links.rows,
    l.studentId = p.id → l'.studentId = p.id → l = l'
  ofSchool : ∀ p ∈ t.students.rows, p.tenantId = A → ∀ l ∈ t.links.rows, l.studentId = p.id →
    l.tenantId = A
  letsIn : ∀ p ∈ t.students.rows, p.tenantId = A → Coded p → pending ≠ some p.id →
    ∀ user ∈ t.users.rows, LinkedTo t p user.id → LetsIn x user p

/-! ### Transactions that lock nobody out -/

section

variable (A : Id)

/-- Every student with a code who is tied to the account yields the user name. -/
def OnlyNamed (t : Tables) (userId : Id) (name : String) : Prop :=
  ∀ p ∈ t.students.rows, p.tenantId = A → Coded p → LinkedTo t p userId → parentName p = name

/-- The account that is found is one the parents of the student can share: that of a parent, of
students with the same code only, and if it is not linked yet, with the user name of the code. -/
def Fits (sync : StudentSync) (draws : Draws) (t : Tables) : Prop :=
  let name := (parentCredentials sync draws).username
  match sync.account A t draws with
  | .linked parent phone => ¬ NameTakenFrom t parent.userId phone (some name) →
      OnlyNamed A t parent.userId name ∧
        ∀ user ∈ t.users.rows, user.id = parent.userId → ∀ p ∈ t.students.rows,
          p.id = sync.profile.id → p.tenantId = A → Coded p → user.role = .parent
  | .found user => OnlyNamed A t user.id name ∧ ∀ p ∈ t.students.rows,
      p.id = sync.profile.id → p.tenantId = A → Coded p →
        user.role = .parent ∧ user.username = some name
  | .new _ => True

/-- In the state that recording the student leaves, the account the parents get fits. -/
def KeepsLogins (x : MemberHost) (db : Db) (move : Transaction) : Prop :=
  move.env.placed = .ok () → ∀ mid sync, move.record x A db = .ok (mid, sync) →
    Fits A sync move.env.draws mid.toTables

end

section

variable {x : MemberHost} {A : Id} {db mid db' : Db} {sync : StudentSync} {draws : Draws}

/-! ### The student is recorded -/

/-- Nothing is linked to a row that is not there. -/
theorem LinkedTo.user_exists {p : StudentProfile} {userId : Id}
    (linked : LinkedTo db.toTables p userId) : ∃ user ∈ db.users.rows, user.id = userId := by
  obtain ⟨l, -, -, parent, mem, -, rfl⟩ := linked
  obtain ⟨user, found⟩ := has_some_iff.mp (db.foreignKeys.parent_user parent mem)
  exact ⟨user, mem_of_find? found, key_of_find? found⟩

theorem link_student_exists {l : ParentStudentLink} (mem : l ∈ db.links.rows) :
    ∃ p ∈ db.students.rows, p.id = l.studentId := by
  obtain ⟨p, found⟩ := has_some_iff.mp (db.foreignKeys.link_student l mem)
  exact ⟨p, mem_of_find? found, key_of_find? found⟩

theorem link_parent_exists {l : ParentStudentLink} (mem : l ∈ db.links.rows) :
    ∃ parent ∈ db.parents.rows, parent.id = l.parentId := by
  obtain ⟨parent, found⟩ := has_some_iff.mp (db.foreignKeys.link_parent l mem)
  exact ⟨parent, mem_of_find? found, key_of_find? found⟩

namespace ParentsLogIn

theorem creates {user : User} {profile : StudentProfile} (created : Creates A db mid user profile)
    (start : ParentsLogIn x A none db.toTables) :
    ParentsLogIn x A (some profile.id) mid.toTables := by
  have links : mid.links = db.links := by rw [created.tables]
  have parents : mid.parents = db.parents := by rw [created.tables]
  have before : ∀ p ∈ mid.students.rows, p.id ≠ profile.id → p ∈ db.students.rows :=
    fun p mem differ => ((mem_insert created.students).mp mem).resolve_right
      fun same => differ (congrArg (·.id) same)
  have unlinked : ∀ l ∈ db.links.rows, l.studentId ≠ profile.id := by
    intro l mem same
    obtain ⟨p, memP, isStudent⟩ := link_student_exists mem
    exact (insert_spec.mp created.students).2.1 p memP (isStudent.trans same)
  constructor
  · intro p mem inSchool coded differ
    rw [links]
    exact start.linked p (before p mem fun same => differ (congrArg some same.symm)) inSchool coded
      nofun
  · rw [links]
    intro p mem inSchool l memL l' memL' ofL ofL'
    have differ : p.id ≠ profile.id := fun same => unlinked l memL (ofL.trans same)
    exact start.one p (before p mem differ) inSchool l memL l' memL' ofL ofL'
  · rw [links]
    intro p mem inSchool l memL ofL
    have differ : p.id ≠ profile.id := fun same => unlinked l memL (ofL.trans same)
    exact start.ofSchool p (before p mem differ) inSchool l memL ofL
  · intro p mem inSchool coded differ u memU linked
    have linkedBefore : LinkedTo db.toTables p u.id := by
      unfold LinkedTo at linked ⊢
      rwa [links, parents] at linked
    have known := before p mem fun same => differ (congrArg some same.symm)
    rcases (mem_insert created.users).mp memU with userBefore | rfl
    · exact start.letsIn p known inSchool coded nofun u userBefore linkedBefore
    · obtain ⟨other, memOther, same⟩ := linkedBefore.user_exists
      exact absurd same ((insert_spec.mp created.users).2.1 other memOther)

theorem updates {profile : StudentProfile} {data : UserUpdate} {changes : StudentUpdate}
    (updated : Updates db mid profile data changes) (start : ParentsLogIn x A none db.toTables) :
    ParentsLogIn x A (some profile.id) mid.toTables := by
  have links : mid.links = db.links := by rw [updated.tables]
  have parents : mid.parents = db.parents := by rw [updated.tables]
  have before : ∀ p ∈ mid.students.rows, p.id ≠ profile.id → p ∈ db.students.rows := by
    intro p mem differ
    rcases (mem_update updated.students).mp mem with ⟨known, -⟩ | ⟨row, found, rfl⟩
    · exact known
    · exact absurd (key_of_find? found) differ
  -- The student who is updated is the one that was there, as far as links go.
  have same : ∀ p ∈ mid.students.rows, ∃ q ∈ db.students.rows, q.id = p.id ∧
      q.tenantId = p.tenantId := by
    intro p mem
    rcases (mem_update updated.students).mp mem with ⟨known, -⟩ | ⟨row, found, rfl⟩
    · exact ⟨p, known, rfl, rfl⟩
    · exact ⟨row, mem_of_find? found, rfl, rfl⟩
  constructor
  · intro p mem inSchool coded differ
    rw [links]
    exact start.linked p (before p mem fun same => differ (congrArg some same.symm)) inSchool coded
      nofun
  · rw [links]
    intro p mem inSchool l memL l' memL' ofL ofL'
    obtain ⟨q, memQ, sameId, sameSchool⟩ := same p mem
    exact start.one q memQ (sameSchool.trans inSchool) l memL l' memL' (ofL.trans sameId.symm)
      (ofL'.trans sameId.symm)
  · rw [links]
    intro p mem inSchool l memL ofL
    obtain ⟨q, memQ, sameId, sameSchool⟩ := same p mem
    exact start.ofSchool q memQ (sameSchool.trans inSchool) l memL (ofL.trans sameId.symm)
  · intro p mem inSchool coded differ u' memU linked
    obtain ⟨u, userBefore, sameId, username, passwordHash, role⟩ := updated.userBefore memU
    have linkedBefore : LinkedTo db.toTables p u.id := by
      unfold LinkedTo at linked ⊢
      rwa [links, parents, ← sameId] at linked
    have known := before p mem fun same => differ (congrArg some same.symm)
    have lets := start.letsIn p known inSchool coded nofun u userBefore linkedBefore
    unfold LetsIn at lets ⊢
    rwa [username, passwordHash, role] at lets

theorem record {move : Transaction} (done : move.record x A db = .ok (mid, sync))
    (start : ParentsLogIn x A none db.toTables) :
    ParentsLogIn x A (some sync.profile.id) mid.toTables := by
  rcases record_cases done with ⟨user, created⟩ | ⟨profile, data, changes, updated, same⟩
  · exact start.creates created
  · rw [same]
    exact start.updates updated

end ParentsLogIn

/-- The code the parents get their credentials from is the one that is stored. -/
theorem stored_code {move : Transaction} (done : move.record x A db = .ok (mid, sync))
    {p : StudentProfile} (mem : p ∈ mid.students.rows) (isStudent : p.id = sync.profile.id) :
    normalizeNationalCode p.nationalCode = normalizeNationalCode sync.nationalCode := by
  have ofCreated : ∀ {user : User}, Creates A db mid user sync.profile → p = sync.profile :=
    fun created => mid.students.eq_of_key_eq mem
      ((mem_insert created.students).mpr (.inr rfl)) isStudent
  have ofUpdated : ∀ {profile data changes}, Updates db mid profile data changes →
      p.id = profile.id → p = changes.apply profile := by
    intro profile data changes updated same
    have known : db.students.find? profile.id = some profile := find?_key _ updated.found
    exact mid.students.eq_of_key_eq mem
      ((mem_update updated.students).mpr (.inr ⟨profile, known, rfl⟩)) same
  unfold StudentSync.nationalCode
  cases move with
  | create dto env =>
    obtain ⟨user, created, -, -, national, code, info⟩ := createStudentAccount_ok done
    rw [ofCreated created, info, code]
    cases known : (generateUnifiedCredentials x.lower (db.tenants.find? A) dto.nationalCode
      (some dto.phone) dto.password env.draws).nationalId with
    | none => exact (normalizeNationalCode_or_self _).symm
    | some text =>
      have digits := nationalId_spec x.lower known
      have same := normalizeNationalCode_nationalId x.lower (db.tenants.find? A)
        dto.nationalCode (some dto.phone) dto.password env.draws
      rw [known] at same
      simpa [truthy, digits.1] using same.symm
  | update studentId dto env =>
    obtain ⟨profile, user, -, -, updated, rfl⟩ := updateStudentAccount_ok done
    rw [ofUpdated updated isStudent]
    exact (normalizeNationalCode_or_self _).symm
  | row item env =>
    rcases importAccount_ok done with
      ⟨profile, user, data, changes, -, updated, -, -, -, code, same, info⟩ |
      ⟨-, user, created, -, -, -, code, info⟩
    · rw [ofUpdated updated (by rw [isStudent, same]), info, same]
      cases known : (item.creds x.lower (db.tenants.find? A) env).nationalId with
      | none =>
        rw [known] at code
        simp only [StudentUpdate.apply, code, Option.map_none, Option.getD_none]
        exact (normalizeNationalCode_or_self _).symm
      | some text =>
        have digits := nationalId_spec x.lower known
        rw [known] at code
        simp [StudentUpdate.apply, code, truthy, digits.1]
    · rw [ofCreated created, info, code]
      exact (normalizeNationalCode_or_self _).symm

theorem parentCredentials_of_stored {p : StudentProfile} (coded : Coded p)
    (same : normalizeNationalCode p.nationalCode = normalizeNationalCode sync.nationalCode) :
    parentCredentials sync draws = ⟨parentName p, parentName p⟩ := by
  have digits : normalizeNationalCode sync.nationalCode ≠ "" := same ▸ coded
  unfold parentCredentials parentName
  rw [generateParentCredentials_of_code digits, stripLeadingZero_congr same]

/-! ### The parents get their account -/

theorem linkedParent_eq_some {studentId : Id} {parent : Profile}
    (linked : linkedParent db.toTables A studentId = some parent) :
    ∃ l ∈ db.links.rows, l.studentId = studentId ∧ parent ∈ db.parents.rows ∧
      parent.id = l.parentId := by
  obtain ⟨l, found, ofParent⟩ := Option.bind_eq_some_iff.mp linked
  have spec := List.find?_some found
  simp only [decide_eq_true_eq] at spec
  exact ⟨l, List.mem_of_find?_eq_some found, spec.2, mem_of_find? ofParent, key_of_find? ofParent⟩

theorem linkedParent_eq_none {studentId : Id}
    (unlinked : linkedParent db.toTables A studentId = none) {l : ParentStudentLink}
    (mem : l ∈ db.links.rows) (inSchool : l.tenantId = A) : l.studentId ≠ studentId := by
  intro ofStudent
  unfold linkedParent at unlinked
  cases found : db.links.rows.find? fun l => l.tenantId = A ∧ l.studentId = studentId with
  | none =>
    have absent := List.find?_eq_none.mp found l mem
    simp [inSchool, ofStudent] at absent
  | some first =>
    rw [found] at unlinked
    obtain ⟨parent, has⟩ := has_some_iff.mp
      (db.foreignKeys.link_parent first (List.mem_of_find?_eq_some found))
    exact absurd (unlinked.symm.trans has) nofun

/-- The account of the parents is linked to the student, or no account is. -/
theorem account_spec (t : Tables) (A : Id) (sync : StudentSync) (draws : Draws) :
    match sync.account A t draws with
    | .linked parent _ => linkedParent t A sync.profile.id = some parent
    | .found user => linkedParent t A sync.profile.id = none ∧ user ∈ t.users.rows
    | .new _ => linkedParent t A sync.profile.id = none := by
  unfold StudentSync.account parentAccount
  cases linked : linkedParent t A sync.profile.id with
  | some parent => rfl
  | none =>
    dsimp only
    cases found : t.users.rows.find? fun u => u.tenantId = A ∧
        (u.username = some (parentCredentials sync draws).username ∨
          sync.parentPhone.isSome ∧ u.phone = sync.parentPhone) with
    | none => rfl
    | some user =>
      dsimp only
      by_cases isParent : user.role = .parent
      · rw [if_pos isParent]
        exact ⟨rfl, List.mem_of_find?_eq_some found⟩
      · rw [if_neg isParent]
        cases named : t.users.rows.find? fun u => u.tenantId = A ∧
            u.username = some (parentCredentials sync draws).username with
        | none => rfl
        | some other => exact ⟨rfl, List.mem_of_find?_eq_some named⟩

/-- Who is tied to a student after a link was added. -/
theorem Joins.linkedTo {studentId userId : Id}
    (joined : Joins A studentId userId mid.toTables db'.toTables) {p : StudentProfile} {u : Id}
    (linked : LinkedTo db'.toTables p u) :
    LinkedTo mid.toTables p u ∨ p.id = studentId ∧ u = userId := by
  obtain ⟨parent, link, owner, parents, -, ofParent, ofStudent, inserted⟩ := joined
  obtain ⟨l, mem, isStudent, other, memOther, isParent, rfl⟩ := linked
  rcases (mem_insert inserted).mp mem with before | rfl
  · obtain ⟨known, memKnown, isKnown⟩ := link_parent_exists before
    obtain rfl : other = known := db'.parents.eq_of_key_eq memOther
      ((parents known).mpr (.inl memKnown)) (isParent.trans isKnown.symm)
    exact .inl ⟨l, before, isStudent, other, memKnown, isParent, rfl⟩
  · obtain rfl : other = parent := db'.parents.eq_of_key_eq memOther
      ((parents parent).mpr (.inr rfl)) (isParent.trans ofParent)
    exact .inr ⟨isStudent.symm.trans ofStudent, owner⟩

namespace ParentsLogIn

/-- The one link of a student who had none. -/
theorem joins {userId : Id}
    (joined : Joins A sync.profile.id userId mid.toTables db'.toTables)
    (students : db'.students = mid.students)
    (unlinked : linkedParent mid.toTables A sync.profile.id = none)
    (letsIn : ∀ p ∈ mid.students.rows, p.tenantId = A → Coded p →
      ∀ user ∈ db'.users.rows, LinkedTo db'.toTables p user.id → LetsIn x user p)
    (start : ParentsLogIn x A (some sync.profile.id) mid.toTables) :
    ParentsLogIn x A none db'.toTables := by
  obtain ⟨parent, link, -, -, inSchool, -, ofStudent, inserted⟩ := joined
  have nothing : ∀ p ∈ mid.students.rows, p.tenantId = A → p.id = sync.profile.id →
      ∀ l ∈ mid.links.rows, l.studentId ≠ p.id := fun p memP ofA isStudent l mem ofL =>
    linkedParent_eq_none unlinked mem (start.ofSchool p memP ofA l mem ofL) (ofL.trans isStudent)
  constructor
  · rw [students]
    intro p mem ofA coded _
    by_cases isStudent : p.id = sync.profile.id
    · exact ⟨link, (mem_insert inserted).mpr (.inr rfl), ofStudent.trans isStudent.symm⟩
    · obtain ⟨l, memL, ofL⟩ := start.linked p mem ofA coded
        fun same => isStudent (Option.some.inj same).symm
      exact ⟨l, (mem_insert inserted).mpr (.inl memL), ofL⟩
  · rw [students]
    intro p mem ofA l memL l' memL' ofL ofL'
    rcases (mem_insert inserted).mp memL with before | rfl <;>
    rcases (mem_insert inserted).mp memL' with before' | rfl
    · exact start.one p mem ofA l before l' before' ofL ofL'
    · exact absurd ofL (nothing p mem ofA (ofL'.symm.trans ofStudent) l before)
    · exact absurd ofL' (nothing p mem ofA (ofL.symm.trans ofStudent) l' before')
    · rfl
  · rw [students]
    intro p mem ofA l memL ofL
    rcases (mem_insert inserted).mp memL with before | rfl
    · exact start.ofSchool p mem ofA l before ofL
    · exact inSchool
  · rw [students]
    exact fun p mem ofA coded _ => letsIn p mem ofA coded

variable (done : syncParentForStudent x A sync draws mid = .ok db')
  (start : ParentsLogIn x A (some sync.profile.id) mid.toTables)
  (stored : ∀ p ∈ mid.students.rows, p.id = sync.profile.id →
    normalizeNationalCode p.nationalCode = normalizeNationalCode sync.nationalCode)

include start in
/-- An account of a student's parents, while the student who is recorded has none. -/
theorem not_recorded (unlinked : linkedParent mid.toTables A sync.profile.id = none)
    {p : StudentProfile} (mem : p ∈ mid.students.rows) (ofA : p.tenantId = A) {u : Id}
    (before : LinkedTo mid.toTables p u) : some p.id ≠ some sync.profile.id := by
  intro isStudent
  obtain ⟨l, memL, ofL, -⟩ := before
  exact linkedParent_eq_none unlinked memL (start.ofSchool p mem ofA l memL ofL)
    (ofL.trans (Option.some.inj isStudent))

include done start

/-- The account that was linked gets the credentials of the student. -/
theorem syncLinked {parent : Profile} {phone : Option String}
    (account : sync.account A mid.toTables draws = .linked parent phone)
    (fits : Fits A sync draws mid.toTables) :
    ParentsLogIn x A none db'.toTables := by
  obtain ⟨students, rest⟩ := syncParentForStudent_ok done
  have linked := account_spec mid.toTables A sync draws
  unfold Fits at fits
  dsimp only at fits
  rw [account] at rest fits linked
  obtain ⟨parents, links, data, isPhone, username, passwordHash, -, updated⟩ := rest
  have notTaken := not_nameTakenFrom updated
  rw [isPhone, username] at notTaken
  obtain ⟨only, isParent⟩ := fits notTaken
  obtain ⟨link, memLink, ofStudent, memParent, ofLink⟩ := linkedParent_eq_some linked
  have sameLinks : ∀ {p u}, LinkedTo db'.toTables p u → LinkedTo mid.toTables p u := by
    intro p u tied
    unfold LinkedTo at tied ⊢
    rwa [links, parents] at tied
  constructor
  · rw [students, links]
    intro p mem ofA coded _
    by_cases isStudent : p.id = sync.profile.id
    · exact ⟨link, memLink, ofStudent.trans isStudent.symm⟩
    · exact start.linked p mem ofA coded fun same => isStudent (Option.some.inj same).symm
  · rw [students, links]
    exact start.one
  · rw [students, links]
    exact start.ofSchool
  · rw [students]
    intro p mem ofA coded _ u memU tied
    have tiedBefore := sameLinks tied
    rcases (mem_update updated).mp memU with ⟨before, differ⟩ | ⟨user, found, rfl⟩
    · have notStudent : p.id ≠ sync.profile.id := by
        intro isStudent
        obtain ⟨l, memL, ofL, other, memOther, ofOther, owner⟩ := tiedBefore
        obtain rfl := start.one p mem ofA l memL link memLink ofL (ofStudent.trans isStudent.symm)
        obtain rfl : other = parent := mid.parents.eq_of_key_eq memOther memParent
          (ofOther.trans ofLink.symm)
        exact differ owner.symm
      exact start.letsIn p mem ofA coded (fun same => notStudent (Option.some.inj same).symm) u
        before tiedBefore
    · have isUser : user.id = parent.userId := key_of_find? found
      have tiedUser : LinkedTo mid.toTables p user.id := tiedBefore
      have name := only p mem ofA coded (isUser ▸ tiedUser)
      have role : user.role = .parent := by
        by_cases isStudent : p.id = sync.profile.id
        · exact isParent user (mem_of_find? found) isUser p mem isStudent ofA coded
        · exact (start.letsIn p mem ofA coded (fun same => isStudent (Option.some.inj same).symm)
            user (mem_of_find? found) tiedUser).1
      have password := finalPassword_of_username name.symm
      refine (letsIn_iff coded).mpr ⟨role, ?_, ?_⟩
      · simp [UserUpdate.apply, username, name]
      · simp only [UserUpdate.apply, passwordHash, Option.getD_some]
        exact ⟨_, congrArg (x.hash _) password⟩

include stored

/-- The account that was found gets the password of the student. -/
theorem syncFound {user : User} (account : sync.account A mid.toTables draws = .found user)
    (fits : Fits A sync draws mid.toTables) :
    ParentsLogIn x A none db'.toTables := by
  obtain ⟨students, rest⟩ := syncParentForStudent_ok done
  have spec := account_spec mid.toTables A sync draws
  unfold Fits at fits
  dsimp only at fits
  rw [account] at rest fits spec
  obtain ⟨joined, data, username, passwordHash, -, updated⟩ := rest
  obtain ⟨unlinked, memUser⟩ := spec
  obtain ⟨only, ofStudent⟩ := fits
  refine start.joins joined students unlinked fun p mem ofA coded u memU tied => ?_
  -- The parents of the student, and of those who share the account.
  have shared : u.id = user.id → user.role = .parent ∧ user.username = some (parentName p) →
      parentName p = (parentCredentials sync draws).username → LetsIn x u p := by
    intro isUser ofUser name
    rcases (mem_update updated).mp memU with ⟨-, differ⟩ | ⟨row, found, rfl⟩
    · exact absurd isUser differ
    · cases (find?_key mid.users memUser).symm.trans found
      have password := finalPassword_of_username name.symm
      refine (letsIn_iff coded).mpr ⟨ofUser.1, ?_, ?_⟩
      · simp [UserUpdate.apply, username, ofUser.2]
      · simp only [UserUpdate.apply, passwordHash, Option.getD_some]
        exact ⟨_, congrArg (x.hash _) password⟩
  rcases joined.linkedTo tied with before | ⟨isStudent, isUser⟩
  · have lets := start.letsIn p mem ofA coded (start.not_recorded unlinked mem ofA before).symm
    by_cases isUser : u.id = user.id
    · rw [isUser] at before
      obtain ⟨role, name, -⟩ := (letsIn_iff coded).mp (lets user memUser before)
      exact shared isUser ⟨role, name⟩ (only p mem ofA coded before)
    · rcases (mem_update updated).mp memU with ⟨known, -⟩ | ⟨row, found, rfl⟩
      · exact lets u known before
      · exact absurd (key_of_find? found) isUser
  · have fit := ofStudent p mem isStudent ofA coded
    have name : parentName p = (parentCredentials sync draws).username := by
      rw [parentCredentials_of_stored coded (stored p mem isStudent)]
    exact shared isUser ⟨fit.1, name ▸ fit.2⟩ name

/-- A new account gets the credentials of the student. -/
theorem syncNew {phone : Option String}
    (account : sync.account A mid.toTables draws = .new phone) :
    ParentsLogIn x A none db'.toTables := by
  obtain ⟨students, rest⟩ := syncParentForStudent_ok done
  have unlinked := account_spec mid.toTables A sync draws
  rw [account] at rest unlinked
  obtain ⟨user, joined, role, username, passwordHash, inserted⟩ := rest
  refine start.joins joined students unlinked fun p mem ofA coded u memU tied => ?_
  rcases joined.linkedTo tied with before | ⟨isStudent, isUser⟩
  · rcases (mem_insert inserted).mp memU with known | rfl
    · exact start.letsIn p mem ofA coded (start.not_recorded unlinked mem ofA before).symm u known
        before
    · obtain ⟨other, memOther, same⟩ := before.user_exists
      exact absurd same ((insert_spec.mp inserted).2.1 other memOther)
  · obtain rfl : u = user := db'.users.eq_of_key_eq memU
      ((mem_insert inserted).mpr (.inr rfl)) isUser
    rw [parentCredentials_of_stored coded (stored p mem isStudent)] at username passwordHash
    exact (letsIn_iff coded).mpr ⟨role, username, _, passwordHash⟩

omit done start stored in
/-- A transaction that locks nobody out. -/
theorem commit {move : Transaction} (keeps : KeepsLogins A x db move)
    (done : move.commit x A db = .ok db') (start : ParentsLogIn x A none db.toTables) :
    ParentsLogIn x A none db'.toTables := by
  obtain ⟨mid, sync, recorded, placed, synced⟩ := Transaction.commit_ok done
  have pending := start.record recorded
  have stored : ∀ p ∈ mid.students.rows, p.id = sync.profile.id →
      normalizeNationalCode p.nationalCode = normalizeNationalCode sync.nationalCode :=
    fun p mem isStudent => stored_code recorded mem isStudent
  have fits := keeps placed mid sync recorded
  cases account : sync.account A mid.toTables move.env.draws with
  | linked parent phone => exact pending.syncLinked synced account fits
  | found user => exact pending.syncFound synced stored account fits
  | new phone => exact pending.syncNew synced stored account

end ParentsLogIn

end

/-- **Parents get in with the code of their child.** In a run in which the account that the parents
of a student get always fits, every student of the school with a code has one link at all times, to
a parent who gets in with what the code yields. -/
theorem parents_log_in (x : MemberHost) (A : Id) (db : Db) (calls : List StudentCall)
    (start : ParentsLogIn x A none db.toTables)
    (keep : Along (StudentCall.step x A) (fun db call => call.Meets x A (KeepsLogins A x) db) db
      calls)
    {reached : List StudentCall} (isReached : reached <+: calls) :
    ParentsLogIn x A none (run (StudentCall.step x A) db reached).toTables := by
  obtain ⟨rest, rfl⟩ := isReached
  exact run_invariant (I := fun db => ParentsLogIn x A none db.toTables)
    (fun _ _ meets before => StudentCall.keeps
      (I := fun db => ParentsLogIn x A none db.toTables)
      (fun _ _ _ keeps done before => before.commit keeps done) meets before)
    start (along_append.mp keep).1

namespace Siblings

def mina : CreateStudentDto :=
  { firstName := "مینا", lastName := "راد", phone := "09351111111",
    nationalCode := some "0012345678", fatherPhone := some "09121234567" }

def sara : CreateStudentDto :=
  { firstName := "سارا", lastName := "راد", phone := "09352222222",
    nationalCode := some "0087654321", fatherPhone := some "09121234567" }

def calls : List StudentCall :=
  [.createStudent mina Register.env, .createStudent sara Register.env]

/-- Another number for the parents of the second child. -/
def apart : List StudentCall :=
  [.createStudent mina Register.env,
    .createStudent { sara with fatherPhone := some "09127654321" } Register.env]

theorem keepsLogins {db : Db} {dto : CreateStudentDto} {phone : String}
    (isNew : Returns (createStudentAccount Register.host 7 dto Register.env.draws db) fun recorded =>
      recorded.2.account 7 recorded.1.toTables Register.env.draws = .new (some phone)) :
    KeepsLogins 7 Register.host db (.create dto Register.env) := by
  intro _ mid sync recorded
  change createStudentAccount _ _ _ _ _ = _ at recorded
  change Fits 7 sync Register.env.draws mid.toTables
  rw [recorded] at isNew
  change sync.account 7 mid.toTables Register.env.draws = _ at isNew
  unfold Fits
  dsimp only
  rw [isNew]
  trivial

end Siblings

theorem noStudents_parents_log_in :
    ParentsLogIn Register.host 7 none Register.noStudents.toTables where
  linked := List.forall_mem_nil _
  one := List.forall_mem_nil _
  ofSchool := List.forall_mem_nil _
  letsIn := List.forall_mem_nil _

/-- The parents of each child are given a new account. -/
theorem parents_log_in_mina : ParentsLogIn Register.host 7 none
      (run (StudentCall.step Register.host 7) Register.noStudents Siblings.apart).toTables :=
  parents_log_in Register.host 7 Register.noStudents Siblings.apart noStudents_parents_log_in
    ⟨@Siblings.keepsLogins _ _ "09121234567" (by decide +kernel),
      @Siblings.keepsLogins _ _ "09127654321" (by decide +kernel), trivial⟩ (List.prefix_refl _)

/-- The parents of two children have one phone: with the second the account gets another password,
and keeps its user name. -/
theorem not_parents_log_in :
    ParentsLogIn Register.host 7 none Register.noStudents.toTables ∧
      ¬ ParentsLogIn Register.host 7 none
        (run (StudentCall.step Register.host 7) Register.noStudents Siblings.calls).toTables := by
  refine ⟨noStudents_parents_log_in, fun ⟨_, _, _, letsIn⟩ => ?_⟩
  have locked : ∃ p ∈ (run (StudentCall.step Register.host 7) Register.noStudents
        Siblings.calls).students.rows, p.tenantId = 7 ∧ Coded p ∧
      ∃ user ∈ (run (StudentCall.step Register.host 7) Register.noStudents
        Siblings.calls).users.rows, LinkedTo (run (StudentCall.step Register.host 7)
          Register.noStudents Siblings.calls).toTables p user.id ∧
        user.passwordHash ≠ Register.host.hash 0
          (generateParentCredentials p.nationalCode none Register.env.draws).finalPassword := by
    decide +kernel
  obtain ⟨p, mem, inSchool, coded, user, memUser, tied, differ⟩ := locked
  obtain ⟨-, creds⟩ := letsIn p mem inSchool coded nofun user memUser tied
  obtain ⟨-, salt, same⟩ := creds none Register.env.draws
  exact differ same

end Rokad.Members
