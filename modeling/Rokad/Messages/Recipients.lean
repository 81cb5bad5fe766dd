import Rokad.Messages.Service

/-!
# Whom one may write to

The matrix of who may write to whom stands twice in the service: the directory lists the persons and
classes that are offered, and sending makes a few checks of its own. Sending forbids much less: who
is sent a message to must exist, of whichever school and role (`not_recipients_agree`). A message to persons
is sent as the directory has it exactly where everyone listed is offered and of the school and
nothing else is wrong with the message, or where somebody is not offered and something else is wrong
(`recipients_agree_iff`).
-/

namespace Rokad.Messages

open Rokad.Base Rokad.Common

/-! ### What is to be kept -/

section

variable (db : Db) (tenantId senderId : Id) (dto : CreateMessageDto)

/-- Those listed, but for the sender. -/
def listed : List Id := (dto.recipientIds.getD []).filter (· ≠ senderId)

/-- Recipients are of messages that exist. -/
def Db.Delivered : Prop :=
  ∀ r ∈ db.recipients.rows, (db.messages.find? r.messageId).isSome = true

instance : Decidable db.Delivered := inferInstanceAs (Decidable (∀ r ∈ db.recipients.rows, _))

def OfSchool (id : Id) : Prop := ∃ u ∈ db.users.rows, u.id = id ∧ u.tenantId = tenantId
deriving Decidable

/-- Sending and the directory have the same recipients, all of the school. -/
structure Agrees : Prop where
  individual : dto.targetType = .individual →
    ((∃ sent, createMessage db tenantId senderId dto = .ok sent) ↔
      listed senderId dto ≠ [] ∧ ∃ directory, getAllowedRecipients db tenantId senderId =
        .ok directory ∧ ∀ id ∈ listed senderId dto, ∃ e ∈ directory.users, e.id = id)
  classroom : ∀ sender sent directory, db.userIn tenantId senderId = some sender →
    sender.role = .teacher → dto.targetType = .classroom →
      createMessage db tenantId senderId dto = .ok sent →
        getAllowedRecipients db tenantId senderId = .ok directory →
          ∃ c ∈ directory.classrooms, dto.targetClassroomId = some c.id
  ofSchool : ∀ db' sent, createMessage db tenantId senderId dto = .ok (db', sent) →
    ∀ r ∈ db'.recipients.rows, r.messageId = sent.id → OfSchool db' tenantId r.recipientId

/-! ### Where it is kept -/

/-- The roles that are offered whole. -/
def writesTo : UserRole → List UserRole
  | .superAdmin | .schoolAdmin | .staff => everyRole
  | .coach => []
  | role => role :: adminRoles

/-- A student of one of the classes of a teacher, or a parent of one. -/
def InClassesOf (teacher : User) (id : Id) : Prop :=
  ∃ s ∈ schedulesOf db tenantId (profileOf db.teacherProfiles teacher.id),
    ∃ en ∈ db.enrollments.rows, en.classroomId = s.classroomId ∧
      ((∃ u ∈ db.userOf db.studentProfiles en.studentId, u.id = id) ∨
        ∃ u ∈ db.parentsOf en.studentId, u.id = id)

/-- A teacher of one of the classes of a student. -/
def TeacherOf (student : User) (id : Id) : Prop :=
  ∃ p ∈ profileOf db.studentProfiles student.id, ∃ u ∈ db.teachersOfStudent p.id, u.id = id

/-- A teacher of one of the classes of a child of a parent. -/
def TeacherOfChild (parent : User) (id : Id) : Prop :=
  ∃ p ∈ profileOf db.parentProfiles parent.id, ∃ pl ∈ db.parentLinks.rows,
    pl.parentId = p.id ∧ ∃ u ∈ db.teachersOfStudent pl.studentId, u.id = id

/-- Somebody other than the sender that the directory is to list. -/
def Offered (sender : User) (id : Id) : Prop :=
  (∃ u ∈ db.activeUsers tenantId (writesTo sender.role), u.id = id) ∨
    (sender.role = .teacher ∧ InClassesOf db tenantId sender id) ∨
      (sender.role = .student ∧ TeacherOf db sender id) ∨
        (sender.role = .parent ∧ TeacherOfChild db sender id)

/-- What the message refers to exists, and its attachments can be read. -/
def Complete : Prop :=
  db.classrooms.has dto.targetClassroomId = true ∧ db.messages.has dto.replyToId = true ∧
    (normalizeAttachments dto.attachments).isOk = true

/-- A student lists no parent of the school. -/
def NoParents (sender : User) : Prop :=
  sender.role = .student → ∀ u ∈ db.users.rows,
    u.id ∈ dto.recipientIds.getD [] → u.tenantId = tenantId → u.role ≠ .parent

/-- Everyone is offered and of the school and nothing else is wrong, or not everyone is offered and
something else is wrong. -/
def FitsPersons (sender : User) : Prop :=
  listed sender.id dto = [] ∨
    ((∀ id ∈ listed sender.id dto, Offered db tenantId sender id ∧ OfSchool db tenantId id) ∧
      Complete db dto ∧ NoParents db tenantId dto sender) ∨
    ((∃ id ∈ listed sender.id dto, ¬ Offered db tenantId sender id) ∧
      ¬ ((∀ id ∈ listed sender.id dto, db.users.has (some id) = true) ∧
        Complete db dto ∧ NoParents db tenantId dto sender))

/-- Whoever is no student and no parent writes to classes, a teacher to the own ones. -/
def WritesToClass (sender : User) (classroomId : Id) : Prop :=
  sender.role ≠ .student ∧ sender.role ≠ .parent ∧
    (sender.role = .teacher → ∃ s ∈ schedulesOf db tenantId
      (profileOf db.teacherProfiles sender.id), s.classroomId = classroomId)

/-- A student of a class or a parent, as the audience includes them. -/
def InAudience (classroomId id : Id) : Prop :=
  ∃ en ∈ db.enrollments.rows, en.classroomId = classroomId ∧ en.tenantId = tenantId ∧
    ((dto.targetAudience ∈ [some .all, some .students] ∧
        ∃ u ∈ db.userOf db.studentProfiles en.studentId, u.id = id) ∨
      (dto.targetAudience ∈ [some .all, some .parents] ∧
        ∃ u ∈ db.parentsOf en.studentId, u.id = id))

/-- Where the message can be sent to the class, everyone in it is of the school. -/
def FitsClass (sender : User) : Prop :=
  ∀ classroomId, dto.targetClassroomId = some classroomId →
    WritesToClass db tenantId sender classroomId → Complete db dto →
      ∀ id, InAudience db tenantId dto classroomId id → OfSchool db tenantId id

def Fits : Prop :=
  ∀ sender, db.userIn tenantId senderId = some sender →
    (dto.targetType = .individual → FitsPersons db tenantId dto sender) ∧
      (dto.targetType = .classroom → FitsClass db tenantId dto sender)

end

/-! ### The directory -/

section

variable {db : Db} {tenantId userId id : Id} {sender : User}

/-- Of entries for one person the last stays. -/
theorem mem_userMap {entries : List DirectoryUser} :
    (∃ e ∈ userMap entries, e.id = id) ↔ ∃ e ∈ entries, e.id = id := by
  have mem (e : DirectoryUser) : e ∈ userMap entries ↔
      ∃ k, (entries.filter (·.id = k)).getLast? = some e := by
    unfold userMap
    simp only [List.mem_map, Prod.exists, exists_eq_right, ← Dict.get?_eq_some_iff,
      Dict.get?_foldl_set, Dict.get?_empty, Option.or_none, Option.map_id']
  constructor
  · rintro ⟨e, listed, rfl⟩
    obtain ⟨k, last⟩ := (mem e).mp listed
    exact ⟨e, (List.mem_filter.mp (List.mem_of_getLast? last)).1, rfl⟩
  · rintro ⟨e, given, rfl⟩
    have own : e ∈ entries.filter (·.id = e.id) := List.mem_filter.mpr ⟨given, by simp⟩
    obtain ⟨last, is⟩ := Option.ne_none_iff_exists'.mp
      (mt List.getLast?_eq_none_iff.mp (List.ne_nil_of_mem own))
    have same := (List.mem_filter.mp (List.mem_of_getLast? is)).2
    exact ⟨last, (mem last).mpr ⟨e.id, is⟩, of_decide_eq_true same⟩

theorem mem_map_entry {users : List User} :
    (∃ e ∈ users.map User.entry, e.id = id) ↔ ∃ u ∈ users, u.id = id := by
  simp [User.entry]

theorem mem_map_entryAs (role : UserRole) {users : List User} :
    (∃ e ∈ users.map (User.entryAs role), e.id = id) ↔ ∃ u ∈ users, u.id = id := by
  simp [User.entryAs]

theorem mem_others {roles : List UserRole} (differ : id ≠ userId) :
    (∃ u ∈ db.others tenantId userId roles, u.id = id) ↔
      ∃ u ∈ db.activeUsers tenantId roles, u.id = id := by
  unfold Db.others
  constructor
  · rintro ⟨u, mem, same⟩
    exact ⟨u, (List.mem_filter.mp mem).1, same⟩
  · rintro ⟨u, mem, rfl⟩
    exact ⟨u, List.mem_filter.mpr ⟨mem, by simpa using differ⟩, rfl⟩

theorem mem_activeUsers_cons (role : UserRole) (roles : List UserRole) :
    (∃ u ∈ db.activeUsers tenantId (role :: roles), u.id = id) ↔
      (∃ u ∈ db.activeUsers tenantId [role], u.id = id) ∨
        ∃ u ∈ db.activeUsers tenantId roles, u.id = id := by
  simp only [Db.activeUsers, List.mem_filter, decide_eq_true_eq, List.mem_cons, List.not_mem_nil,
    or_false]
  constructor
  · rintro ⟨u, ⟨mem, own, role, active⟩, same⟩
    exact role.imp (fun role => ⟨u, ⟨mem, own, role, active⟩, same⟩)
      fun role => ⟨u, ⟨mem, own, role, active⟩, same⟩
  · rintro (⟨u, ⟨mem, own, role, active⟩, same⟩ | ⟨u, ⟨mem, own, role, active⟩, same⟩)
    · exact ⟨u, ⟨mem, own, Or.inl role, active⟩, same⟩
    · exact ⟨u, ⟨mem, own, Or.inr role, active⟩, same⟩

theorem mem_classDirectory {classroomId : Id} (differ : id ≠ userId) :
    (∃ e ∈ classDirectory db userId classroomId, e.id = id) ↔
      ∃ en ∈ db.enrollments.rows, en.classroomId = classroomId ∧
        ((∃ u ∈ db.userOf db.studentProfiles en.studentId, u.id = id) ∨
          ∃ u ∈ db.parentsOf en.studentId, u.id = id) := by
  have stays (users : List User) : (∃ u ∈ users.filter (·.id ≠ userId), u.id = id) ↔
      ∃ u ∈ users, u.id = id := by
    constructor
    · rintro ⟨u, mem, same⟩
      exact ⟨u, (List.mem_filter.mp mem).1, same⟩
    · rintro ⟨u, mem, rfl⟩
      exact ⟨u, List.mem_filter.mpr ⟨mem, by simpa using differ⟩, rfl⟩
  unfold classDirectory
  simp only [List.mem_flatMap, List.mem_filter, decide_eq_true_eq]
  constructor
  · rintro ⟨e, ⟨en, ⟨mem, ofClass⟩, listed⟩, same⟩
    refine ⟨en, mem, ofClass, (List.mem_append.mp listed).imp (fun listed => ?_) fun listed => ?_⟩
    · simpa using (stays _).mp ((mem_map_entryAs _).mp ⟨e, listed, same⟩)
    · exact (stays _).mp ((mem_map_entryAs _).mp ⟨e, listed, same⟩)
  · rintro ⟨en, mem, ofClass, student | parent⟩
    · obtain ⟨e, listed, same⟩ := (mem_map_entryAs .student).mpr
        ((stays (db.userOf db.studentProfiles en.studentId).toList).mpr (by simpa using student))
      exact ⟨e, ⟨en, ⟨mem, ofClass⟩, List.mem_append_left _ listed⟩, same⟩
    · obtain ⟨e, listed, same⟩ := (mem_map_entryAs .parent).mpr ((stays _).mpr parent)
      exact ⟨e, ⟨en, ⟨mem, ofClass⟩, List.mem_append_right _ listed⟩, same⟩

theorem exists_mem_append {xs ys : List DirectoryUser} : (∃ e ∈ xs ++ ys, e.id = id) ↔
    (∃ e ∈ xs, e.id = id) ∨ ∃ e ∈ ys, e.id = id := by
  simp only [List.mem_append, or_and_right, exists_or]

/-- After those of its own a role is offered its peers and the administration. -/
theorem mem_peers {role : UserRole} {entries : List DirectoryUser} (differ : id ≠ userId) :
    (∃ e ∈ userMap (entries ++ (db.others tenantId userId [role]).map User.entry ++
        (db.activeUsers tenantId adminRoles).map User.entry), e.id = id) ↔
      (∃ u ∈ db.activeUsers tenantId (role :: adminRoles), u.id = id) ∨
        ∃ e ∈ entries, e.id = id := by
  rw [mem_userMap, exists_mem_append, exists_mem_append, mem_map_entry, mem_map_entry,
    mem_others differ, mem_activeUsers_cons role adminRoles, or_assoc, or_comm]

/-- A teacher is offered the classes of the own schedules. -/
theorem mem_classrooms {schedules : List ClassSchedule} {c : Classroom} :
    c ∈ (distinct (schedules.map (·.classroomId))).filterMap db.classrooms.find? ↔
      ∃ s ∈ schedules, db.classrooms.find? s.classroomId = some c := by
  simp [distinct, List.mem_filterMap]

/-- **What the directory lists.** -/
theorem directory_spec (found : db.userIn tenantId userId = some sender) :
    ∃ directory, getAllowedRecipients db tenantId userId = .ok directory ∧ (∀ id, id ≠ userId →
        ((∃ e ∈ directory.users, e.id = id) ↔ Offered db tenantId sender id)) ∧
      (sender.role = .teacher → ∀ c, c ∈ directory.classrooms ↔
        ∃ s ∈ schedulesOf db tenantId (profileOf db.teacherProfiles sender.id),
          db.classrooms.find? s.classroomId = some c) := by
  have own : sender.id = userId := by
    have same := List.find?_some found
    simp only [decide_eq_true_eq] at same
    exact same.1
  subst own
  unfold getAllowedRecipients Offered
  rw [found]
  simp only [orFail, bind, Except.bind]
  cases role : sender.role with
  | superAdmin | schoolAdmin | staff =>
    refine ⟨_, rfl, fun id differ => ?_, by simp⟩
    rw [mem_map_entry, mem_others differ]
    simp [writesTo]
  | teacher =>
    refine ⟨_, rfl, fun id differ => ?_, fun _ c => mem_classrooms⟩
    have ofClasses : (∃ e ∈ (schedulesOf db tenantId
        (profileOf db.teacherProfiles sender.id)).flatMap fun s =>
          classDirectory db sender.id s.classroomId, e.id = id) ↔
        InClassesOf db tenantId sender id := by
      unfold InClassesOf
      simp only [List.mem_flatMap, ← mem_classDirectory differ]
      constructor
      · rintro ⟨e, ⟨s, mem, listed⟩, same⟩
        exact ⟨s, mem, e, listed, same⟩
      · rintro ⟨s, mem, e, listed, same⟩
        exact ⟨e, ⟨s, mem, listed⟩, same⟩
    rw [mem_peers differ, ofClasses]
    simp [writesTo]
  | student =>
    refine ⟨_, rfl, fun id differ => ?_, by simp⟩
    have teachers : (∃ u ∈ (profileOf db.studentProfiles sender.id).toList.flatMap fun p =>
        db.teachersOfStudent p.id, u.id = id) ↔ TeacherOf db sender id := by
      unfold TeacherOf
      simp only [List.mem_flatMap, Option.mem_toList]
      constructor
      · rintro ⟨u, ⟨p, own, mem⟩, same⟩
        exact ⟨p, own, u, mem, same⟩
      · rintro ⟨p, own, u, mem, same⟩
        exact ⟨u, ⟨p, own, mem⟩, same⟩
    rw [mem_peers differ, mem_map_entryAs, teachers]
    simp [writesTo]
  | parent =>
    refine ⟨_, rfl, fun id differ => ?_, by simp⟩
    have teachers : (∃ u ∈ ((profileOf db.parentProfiles sender.id).toList.flatMap fun p =>
        (db.parentLinks.rows.filter (·.parentId = p.id)).map (·.studentId)).flatMap
          db.teachersOfStudent, u.id = id) ↔ TeacherOfChild db sender id := by
      unfold TeacherOfChild
      simp only [List.mem_flatMap, Option.mem_toList, List.mem_map, List.mem_filter,
        decide_eq_true_eq]
      constructor
      · rintro ⟨u, ⟨_, ⟨p, own, pl, ⟨mem, ofParent⟩, rfl⟩, teaches⟩, same⟩
        exact ⟨p, own, pl, mem, ofParent, u, teaches, same⟩
      · rintro ⟨p, own, pl, mem, ofParent, u, teaches, same⟩
        exact ⟨u, ⟨_, ⟨p, own, pl, ⟨mem, ofParent⟩, rfl⟩, teaches⟩, same⟩
    rw [mem_peers differ, mem_map_entryAs, teachers]
    simp [writesTo]
  | coach =>
    refine ⟨_, rfl, fun id differ => ?_, by simp⟩
    simp [writesTo, Db.activeUsers]

end

/-! ### Sending -/

section

variable {db : Db} {tenantId senderId messageId id : Id} {dto : CreateMessageDto} {sender : User}

theorem mem_distinct {ids : List Id} : id ∈ distinct ids ↔ id ∈ ids := by simp [distinct]

theorem nodup_distinct (ids : List Id) : (distinct ids).Nodup :=
  List.nodup_reverse.mpr (List.nodup_dedup _)

/-- The message has a row for this recipient. -/
def Reaches (t : Table AcademicMessageRecipient) (messageId id : Id) : Prop :=
  ∃ r ∈ t.rows, r.messageId = messageId ∧ r.recipientId = id

theorem insertRecipient_spec {t t' : Table AcademicMessageRecipient}
    (inserted : insertRecipient db tenantId messageId t id = .ok t') :
    db.users.has (some id) = true ∧
      ∀ other, Reaches t' messageId other ↔ Reaches t messageId other ∨ other = id := by
  simp only [insertRecipient, bind_eq_ok, referred_eq_ok, insertRow_eq_ok] at inserted
  obtain ⟨-, exist, inserted⟩ := inserted
  refine ⟨exist, fun other => ?_⟩
  unfold Reaches
  simp only [mem_insert inserted]
  constructor
  · rintro ⟨r, before | rfl, ofMessage, same⟩
    · exact Or.inl ⟨r, before, ofMessage, same⟩
    · exact Or.inr same.symm
  · rintro (⟨r, before, ofMessage, same⟩ | rfl)
    · exact ⟨r, Or.inl before, ofMessage, same⟩
    · exact ⟨_, Or.inr rfl, rfl, rfl⟩

/-- Somebody whom the message does not reach yet is added. -/
theorem insertRecipient_succeeds {t : Table AcademicMessageRecipient}
    (exist : db.users.has (some id) = true) (new : ¬ Reaches t messageId id) :
    ∃ t', insertRecipient db tenantId messageId t id = .ok t' := by
  obtain ⟨t', inserted⟩ := t.insert_of_fresh
    { id := t.fresh, tenantId, messageId, recipientId := id } rfl (by
      intro r mem
      by_contra clash
      have same : r.messageId = messageId ∧ r.recipientId = id := by
        simpa [Record.clash] using clash
      exact new ⟨r, mem, same⟩)
  refine ⟨t', ?_⟩
  simp only [insertRecipient, bind_eq_ok, referred_eq_ok, insertRow_eq_ok]
  exact ⟨(), exist, inserted⟩

theorem reaches_inTurn {ids : List Id} {t t' : Table AcademicMessageRecipient}
    (done : inTurn (insertRecipient db tenantId messageId) t ids = .ok t') :
    (∀ id ∈ ids, db.users.has (some id) = true) ∧
      ∀ id, Reaches t' messageId id ↔ Reaches t messageId id ∨ id ∈ ids := by
  induction ids generalizing t with
  | nil =>
    cases done
    simp
  | cons first rest ih =>
    obtain ⟨next, inserted, rest⟩ := bind_eq_ok.mp done
    obtain ⟨exist, one⟩ := insertRecipient_spec inserted
    obtain ⟨exists', others⟩ := ih rest
    refine ⟨List.forall_mem_cons.mpr ⟨exist, exists'⟩, fun id => ?_⟩
    rw [others, one, List.mem_cons, or_assoc]

theorem inTurn_succeeds {ids : List Id} {t : Table AcademicMessageRecipient} (nodup : ids.Nodup)
    (exist : ∀ id ∈ ids, db.users.has (some id) = true)
    (new : ∀ id ∈ ids, ¬ Reaches t messageId id) :
    ∃ t', inTurn (insertRecipient db tenantId messageId) t ids = .ok t' := by
  induction ids generalizing t with
  | nil => exact ⟨t, rfl⟩
  | cons first rest ih =>
    obtain ⟨differ, nodup⟩ := List.nodup_cons.mp nodup
    obtain ⟨next, inserted⟩ := @insertRecipient_succeeds _ tenantId _ _ _
      (exist first List.mem_cons_self) (new first List.mem_cons_self)
    have new' : ∀ id ∈ rest, ¬ Reaches next messageId id := by
      intro id mem reached
      rcases (insertRecipient_spec inserted).2 id |>.mp reached with before | rfl
      · exact new id (List.mem_cons_of_mem _ mem) before
      · exact differ mem
    obtain ⟨t', done⟩ := ih nodup (fun id mem => exist id (List.mem_cons_of_mem _ mem)) new'
    exact ⟨t', bind_eq_ok.mpr ⟨next, inserted, done⟩⟩

/-- **Who a message that is sent reaches.** -/
theorem createMessage_spec {db' : Db} {sent : Sent}
    (done : createMessage db tenantId senderId dto = .ok (db', sent)) (delivered : db.Delivered) :
    db'.users = db.users ∧ ∀ id, Reaches db'.recipients sent.id id ↔
      id ∈ resolveRecipients db tenantId senderId dto := by
  simp only [createMessage, insertMessage, do_eq_ok, Prod.mk.injEq] at done
  obtain ⟨-, -, -, -, -, -, -, -, -, -, -, -, messages, -, recipients, reached, rfl, rfl⟩ := done
  refine ⟨rfl, fun id => ?_⟩
  rw [(reaches_inTurn reached).2]
  refine or_iff_right ?_
  rintro ⟨r, mem, ofMessage, -⟩
  have stored := delivered r mem
  rw [ofMessage] at stored
  change (db.messages.find? db.messages.fresh).isSome = true at stored
  rw [find?_fresh] at stored
  cases stored

/-- **When a message is sent.** -/
theorem createMessage_succeeds (delivered : db.Delivered) :
    (∃ sent, createMessage db tenantId senderId dto = .ok sent) ↔
      ∃ sender, db.userIn tenantId senderId = some sender ∧
        checkAccess db tenantId senderId sender.role dto = .ok () ∧
          resolveRecipients db tenantId senderId dto ≠ [] ∧ Complete db dto ∧
            ∀ id ∈ resolveRecipients db tenantId senderId dto, db.users.has (some id) = true := by
  constructor
  · rintro ⟨sent, done⟩
    simp only [createMessage, insertMessage, do_eq_ok, referred_eq_ok] at done
    obtain ⟨sender, found, ⟨⟩, allowed, ⟨⟩, somebody, attachments, read, ⟨⟩, ofClass, ⟨⟩, repliesTo,
      messages, -, recipients, reached, -⟩ := done
    refine ⟨sender, found, allowed, somebody, ⟨ofClass, repliesTo, ?_⟩, (reaches_inTurn reached).1⟩
    rw [read]
    rfl
  · rintro ⟨sender, found, allowed, somebody, ⟨ofClass, repliesTo, read⟩, exist⟩
    obtain ⟨attachments, read⟩ : ∃ as, normalizeAttachments dto.attachments = .ok as := by
      cases normal : normalizeAttachments dto.attachments with
      | ok as => exact ⟨as, rfl⟩
      | error e =>
        rw [normal] at read
        cases read
    have new : ∀ id, ¬ Reaches db.recipients db.messages.fresh id := by
      rintro id ⟨r, mem, ofMessage, -⟩
      have stored := delivered r mem
      rw [ofMessage, find?_fresh] at stored
      cases stored
    have nodup : (resolveRecipients db tenantId senderId dto).Nodup := nodup_distinct _
    obtain ⟨recipients, reached⟩ :=
      @inTurn_succeeds _ tenantId _ _ _ nodup exist fun id _ => new id
    let message : AcademicMessage :=
      { id := db.messages.fresh, tenantId, senderId, title := trim dto.title, body := trim dto.body
        priority := dto.priority.getD .normal, targetType := dto.targetType
        targetAudience := dto.targetAudience.getD .all
        targetClassroomId := dto.targetClassroomId, attachments, replyToId := dto.replyToId }
    obtain ⟨messages, inserted⟩ := db.messages.insert_of_fresh message rfl fun _ _ => rfl
    refine ⟨({ db with messages, recipients },
      ⟨message.id, (resolveRecipients db tenantId senderId dto).length⟩), ?_⟩
    simp only [createMessage, insertMessage, do_eq_ok, referred_eq_ok, insertRow_eq_ok]
    exact ⟨sender, found, (), allowed, (), somebody, attachments, read, (), ofClass, (), repliesTo,
      messages, inserted, recipients, reached, rfl⟩

theorem mem_resolve_individual (individual : dto.targetType = .individual) :
    id ∈ resolveRecipients db tenantId senderId dto ↔ id ∈ listed senderId dto := by
  unfold resolveRecipients listed
  rw [individual, mem_distinct]

theorem mem_resolve_classroom {classroomId : Id} (classroom : dto.targetType = .classroom)
    (target : dto.targetClassroomId = some classroomId) :
    id ∈ resolveRecipients db tenantId senderId dto ↔
      InAudience db tenantId dto classroomId id ∧ id ≠ senderId := by
  unfold resolveRecipients
  rw [classroom, target, mem_distinct, List.mem_filter, decide_eq_true_eq]
  refine and_congr_left fun _ => ?_
  unfold classRecipients InAudience
  simp only [List.mem_flatMap, List.mem_filter, decide_eq_true_eq, List.mem_map, List.mem_append,
    List.mem_cons, List.not_mem_nil, or_false]
  constructor
  · rintro ⟨en, ⟨mem, ofClass⟩, u, students | parents, same⟩
    · split at students
      · rename_i included
        exact ⟨en, mem, ofClass.1, ofClass.2, Or.inl ⟨included, u, by simpa using students, same⟩⟩
      · cases students
    · split at parents
      · rename_i included
        exact ⟨en, mem, ofClass.1, ofClass.2, Or.inr ⟨included, u, parents, same⟩⟩
      · cases parents
  · rintro ⟨en, mem, ofClass, ofSchool, ⟨included, u, student, same⟩ | ⟨included, u, parent, same⟩⟩
    · refine ⟨en, ⟨mem, ofClass, ofSchool⟩, u, Or.inl ?_, same⟩
      rw [if_pos included]
      simpa using student
    · refine ⟨en, ⟨mem, ofClass, ofSchool⟩, u, Or.inr ?_, same⟩
      rwa [if_pos included]

/-- Messages to a role or to all reach the school alone. -/
theorem ofSchool_of_mem_resolve (individual : dto.targetType ≠ .individual)
    (classroom : dto.targetType ≠ .classroom)
    (mem : id ∈ resolveRecipients db tenantId senderId dto) : OfSchool db tenantId id := by
  have active {roles : List UserRole}
      (mem : id ∈ (db.activeUsers tenantId roles).map (·.id)) : OfSchool db tenantId id := by
    obtain ⟨u, user, rfl⟩ := List.mem_map.mp mem
    unfold Db.activeUsers at user
    simp only [List.mem_filter, decide_eq_true_eq] at user
    exact ⟨u, user.1, rfl, user.2.1⟩
  unfold resolveRecipients at mem
  have addressed := List.mem_of_mem_filter (mem_distinct.mp mem)
  cases type : dto.targetType with
  | individual => exact absurd type individual
  | classroom => exact absurd type classroom
  | role | all =>
    rw [type] at addressed
    exact active addressed

theorem checkAccess_individual (individual : dto.targetType = .individual)
    (somebody : listed sender.id dto ≠ []) :
    checkAccess db tenantId sender.id sender.role dto = .ok () ↔
      NoParents db tenantId dto sender := by
  have given : dto.recipientIds.getD [] ≠ [] := by
    intro none
    unfold listed at somebody
    rw [none] at somebody
    exact somebody rfl
  unfold checkAccess NoParents
  cases sender.role with
  | student =>
    simp only [checkStudent, do_eq_ok, true_imp_iff]
    refine ⟨?_, fun clear => ⟨(), individual, (), given, clear⟩⟩
    rintro ⟨_, _, _, _, clear⟩
    exact clear
  | parent =>
    simp only [checkParent, do_eq_ok]
    exact ⟨fun _ => by simp, fun _ => ⟨(), individual, given⟩⟩
  | teacher =>
    unfold checkTeacher
    rw [individual]
    exact ⟨fun _ => by simp, fun _ => rfl⟩
  | _ => exact ⟨fun _ => by simp, fun _ => rfl⟩

theorem mem_teacherClassroomIds {profile : Option Profile} {classroomId : Id} :
    classroomId ∈ getTeacherClassroomIds db tenantId (profile.map (·.id)) ↔
      ∃ s ∈ schedulesOf db tenantId profile, s.classroomId = classroomId := by
  cases profile with
  | none => simp [getTeacherClassroomIds, schedulesOf]
  | some p => simp only [getTeacherClassroomIds, schedulesOf, Option.map_some, mem_distinct,
      List.mem_map]

theorem checkAccess_classroom {classroomId : Id} (classroom : dto.targetType = .classroom)
    (target : dto.targetClassroomId = some classroomId) :
    checkAccess db tenantId sender.id sender.role dto = .ok () ↔
      WritesToClass db tenantId sender classroomId := by
  unfold checkAccess WritesToClass
  cases sender.role with
  | student =>
    simp [checkStudent, classroom, require]
  | parent =>
    simp [checkParent, classroom, require]
  | teacher =>
    unfold checkTeacher
    rw [classroom, target]
    simp [mem_teacherClassroomIds]
  | _ => exact ⟨fun _ => ⟨nofun, nofun, nofun⟩, fun _ => rfl⟩

/-- **When a message to persons is sent.** -/
theorem individual_succeeds (delivered : db.Delivered)
    (found : db.userIn tenantId sender.id = some sender) (individual : dto.targetType = .individual)
    (somebody : listed sender.id dto ≠ []) :
    (∃ sent, createMessage db tenantId sender.id dto = .ok sent) ↔
      (∀ id ∈ listed sender.id dto, db.users.has (some id) = true) ∧
        Complete db dto ∧ NoParents db tenantId dto sender := by
  have addressed : resolveRecipients db tenantId sender.id dto ≠ [] := by
    obtain ⟨id, mem⟩ := List.exists_mem_of_ne_nil _ somebody
    exact List.ne_nil_of_mem ((mem_resolve_individual individual).mpr mem)
  rw [createMessage_succeeds delivered]
  simp only [mem_resolve_individual individual]
  constructor
  · rintro ⟨_, is, allowed, -, complete, exist⟩
    obtain rfl := Option.some.inj (found.symm.trans is)
    exact ⟨exist, complete, (checkAccess_individual individual somebody).mp allowed⟩
  · rintro ⟨exist, complete, noParents⟩
    exact ⟨sender, found, (checkAccess_individual individual somebody).mpr noParents, addressed,
      complete, exist⟩

/-- **When a message to a class is sent.** -/
theorem classroom_succeeds (delivered : db.Delivered)
    (found : db.userIn tenantId sender.id = some sender) (classroom : dto.targetType = .classroom) :
    (∃ sent, createMessage db tenantId sender.id dto = .ok sent) ↔
      ∃ classroomId, dto.targetClassroomId = some classroomId ∧
        WritesToClass db tenantId sender classroomId ∧ Complete db dto ∧
          ∃ id, InAudience db tenantId dto classroomId id ∧ id ≠ sender.id := by
  have exist {classroomId id : Id} (mem : InAudience db tenantId dto classroomId id) :
      db.users.has (some id) = true := by
    have stored {profiles : Table Profile} {k : Id} {u : User}
        (is : db.userOf profiles k = some u) : db.users.has (some u.id) = true := by
      simp only [Db.userOf, bind, Option.bind_eq_some_iff] at is
      obtain ⟨p, -, is⟩ := is
      exact has_some_iff.mpr ⟨u, find?_key _ (mem_of_find? is)⟩
    obtain ⟨en, -, -, -, ⟨-, u, is, rfl⟩ | ⟨-, u, is, rfl⟩⟩ := mem
    · exact stored is
    · obtain ⟨pl, -, is⟩ := List.mem_filterMap.mp is
      exact stored is
  rw [createMessage_succeeds delivered]
  constructor
  · rintro ⟨_, is, allowed, addressed, complete, -⟩
    obtain rfl := Option.some.inj (found.symm.trans is)
    cases target : dto.targetClassroomId with
    | none =>
      unfold resolveRecipients at addressed
      rw [classroom, target] at addressed
      exact absurd rfl addressed
    | some classroomId =>
      obtain ⟨id, mem⟩ := List.exists_mem_of_ne_nil _ addressed
      exact ⟨classroomId, rfl, (checkAccess_classroom classroom target).mp allowed, complete, id,
        (mem_resolve_classroom classroom target).mp mem⟩
  · rintro ⟨classroomId, target, writes, complete, id, mem⟩
    exact ⟨sender, found, (checkAccess_classroom classroom target).mpr writes,
      List.ne_nil_of_mem ((mem_resolve_classroom classroom target).mpr mem), complete,
      fun id mem => exist ((mem_resolve_classroom classroom target).mp mem).1⟩

/-- Whom a message reaches is of the school exactly when whom it is addressed to is. -/
theorem reaches_ofSchool (delivered : db.Delivered) :
    (∀ db' sent, createMessage db tenantId senderId dto = .ok (db', sent) →
      ∀ r ∈ db'.recipients.rows, r.messageId = sent.id → OfSchool db' tenantId r.recipientId) ↔
    ((∃ sent, createMessage db tenantId senderId dto = .ok sent) →
      ∀ id ∈ resolveRecipients db tenantId senderId dto, OfSchool db tenantId id) := by
  constructor
  · rintro ofSchool ⟨⟨db', sent⟩, done⟩ id mem
    obtain ⟨users, reaches⟩ := createMessage_spec done delivered
    obtain ⟨r, stored, ofMessage, rfl⟩ := (reaches id).mpr mem
    have own := ofSchool db' sent done r stored ofMessage
    unfold OfSchool at own
    rwa [users] at own
  · intro ofSchool db' sent done r stored ofMessage
    obtain ⟨users, reaches⟩ := createMessage_spec done delivered
    have own := ofSchool ⟨_, done⟩ _ ((reaches _).mp ⟨r, stored, ofMessage, rfl⟩)
    unfold OfSchool
    rwa [users]

end

/-! ### The two matrices -/

section

variable {db : Db} {tenantId senderId : Id} {dto : CreateMessageDto} {sender : User}

/-- What sending and the directory agree on, of a message to persons. -/
theorem agrees_individual_iff (delivered : db.Delivered)
    (found : db.userIn tenantId sender.id = some sender)
    (individual : dto.targetType = .individual) :
    Agrees db tenantId sender.id dto ↔
      ((∃ sent, createMessage db tenantId sender.id dto = .ok sent) ↔ listed sender.id dto ≠ [] ∧
          ∀ id ∈ listed sender.id dto, Offered db tenantId sender id) ∧
      ((∃ sent, createMessage db tenantId sender.id dto = .ok sent) →
        ∀ id ∈ listed sender.id dto, OfSchool db tenantId id) := by
  obtain ⟨directory, lists, offers, -⟩ := directory_spec found
  have offered : (∃ d, getAllowedRecipients db tenantId sender.id = .ok d ∧
      ∀ id ∈ listed sender.id dto, ∃ e ∈ d.users, e.id = id) ↔
        ∀ id ∈ listed sender.id dto, Offered db tenantId sender id := by
    have differ {id : Id} (mem : id ∈ listed sender.id dto) : id ≠ sender.id := by
      simpa using (List.mem_filter.mp mem).2
    constructor
    · rintro ⟨d, is, all⟩ id mem
      obtain rfl := Except.ok.inj (lists.symm.trans is)
      exact (offers id (differ mem)).mp (all id mem)
    · exact fun all => ⟨directory, lists, fun id mem => (offers id (differ mem)).mpr (all id mem)⟩
  have reaches := @reaches_ofSchool _ tenantId sender.id dto delivered
  simp only [mem_resolve_individual individual] at reaches
  rw [← offered, ← reaches]
  constructor
  · exact fun agrees => ⟨agrees.individual individual, agrees.ofSchool⟩
  · rintro ⟨same, ofSchool⟩
    exact ⟨fun _ => same,
      fun _ _ _ _ _ classroom => (nomatch individual.symm.trans classroom), ofSchool⟩

theorem agrees_individual (delivered : db.Delivered)
    (found : db.userIn tenantId sender.id = some sender)
    (individual : dto.targetType = .individual) :
    Agrees db tenantId sender.id dto ↔ FitsPersons db tenantId dto sender := by
  rw [agrees_individual_iff delivered found individual]
  by_cases nobody : listed sender.id dto = []
  · have refused : ¬ ∃ sent, createMessage db tenantId sender.id dto = .ok sent := by
      intro sent
      obtain ⟨-, -, -, addressed, -⟩ := (createMessage_succeeds delivered).mp sent
      obtain ⟨id, mem⟩ := List.exists_mem_of_ne_nil _ addressed
      have mem := (mem_resolve_individual individual).mp mem
      rw [nobody] at mem
      cases mem
    exact ⟨fun _ => Or.inl nobody, fun _ => ⟨⟨fun sent => absurd sent refused,
      fun ⟨somebody, _⟩ => absurd nobody somebody⟩, fun sent => absurd sent refused⟩⟩
  · rw [individual_succeeds delivered found individual nobody]
    constructor
    · rintro ⟨same, ofSchool⟩
      by_cases offered : ∀ id ∈ listed sender.id dto, Offered db tenantId sender id
      · have passes := same.mpr ⟨nobody, offered⟩
        exact Or.inr (Or.inl ⟨fun id mem => ⟨offered id mem, ofSchool passes id mem⟩, passes.2⟩)
      · refine Or.inr (Or.inr ⟨?_, fun passes => offered (same.mp passes).2⟩)
        simpa only [not_forall, exists_prop] using offered
    · rintro (none | ⟨offered, passes⟩ | ⟨⟨id, mem, unoffered⟩, fails⟩)
      · exact absurd none nobody
      · have exist : ∀ id ∈ listed sender.id dto, db.users.has (some id) = true := by
          intro id mem
          obtain ⟨u, stored, rfl, -⟩ := (offered id mem).2
          exact has_some_iff.mpr ⟨u, find?_key _ stored⟩
        exact ⟨⟨fun _ => ⟨nobody, fun id mem => (offered id mem).1⟩, fun _ => ⟨exist, passes⟩⟩,
          fun _ id mem => (offered id mem).2⟩
      · exact ⟨⟨fun passes => absurd passes fails, fun ⟨_, all⟩ => absurd (all id mem) unoffered⟩,
          fun passes => absurd passes fails⟩

/-- A class that a teacher writes to is one the directory lists. -/
theorem agrees_classroom (delivered : db.Delivered)
    (found : db.userIn tenantId sender.id = some sender)
    (classroom : dto.targetType = .classroom) :
    Agrees db tenantId sender.id dto ↔ FitsClass db tenantId dto sender := by
  have succeeds := classroom_succeeds delivered found classroom
  have own : OfSchool db tenantId sender.id := by
    have is := List.find?_some found
    simp only [decide_eq_true_eq] at is
    exact ⟨sender, List.mem_of_find?_eq_some found, rfl, is.2⟩
  constructor
  · intro agrees classroomId target writes complete id mem
    by_cases self : id = sender.id
    · exact self ▸ own
    · exact (reaches_ofSchool delivered).mp agrees.ofSchool
        (succeeds.mpr ⟨classroomId, target, writes, complete, id, mem, self⟩) id
        ((mem_resolve_classroom classroom target).mpr ⟨mem, self⟩)
  · intro fits
    refine ⟨fun individual => (nomatch individual.symm.trans classroom), ?_,
      (reaches_ofSchool delivered).mpr ?_⟩
    · intro _ sent directory is teacher _ done lists
      obtain rfl := Option.some.inj (found.symm.trans is)
      obtain ⟨_, lists', -, classes⟩ := directory_spec found
      obtain rfl := Except.ok.inj (lists'.symm.trans lists)
      obtain ⟨classroomId, target, writes, ⟨ofClass, -⟩, -⟩ := succeeds.mp ⟨sent, done⟩
      obtain ⟨s, mem, rfl⟩ := writes.2.2 teacher
      rw [target] at ofClass
      obtain ⟨c, stored⟩ := has_some_iff.mp ofClass
      refine ⟨c, (classes teacher c).mpr ⟨s, mem, stored⟩, ?_⟩
      rw [target]
      exact congrArg some (key_of_find? stored).symm
    · intro sent id mem
      obtain ⟨classroomId, target, writes, complete, -⟩ := succeeds.mp sent
      exact fits classroomId target writes complete id
        ((mem_resolve_classroom classroom target).mp mem).1

/-- **Exactly where sending and the directory have the same recipients.** -/
theorem recipients_agree_iff (delivered : db.Delivered) :
    Agrees db tenantId senderId dto ↔ Fits db tenantId senderId dto := by
  have sent_of_found {sent : Db × Sent}
      (done : createMessage db tenantId senderId dto = .ok sent) :
      ∃ sender, db.userIn tenantId senderId = some sender :=
    ((createMessage_succeeds delivered).mp ⟨sent, done⟩).imp fun _ is => is.1
  cases found : db.userIn tenantId senderId with
  | none =>
    have refused (sent : Db × Sent) : createMessage db tenantId senderId dto ≠ .ok sent := by
      intro done
      obtain ⟨_, is⟩ := sent_of_found done
      exact nomatch found.symm.trans is
    have unlisted (directory : AllowedRecipients) :
        getAllowedRecipients db tenantId senderId ≠ .ok directory := by
      unfold getAllowedRecipients
      rw [found]
      nofun
    refine ⟨fun _ _ is => (nomatch found.symm.trans is), fun _ => ⟨fun _ => ?_, ?_, ?_⟩⟩
    · exact ⟨fun ⟨sent, done⟩ => absurd done (refused sent),
        fun ⟨_, directory, lists, _⟩ => absurd lists (unlisted directory)⟩
    · exact fun _ _ _ is => nomatch found.symm.trans is
    · exact fun _ _ done => absurd done (refused _)
  | some sender =>
    obtain rfl : sender.id = senderId := by
      have is := List.find?_some found
      simp only [decide_eq_true_eq] at is
      exact is.1
    have only : Fits db tenantId sender.id dto ↔
        (dto.targetType = .individual → FitsPersons db tenantId dto sender) ∧
          (dto.targetType = .classroom → FitsClass db tenantId dto sender) :=
      ⟨fun fits => fits sender found, fun fits _ is => Option.some.inj (found.symm.trans is) ▸ fits⟩
    rw [only]
    by_cases individual : dto.targetType = .individual
    · rw [agrees_individual delivered found individual]
      exact ⟨fun fits =>
        ⟨fun _ => fits, fun classroom => (nomatch individual.symm.trans classroom)⟩,
        fun fits => fits.1 individual⟩
    by_cases classroom : dto.targetType = .classroom
    · rw [agrees_classroom delivered found classroom]
      exact ⟨fun fits => ⟨fun is => absurd is individual, fun _ => fits⟩,
        fun fits => fits.2 classroom⟩
    · refine ⟨fun _ => ⟨fun is => absurd is individual, fun is => absurd is classroom⟩,
        fun _ => ⟨fun is => absurd is individual, fun _ _ _ _ _ is => absurd is classroom, ?_⟩⟩
      exact (reaches_ofSchool delivered).mpr fun _ _ mem =>
        ofSchool_of_mem_resolve individual classroom mem

end

/-! ### A corridor

A member of the staff, a parent and a student of one school, and a student of another. -/

namespace Corridor

def db : Db where
  users := ⟨[⟨1, 1, .staff, .active, "", ""⟩, ⟨2, 1, .parent, .active, "", ""⟩,
    ⟨3, 1, .student, .active, "", ""⟩, ⟨4, 2, .student, .active, "", ""⟩], by decide, by decide⟩

/-- A message to one person. -/
def note (recipientId : Id) : CreateMessageDto :=
  { title := "re", body := "hi", targetType := .individual, recipientIds := some [recipientId] }

theorem delivered : db.Delivered := by decide

theorem sent (recipientId : Id) (exist : db.users.has (some recipientId) = true)
    (other : recipientId ≠ 2) : ∃ sent, createMessage db 1 2 (note recipientId) = .ok sent := by
  have only : listed 2 (note recipientId) = [recipientId] := by simp [listed, note, other]
  refine (@individual_succeeds db 1 _ ⟨2, 1, .parent, .active, "", ""⟩ delivered (by decide) rfl
    (by rw [only]; nofun)).mpr ⟨?_, ⟨rfl, rfl, rfl⟩, nofun⟩
  rw [only]
  simpa using exist

end Corridor

/-- The parent writes to the staff. -/
theorem agrees_corridor : Agrees Corridor.db 1 2 (Corridor.note 1) := by
  refine (recipients_agree_iff Corridor.delivered).mpr fun sender is => ⟨fun _ => ?_, nofun⟩
  obtain rfl : (⟨2, 1, .parent, .active, "", ""⟩ : User) = sender :=
    Option.some.inj ((by decide : Corridor.db.userIn 1 2 = _).symm.trans is)
  refine Or.inr (Or.inl ⟨?_, ⟨rfl, rfl, rfl⟩, nofun⟩)
  intro id mem
  obtain rfl : id = 1 := by simpa [listed, Corridor.note] using mem
  exact ⟨Or.inl (by decide), by decide⟩

/-- The parent writes to a student, who is not offered, and to one of another school. -/
theorem not_recipients_agree : ¬ Agrees Corridor.db 1 2 (Corridor.note 3) ∧
    ¬ Agrees Corridor.db 1 2 (Corridor.note 4) := by
  constructor
  · intro agrees
    obtain ⟨-, directory, lists, offers⟩ :=
      (agrees.individual rfl).mp (Corridor.sent 3 (by decide) (by decide))
    have staffOnly : getAllowedRecipients Corridor.db 1 2 =
        .ok ⟨false, false, true, [], [⟨1, "", "", .staff⟩]⟩ := rfl
    obtain rfl := Except.ok.inj (staffOnly.symm.trans lists)
    exact absurd (offers 3 (by decide)) (by decide)
  · intro agrees
    exact absurd ((reaches_ofSchool Corridor.delivered).mp agrees.ofSchool
      (Corridor.sent 4 (by decide) (by decide)) 4 (by decide)) (by decide)

end Rokad.Messages
