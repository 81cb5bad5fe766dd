import Rokad.Base.Dict
import Rokad.Common.Http
import Rokad.Common.Jalali

/-!
# Messages

`MessagesService`: sending a message to persons, a class or a role, the directory of whom one may
write to, and reading: the inbox, what was sent, and one message with what it replies to and what
replies to it. Rows stand in the order of their creation. How the database compares texts in a
search is a parameter.
-/

namespace Rokad.Messages

open Rokad.Base Rokad.Common

/-! ### Tables -/

structure User where
  (id tenantId : Id)
  role : UserRole
  status : UserStatus := .active
  (firstName lastName : String := "")
deriving DecidableEq

/-- Of a teacher, a student or a parent. -/
structure Profile where
  (id userId : Id)

structure ParentStudentLink where
  (id parentId studentId : Id)

structure Classroom where
  (id tenantId : Id)
  (name code : String := "")

structure ClassEnrollment where
  (id tenantId classroomId studentId : Id)

structure ClassSchedule where
  (id tenantId classroomId teacherId : Id)

/-- A role given to a user, with the codes of its permissions. -/
structure UserSchoolRole where
  (id userId : Id)
  permissions : List String

inductive MessagePriority where
  | normal | important | urgent

inductive MessageTargetType where
  | all | role | classroom | individual
deriving DecidableEq

inductive MessageTargetAudience where
  | all | students | parents | teachers | staff
deriving DecidableEq

structure Attachment where
  (name url type : String)
  size : Option ℚ := none

structure AcademicMessage where
  (id tenantId senderId : Id)
  (title body : String)
  priority : MessagePriority := .normal
  targetType : MessageTargetType := .individual
  targetAudience : MessageTargetAudience := .all
  targetClassroomId : Option Id := none
  attachments : List Attachment := []
  replyToId : Option Id := none

structure AcademicMessageRecipient where
  (id tenantId messageId recipientId : Id)
  isRead : Bool := false
  readAt : Option Instant := none
  (isStarred isArchived : Bool := false)
  deletedAt : Option Instant := none

instance : Record User := { key := (·.id) }

instance : Record Profile := ⟨(·.id), fun a b => a.userId == b.userId, fun _ _ => Bool.beq_comm⟩

instance : Record ParentStudentLink where
  key l := l.id
  clash a b := a.parentId == b.parentId && a.studentId == b.studentId

instance : Record Classroom := { key := (·.id) }

instance : Record ClassEnrollment where
  key e := e.id
  clash a b := a.classroomId == b.classroomId && a.studentId == b.studentId

instance : Record ClassSchedule := { key := (·.id) }

instance : Record UserSchoolRole := { key := (·.id) }

instance : Record AcademicMessage := { key := (·.id) }

instance : Record AcademicMessageRecipient where
  key r := r.id
  clash a b := a.messageId == b.messageId && a.recipientId == b.recipientId

structure Db where
  users : Table User := .empty
  (teacherProfiles studentProfiles parentProfiles : Table Profile := .empty)
  parentLinks : Table ParentStudentLink := .empty
  classrooms : Table Classroom := .empty
  enrollments : Table ClassEnrollment := .empty
  schedules : Table ClassSchedule := .empty
  userSchoolRoles : Table UserSchoolRole := .empty
  messages : Table AcademicMessage := .empty
  recipients : Table AcademicMessageRecipient := .empty

/-! ### Attachments -/

/-- An attachment as it comes in: its address alone, or an object whose names and addresses are
texts, and whose sizes are numbers. -/
inductive RawAttachment where
  | text (s : String)
  | object (texts : List (String × String)) (numbers : List (String × ℚ))
  | other

def videoExtensions : List String := ["mp4", "mov", "webm", "mkv", "avi", "m4v"]

def imageExtensions : List String := ["jpg", "jpeg", "png", "gif", "webp", "svg"]

/-- The first of the members that is there and not empty. -/
def firstText (texts : List (String × String)) (keys : List String) : Option String :=
  keys.findSome? fun key => truthy (texts.lookup key)

/-- `url.split('/').pop()?.split('?')[0]` -/
def urlFileName (url : String) : String := beforeFirst '?' (afterLast '/' url)

def normalizeAttachment : RawAttachment → Option Attachment
  | .text s => do
      let cleanUrl := trim s
      let fileName ← decodeURIComponent ((truthy (some (urlFileName cleanUrl))).getD "فایل پیوست")
      let type := if hasExtension videoExtensions fileName then "video"
        else if hasExtension imageExtensions fileName then "image" else "file"
      return { name := fileName, url := cleanUrl, type }
  | .object texts numbers => do
      let cleanUrl :=
        trim ((firstText texts ["url", "fileUrl", "path", "attachmentUrl", "src"]).getD "")
      let given := firstText texts ["name", "originalName", "filename", "fileName", "title"]
      let ofUrl := decodeURIComponent (if cleanUrl = "" then "" else urlFileName cleanUrl)
      let rawName ← given <|> ofUrl
      let rawName := (truthy (some rawName)).getD "فایل پیوست"
      let mimetype := (texts.lookup "mimetype").getD ""
      let isVideo := texts.lookup "type" = some "video" || mimetype.startsWith "video/" ||
        hasExtension videoExtensions rawName || hasExtension videoExtensions cleanUrl
      let isImage := texts.lookup "type" = some "image" || mimetype.startsWith "image/" ||
        hasExtension imageExtensions rawName || hasExtension imageExtensions cleanUrl
      let type := if isVideo then "video" else if isImage then "image"
        else (truthy (texts.lookup "type")).getD "file"
      return { name := rawName, url := cleanUrl, type
               size := numbers.lookup "size" <|> numbers.lookup "fileSize" }
  | .other => some { name := "فایل پیوست", url := "", type := "file" }

/-- Throws for a file name that is wrongly escaped. -/
def normalizeAttachments (rawList : Option (List RawAttachment)) :
    Result (List Attachment) :=
  orFail ((rawList.getD []).mapM normalizeAttachment) (.thrown "URI malformed")

/-! ### Sending -/

structure CreateMessageDto where
  (title body : String)
  priority : Option MessagePriority := some .normal
  targetType : MessageTargetType
  targetAudience : Option MessageTargetAudience := some .all
  targetClassroomId : Option Id := none
  recipientIds : Option (List Id) := none
  attachments : Option (List RawAttachment) := none
  replyToId : Option Id := none

structure Sent where
  id : Id
  recipientsCount : ℕ

section

variable (db : Db) (tenantId senderId : Id)

def Db.userOf (profiles : Table Profile) (profileId : Id) : Option User := do
  let profile ← profiles.find? profileId
  db.users.find? profile.userId

/-- The profile of a user. -/
def profileOf (profiles : Table Profile) (userId : Id) : Option Profile :=
  profiles.rows.find? (·.userId = userId)

/-- The users of the parents of a student. -/
def Db.parentsOf (studentId : Id) : List User :=
  (db.parentLinks.rows.filter (·.studentId = studentId)).filterMap fun pl =>
    db.userOf db.parentProfiles pl.parentId

/-- Distinct, in the order of a `Set`. -/
def distinct (ids : List Id) : List Id := ids.reverse.dedup.reverse

def getTeacherClassroomIds (teacherProfileId : Option Id) : List Id :=
  match teacherProfileId with
  | none => []
  | some teacherId => distinct ((db.schedules.rows.filter fun s =>
    s.teacherId = teacherId ∧ s.tenantId = tenantId).map (·.classroomId))

/-- The users of the school with one of the roles that are active. -/
def Db.activeUsers (roles : List UserRole) : List User :=
  db.users.rows.filter fun u => u.tenantId = tenantId ∧ u.role ∈ roles ∧ u.status = .active

/-- `roleMap` -/
def targetRoles : MessageTargetAudience → List UserRole
  | .students => [.student]
  | .parents => [.parent]
  | .teachers => [.teacher]
  | .staff => [.staff, .schoolAdmin]
  | .all => [.student, .parent, .teacher, .staff, .schoolAdmin]

def everyRole : List UserRole :=
  [.superAdmin, .schoolAdmin, .teacher, .student, .parent, .staff, .coach]

/-- The students of a class and their parents, as the audience includes them. -/
def classRecipients (dto : CreateMessageDto) (classroomId : Id) : List Id :=
  let enrollments := db.enrollments.rows.filter fun e =>
    e.classroomId = classroomId ∧ e.tenantId = tenantId
  let includeStudents := dto.targetAudience = some .all ∨ dto.targetAudience = some .students
  let includeParents := dto.targetAudience = some .all ∨ dto.targetAudience = some .parents
  enrollments.flatMap fun en =>
    let students :=
      if includeStudents then (db.userOf db.studentProfiles en.studentId).toList else []
    let parents := if includeParents then db.parentsOf en.studentId else []
    (students ++ parents).map (·.id)

def resolveRecipients (dto : CreateMessageDto) : List Id :=
  let addressed : List Id := match dto.targetType, dto.targetClassroomId with
    | .individual, _ => dto.recipientIds.getD []
    | .classroom, some classroomId => classRecipients db tenantId dto classroomId
    | .classroom, none => []
    | .role, _ =>
      (db.activeUsers tenantId (targetRoles (dto.targetAudience.getD .all))).map (·.id)
    | .all, _ => (db.activeUsers tenantId everyRole).map (·.id)
  distinct (addressed.filter (· ≠ senderId))

/-- What students may not do. -/
def checkStudent (dto : CreateMessageDto) : Result Unit := do
  require (dto.targetType = .individual)
    (.forbidden "دانش‌آموزان امکان ارسال پیام گروهی یا همگانی را ندارند")
  require (dto.recipientIds.getD [] ≠ []) (.badRequest "حداقل یک گیرنده برای پیام فردی الزامی است")
  require (∀ u ∈ db.users.rows, u.id ∈ dto.recipientIds.getD [] → u.tenantId = tenantId →
      u.role ≠ .parent)
    (.forbidden "دانش‌آموزان امکان ارسال پیام مستقیم به اولیاء را ندارند")

/-- What parents may not do. -/
def checkParent (dto : CreateMessageDto) : Result Unit := do
  require (dto.targetType = .individual)
    (.forbidden "اولیاء محترم تنها امکان ارسال پیام فردی را دارند")
  require (dto.recipientIds.getD [] ≠ []) (.badRequest "حداقل یک گیرنده برای پیام فردی الزامی است")

def Db.hasBroadcastPerm (userId : Id) : Prop :=
  ∃ usr ∈ db.userSchoolRoles.rows, usr.userId = userId ∧ "message.broadcast" ∈ usr.permissions
deriving Decidable

/-- What teachers may not do. -/
def checkTeacher (dto : CreateMessageDto) : Result Unit :=
  match dto.targetType with
  | .all | .role =>
    require (db.hasBroadcastPerm senderId)
      (.forbidden "ارسال پیام همگانی به کل مدرسه نیازمند مجوز مدیریت است")
  | .classroom => do
      let classroomId ← orFail dto.targetClassroomId
        (.badRequest "شناسه کلاس برای ارسال گروهی الزامی است")
      let profile := (profileOf db.teacherProfiles senderId).map (·.id)
      require (classroomId ∈ getTeacherClassroomIds db tenantId profile)
        (.forbidden "شما تنها مجاز به ارسال پیام به کلاس‌های تحت تدریس خود هستید")
  | .individual => .ok ()

def checkAccess (role : UserRole) (dto : CreateMessageDto) : Result Unit :=
  match role with
  | .student => checkStudent db tenantId dto
  | .parent => checkParent dto
  | .teacher => checkTeacher db tenantId senderId dto
  | _ => .ok ()

def insertRecipient (messageId : Id) (t : Table AcademicMessageRecipient) (recipientId : Id) :
    Result (Table AcademicMessageRecipient) := do
  referred db.users (some recipientId)
  insertRow t { id := t.fresh, tenantId, messageId, recipientId }

/-- The transaction that creates the message and its recipients. -/
def insertMessage (dto : CreateMessageDto) (recipientUserIds : List Id) :
    Result (Db × Sent) := do
  let attachments ← normalizeAttachments dto.attachments
  referred db.classrooms dto.targetClassroomId
  referred db.messages dto.replyToId
  let message : AcademicMessage :=
    { id := db.messages.fresh, tenantId, senderId, title := trim dto.title, body := trim dto.body
      priority := dto.priority.getD .normal, targetType := dto.targetType
      targetAudience := dto.targetAudience.getD .all
      targetClassroomId := dto.targetClassroomId, attachments, replyToId := dto.replyToId }
  let messages ← insertRow db.messages message
  let recipients ← inTurn (insertRecipient db tenantId message.id) db.recipients recipientUserIds
  return ({ db with messages, recipients }, ⟨message.id, recipientUserIds.length⟩)

def Db.userIn (userId : Id) : Option User :=
  db.users.rows.find? fun u => u.id = userId ∧ u.tenantId = tenantId

def createMessage (dto : CreateMessageDto) : Result (Db × Sent) := do
  let sender ← orFail (db.userIn tenantId senderId) (.notFound "کاربر ارسال‌کننده یافت نشد")
  checkAccess db tenantId senderId sender.role dto
  let recipientUserIds := resolveRecipients db tenantId senderId dto
  require (recipientUserIds ≠ []) (.badRequest "هیچ مخاطب فعالی برای این پیام یافت نشد")
  insertMessage db tenantId senderId dto recipientUserIds

end

/-! ### The directory -/

structure DirectoryUser where
  id : Id
  (firstName lastName : String)
  role : UserRole

structure AllowedRecipients where
  (canBroadcast canClassroom canIndividual : Bool)
  classrooms : List Classroom
  users : List DirectoryUser

def User.entry (u : User) : DirectoryUser := ⟨u.id, u.firstName, u.lastName, u.role⟩

def User.entryAs (role : UserRole) (u : User) : DirectoryUser :=
  ⟨u.id, u.firstName, u.lastName, role⟩

/-- `userMap.set(entry.id, entry)`, one after the other. -/
def userMap (entries : List DirectoryUser) : List DirectoryUser :=
  (entries.foldl (fun (map : Dict Id DirectoryUser) e => map.set e.id e) .empty).entries.map (·.2)

section

variable (db : Db) (tenantId userId : Id)

/-- The users of the teachers of a class. -/
def Db.teachersOf (classroomId : Id) : List User :=
  (db.schedules.rows.filter (·.classroomId = classroomId)).filterMap fun sc =>
    db.userOf db.teacherProfiles sc.teacherId

/-- The users of the teachers of the classes of a student. -/
def Db.teachersOfStudent (studentId : Id) : List User :=
  (db.enrollments.rows.filter (·.studentId = studentId)).flatMap fun en =>
    db.teachersOf en.classroomId

def adminRoles : List UserRole := [.schoolAdmin, .superAdmin, .staff]

/-- The active users of the school with a role, but for the one who asks. -/
def Db.others (roles : List UserRole) : List User :=
  (db.activeUsers tenantId roles).filter (·.id ≠ userId)

/-- The students and the parents of a class, but for the one who asks. -/
def classDirectory (classroomId : Id) : List DirectoryUser :=
  (db.enrollments.rows.filter (·.classroomId = classroomId)).flatMap fun en =>
    (((db.userOf db.studentProfiles en.studentId).toList.filter (·.id ≠ userId)).map
      (User.entryAs .student)) ++
    ((db.parentsOf en.studentId).filter (·.id ≠ userId)).map (User.entryAs .parent)

def schedulesOf (teacherProfile : Option Profile) : List ClassSchedule :=
  match teacherProfile with
  | none => []
  | some p => db.schedules.rows.filter fun s => s.teacherId = p.id ∧ s.tenantId = tenantId

def getAllowedRecipients : Result AllowedRecipients := do
  let user ← orFail (db.userIn tenantId userId) (.notFound "کاربر یافت نشد")
  let admins := (db.activeUsers tenantId adminRoles).map User.entry
  match user.role with
  | .superAdmin | .schoolAdmin | .staff =>
    return { canBroadcast := true, canClassroom := true, canIndividual := true
             classrooms := db.classrooms.rows.filter (·.tenantId = tenantId)
             users := (db.others tenantId userId everyRole).map User.entry }
  | .teacher =>
    let schedules := schedulesOf db tenantId (profileOf db.teacherProfiles userId)
    let classrooms := distinct (schedules.map (·.classroomId))
    return { canBroadcast := false, canClassroom := true, canIndividual := true
             classrooms := classrooms.filterMap db.classrooms.find?
             users := userMap (schedules.flatMap (fun s => classDirectory db userId s.classroomId)
               ++ (db.others tenantId userId [.teacher]).map User.entry ++ admins) }
  | .student =>
    let teachers := (profileOf db.studentProfiles userId).toList.flatMap fun p =>
      db.teachersOfStudent p.id
    return { canBroadcast := false, canClassroom := false, canIndividual := true
             classrooms := []
             users := userMap (teachers.map (User.entryAs .teacher) ++
               (db.others tenantId userId [.student]).map User.entry ++ admins) }
  | .parent =>
    let children := (profileOf db.parentProfiles userId).toList.flatMap fun p =>
      (db.parentLinks.rows.filter (·.parentId = p.id)).map (·.studentId)
    return { canBroadcast := false, canClassroom := false, canIndividual := true
             classrooms := []
             users := userMap ((children.flatMap db.teachersOfStudent).map
               (User.entryAs .teacher) ++
               (db.others tenantId userId [.parent]).map User.entry ++ admins) }
  | .coach =>
    return { canBroadcast := false, canClassroom := false, canIndividual := false
             classrooms := [], users := [] }

end

/-! ### Reading -/

structure InboxQuery where
  (page limit : Option ℤ := none)
  (unreadOnly starredOnly : Bool := false)
  search : Option String := none

structure Meta where
  (total page limit totalPages : ℕ)

/-- What is shown of a sender. -/
def senderOf (db : Db) (m : AcademicMessage) : Option DirectoryUser :=
  (db.users.find? m.senderId).map User.entry

structure InboxItem where
  record : AcademicMessageRecipient
  id : Id
  (title body : String)
  priority : MessagePriority
  targetType : MessageTargetType
  targetAudience : MessageTargetAudience
  classroom : Option Classroom
  attachments : List Attachment
  sender : Option DirectoryUser

structure SentItem where
  id : Id
  (title body : String)
  priority : MessagePriority
  targetType : MessageTargetType
  targetAudience : MessageTargetAudience
  classroom : Option Classroom
  attachments : List Attachment
  recipientsCount : ℕ

/-- A message that is replied to. -/
structure RepliedTo where
  id : Id
  (title body : String)
  sender : Option DirectoryUser

structure Reply where
  id : Id
  (title body : String)
  attachments : List Attachment
  sender : Option DirectoryUser

structure MessageDetails where
  message : AcademicMessage
  attachments : List Attachment
  sender : Option DirectoryUser
  targetClassroom : Option Classroom
  replyTo : Option RepliedTo
  replies : List Reply
  recipients : List (AcademicMessageRecipient × Option DirectoryUser)
  (isStarred isRead : Bool)
  readAt : Option Instant
  isSender : Bool

-- `contains` with `mode: 'insensitive'`
variable (contains : String → String → Bool) (db : Db) (tenantId userId : Id)

/-- `Math.max(1, Number(query.page) || 1)` -/
def pageOf (page : Option ℤ) : ℕ := (max 1 (page.getD 1)).toNat

/-- `Math.min(50, Math.max(1, Number(query.limit) || 20))` -/
def limitOf (limit : Option ℤ) : ℕ :=
  let given := if limit = some 0 then 20 else limit.getD 20
  (min 50 (max 1 given)).toNat

/-- `skip` and `take`, the newest first. -/
def pageRows {α : Type} (rows : List α) (page limit : ℕ) : List α :=
  (rows.reverse.drop ((page - 1) * limit)).take limit

def metaOf (total page limit : ℕ) : Meta := ⟨total, page, limit, (total + limit - 1) / limit⟩

/-- `query.search && query.search.trim()` -/
def searchOf (search : Option String) : Option String := truthy (search.map trim)

def textMatches (q : String) (m : AcademicMessage) : Bool := contains m.title q || contains m.body q

def senderMatches (q : String) (m : AcademicMessage) : Bool :=
  (db.users.find? m.senderId).any fun u => contains u.firstName q || contains u.lastName q

/-- The rows of the inbox, each with its message. -/
def inboxRows (query : InboxQuery) : List (AcademicMessageRecipient × AcademicMessage) :=
  (db.recipients.rows.filterMap fun r => (db.messages.find? r.messageId).map (r, ·)).filter
    fun (r, m) => r.tenantId = tenantId ∧ r.recipientId = userId ∧ r.deletedAt = none ∧
      (query.unreadOnly = true → r.isRead = false) ∧
      (query.starredOnly = true → r.isStarred = true) ∧
      ∀ q ∈ searchOf query.search, textMatches contains q m || senderMatches contains db q m

def classroomOf (m : AcademicMessage) : Option Classroom :=
  m.targetClassroomId.bind db.classrooms.find?

def inboxItem (r : AcademicMessageRecipient) (m : AcademicMessage) : InboxItem where
  record := r
  id := m.id
  title := m.title
  body := m.body
  priority := m.priority
  targetType := m.targetType
  targetAudience := m.targetAudience
  classroom := classroomOf db m
  attachments := m.attachments
  sender := senderOf db m

/-- The messages, the counts and how many are unread. -/
def getInbox (query : InboxQuery) : List InboxItem × Meta × ℕ :=
  let rows := inboxRows contains db tenantId userId query
  let page := pageOf query.page
  let limit := limitOf query.limit
  let unreadCount := db.recipients.count fun r =>
    r.tenantId = tenantId ∧ r.recipientId = userId ∧ r.isRead = false ∧ r.deletedAt = none
  ((pageRows rows page limit).map fun (r, m) => inboxItem db r m,
    metaOf rows.length page limit, unreadCount)

def sentRows (query : InboxQuery) : List AcademicMessage :=
  db.messages.rows.filter fun m => m.tenantId = tenantId ∧ m.senderId = userId ∧
    ∀ q ∈ searchOf query.search, textMatches contains q m

def sentItem (m : AcademicMessage) : SentItem where
  id := m.id
  title := m.title
  body := m.body
  priority := m.priority
  targetType := m.targetType
  targetAudience := m.targetAudience
  classroom := classroomOf db m
  attachments := m.attachments
  recipientsCount := db.recipients.count (·.messageId = m.id)

def getSentMessages (query : InboxQuery) : List SentItem × Meta :=
  let rows := sentRows contains db tenantId userId query
  let page := pageOf query.page
  let limit := limitOf query.limit
  ((pageRows rows page limit).map (sentItem db), metaOf rows.length page limit)

/-- `replyTo` -/
def repliedTo (m : AcademicMessage) : Option RepliedTo := do
  let r ← m.replyToId.bind db.messages.find?
  return { id := r.id, title := r.title, body := r.body, sender := senderOf db r }

/-- `replies`, the oldest first. -/
def repliesOf (messageId : Id) : List Reply :=
  (db.messages.rows.filter (·.replyToId = some messageId)).map fun r =>
    { id := r.id, title := r.title, body := r.body, attachments := r.attachments
      sender := senderOf db r }

def recipientRecord (messageId : Id) : Option AcademicMessageRecipient :=
  db.recipients.rows.find? fun r => r.messageId = messageId ∧ r.recipientId = userId

/-- What a stored attachment is sent out as. -/
def Attachment.raw (a : Attachment) : RawAttachment :=
  .object [("name", a.name), ("url", a.url), ("type", a.type)]
    (a.size.toList.map (("size", ·)))

def AcademicMessageRecipient.asRead (now : Instant) (r : AcademicMessageRecipient) :
    AcademicMessageRecipient := { r with isRead := true, readAt := some now }

theorem key_asRead (now : Instant) (r : AcademicMessageRecipient) :
    Record.key (r.asRead now) = Record.key r := rfl

/-- A recipient who reads the message for the first time is marked as having read it. -/
def markRead (now : Instant) (record : Option AcademicMessageRecipient) (db : Db) :
    Result Db :=
  match record with
  | some r =>
    if r.isRead then .ok db
    else do
      let recipients ←
        updateRow db.recipients r.id (AcademicMessageRecipient.asRead now) (key_asRead now)
      return { db with recipients }
  | none => .ok db

def detailsOf (now : Instant) (message : AcademicMessage)
    (record : Option AcademicMessageRecipient) (attachments : List Attachment) :
    MessageDetails where
  message
  attachments
  sender := senderOf db message
  targetClassroom := classroomOf db message
  replyTo := repliedTo db message
  replies := repliesOf db message.id
  recipients := ((db.recipients.rows.filter (·.messageId = message.id)).take 50).map fun r =>
    (r, (db.users.find? r.recipientId).map User.entry)
  isStarred := (record.map (·.isStarred)).getD false
  isRead := record.isSome
  readAt := record.bind fun r => if r.isRead then r.readAt else some now
  isSender := message.senderId = userId

def getMessageDetails (now : Instant) (messageId : Id) : Result (Db × MessageDetails) := do
  let message ← orFail ((db.messages.find? messageId).filter (·.tenantId = tenantId))
    (.notFound "پیام مورد نظر یافت نشد")
  let record := recipientRecord db userId messageId
  require (message.senderId = userId ∨ record.isSome = true)
    (.forbidden "شما اجازه دسترسی به این پیام را ندارید")
  let db' ← markRead now record db
  let attachments ← normalizeAttachments (some (message.attachments.map Attachment.raw))
  return (db', detailsOf db userId now message record attachments)

end Rokad.Messages
