import Rokad.Base.Run
import Rokad.Messages.Service

/-!
# Messages are for those they are sent to

What a user is shown should not depend on the texts of messages that the user has neither sent nor
received. The inbox and what was sent are read off such messages alone. But who opens a message is
also shown the message that it replies to and those that reply to it, and which these are is taken
from whoever sends them (`not_confidential`).

So the answers depend on nothing else exactly where the messages that a user may open are linked to
none that are hidden from that user (`confidential_iff`). `veiled` blanks what is hidden: two states
are alike to a user when they are the same once veiled, and the answers are those of the veiled
state.
-/

namespace Rokad.Messages

open Rokad.Base Rokad.Common

/-! ### What is to be kept -/

structure Call where
  (tenantId senderId : Id)
  dto : CreateMessageDto

def step (db : Db) (c : Call) : Db :=
  match createMessage db c.tenantId c.senderId c.dto with
  | .ok (db', _) => db'
  | .error _ => db

/-- The messages are those that calls have created. -/
def Built (db : Db) : Prop :=
  ∃ start calls, start.messages = .empty ∧ start.recipients = .empty ∧ db = run step start calls

section

variable (db : Db) (userId : Id)

/-- The user has sent the message, or is a recipient of it. -/
def sees (m : AcademicMessage) : Prop :=
  m.senderId = userId ∨ ∃ r ∈ db.recipients.rows, r.messageId = m.id ∧ r.recipientId = userId
deriving Decidable

def AcademicMessage.blank (m : AcademicMessage) : AcademicMessage :=
  { m with title := "", body := "", attachments := [] }

theorem key_blank (m : AcademicMessage) : Record.key m.blank = Record.key m := rfl

theorem clash_blank (m m' : AcademicMessage) : Record.clash m.blank m' = Record.clash m m' := rfl

/-- The state without the texts that are hidden from the user. -/
def veiled : Db :=
  { db with
    messages := db.messages.updateMany (fun m => !decide (sees db userId m))
      AcademicMessage.blank key_blank clash_blank }

/-- The same answers to the user, whatever is asked for. -/
structure SameAnswers (contains : String → String → Bool) (tenantId : Id) (db' : Db) : Prop where
  inbox : ∀ query, getInbox contains db tenantId userId query =
    getInbox contains db' tenantId userId query
  sent : ∀ query, getSentMessages contains db tenantId userId query =
    getSentMessages contains db' tenantId userId query
  details : ∀ now messageId, (getMessageDetails db tenantId userId now messageId).map (·.2) =
    (getMessageDetails db' tenantId userId now messageId).map (·.2)

/-- States that differ in hidden texts alone give the same answers. -/
def Confidential (contains : String → String → Bool) (tenantId : Id) : Prop :=
  ∀ db', Built db' → veiled db userId = veiled db' userId →
    SameAnswers db userId contains tenantId db'

/-- The messages of the school that the user may open reply to none, and are replied to by none,
that is hidden from the user. -/
def LinksSeen (tenantId : Id) : Prop :=
  ∀ m ∈ db.messages.rows, m.tenantId = tenantId → sees db userId m →
    (∀ r ∈ m.replyToId.bind db.messages.find?, sees db userId r) ∧
      ∀ r ∈ db.messages.rows, r.replyToId = some m.id → sees db userId r
deriving Decidable

end

/-! ### Answers are those of the veiled state -/

section

variable {db : Db} {userId : Id} {m : AcademicMessage}

/-- A message as it is in the veiled state. -/
def veil (db : Db) (userId : Id) (m : AcademicMessage) : AcademicMessage :=
  if sees db userId m then m else m.blank

theorem veil_of_sees (seen : sees db userId m) : veil db userId m = m := if_pos seen

theorem veil_eq (db : Db) (userId : Id) (m : AcademicMessage) : veil db userId m =
    if (!decide (sees db userId m)) = true then m.blank else m := by
  unfold veil
  split <;> rename_i seen <;> simp [seen]

theorem rows_veiled (db : Db) (userId : Id) :
    (veiled db userId).messages.rows = db.messages.rows.map (veil db userId) :=
  List.map_congr_left fun m _ => (veil_eq db userId m).symm

theorem find?_veiled (db : Db) (userId k : Id) :
    (veiled db userId).messages.find? k = (db.messages.find? k).map (veil db userId) := by
  unfold veiled
  rw [Table.find?_updateMany]
  have same := funext (veil_eq db userId)
  rw [same]

/-- Of what is hidden only texts are blanked. -/
theorem veil_keeps (db : Db) (userId : Id) (m : AcademicMessage) :
    (veil db userId m).id = m.id ∧ (veil db userId m).tenantId = m.tenantId ∧
      (veil db userId m).senderId = m.senderId ∧ (veil db userId m).replyToId = m.replyToId := by
  unfold veil
  split <;> exact ⟨rfl, rfl, rfl, rfl⟩

theorem sees_veil (db : Db) (userId : Id) (m : AcademicMessage) :
    sees (veiled db userId) userId (veil db userId m) ↔ sees db userId m := by
  obtain ⟨id, -, sender, -⟩ := veil_keeps db userId m
  unfold sees
  rw [id, sender]
  rfl

variable (contains : String → String → Bool) (tenantId : Id)

theorem inboxRows_veiled (db : Db) (userId : Id) (query : InboxQuery) :
    inboxRows contains (veiled db userId) tenantId userId query =
      inboxRows contains db tenantId userId query := by
  unfold inboxRows
  rw [List.filter_filterMap, List.filter_filterMap]
  refine List.filterMap_congr fun r mem => ?_
  rw [find?_veiled]
  cases found : db.messages.find? r.messageId with
  | none => rfl
  | some m =>
    by_cases own : r.recipientId = userId
    · have seen : sees db userId m :=
        Or.inr ⟨r, mem, (key_of_find? found).symm, own⟩
      rw [Option.map_some, veil_of_sees seen]
      rfl
    · rw [Option.map_some, Option.map_some, Option.map_some, Option.filter_some,
        Option.filter_some, if_neg (by simp [own]), if_neg (by simp [own])]

theorem getInbox_veiled (db : Db) (userId : Id) (query : InboxQuery) :
    getInbox contains (veiled db userId) tenantId userId query =
      getInbox contains db tenantId userId query := by
  unfold getInbox
  rw [inboxRows_veiled]
  rfl

theorem sentRows_veiled (db : Db) (userId : Id) (query : InboxQuery) :
    sentRows contains (veiled db userId) tenantId userId query =
      sentRows contains db tenantId userId query := by
  unfold sentRows
  rw [rows_veiled, List.filter_map]
  have own (m : AcademicMessage) (sender : m.senderId = userId) : veil db userId m = m :=
    veil_of_sees (Or.inl sender)
  have same : db.messages.rows.filter ((fun m : AcademicMessage => decide (m.tenantId = tenantId ∧
      m.senderId = userId ∧ ∀ q ∈ searchOf query.search, textMatches contains q m)) ∘
        veil db userId) = db.messages.rows.filter fun m => decide (m.tenantId = tenantId ∧
          m.senderId = userId ∧ ∀ q ∈ searchOf query.search, textMatches contains q m) := by
    refine List.filter_congr fun m _ => decide_eq_decide.mpr ?_
    obtain ⟨-, tenant, sender, -⟩ := veil_keeps db userId m
    rw [tenant, sender]
    refine and_congr_right fun _ => and_congr_right fun this => ?_
    rw [own m this]
  rw [same]
  refine (List.map_congr_left fun m mem => ?_).trans (List.map_id _)
  have meets := (List.mem_filter.mp mem).2
  exact own m (of_decide_eq_true meets).2.1

theorem getSentMessages_veiled (db : Db) (userId : Id) (query : InboxQuery) :
    getSentMessages contains (veiled db userId) tenantId userId query =
      getSentMessages contains db tenantId userId query := by
  unfold getSentMessages
  rw [sentRows_veiled]
  rfl

theorem linksSeen_veiled (db : Db) (userId : Id) :
    LinksSeen (veiled db userId) userId tenantId ↔ LinksSeen db userId tenantId := by
  unfold LinksSeen
  simp only [rows_veiled, List.forall_mem_map]
  refine forall₂_congr fun m _ => ?_
  obtain ⟨id, tenant, -, reply⟩ := veil_keeps db userId m
  rw [tenant, sees_veil, id, reply]
  refine imp_congr_right fun _ => imp_congr_right fun _ => and_congr ?_ ?_
  · cases m.replyToId with
    | none => simp
    | some k =>
      simp only [Option.bind_some, find?_veiled]
      cases db.messages.find? k with
      | none => simp
      | some r => simpa using sees_veil db userId r
  · refine forall₂_congr fun r _ => ?_
    rw [(veil_keeps db userId r).2.2.2, sees_veil]

theorem repliedTo_veiled (seen : ∀ r ∈ m.replyToId.bind db.messages.find?, sees db userId r) :
    repliedTo (veiled db userId) m = repliedTo db m := by
  unfold repliedTo
  cases reply : m.replyToId with
  | none => rfl
  | some k =>
    rw [Option.bind_some, Option.bind_some, find?_veiled]
    cases found : db.messages.find? k with
    | none => rfl
    | some r =>
      rw [reply, Option.bind_some, found] at seen
      rw [Option.map_some, veil_of_sees (seen r rfl)]
      rfl

theorem repliesOf_veiled {messageId : Id}
    (seen : ∀ r ∈ db.messages.rows, r.replyToId = some messageId → sees db userId r) :
    repliesOf (veiled db userId) messageId = repliesOf db messageId := by
  unfold repliesOf
  rw [rows_veiled, List.filter_map, List.map_map]
  have same : db.messages.rows.filter ((fun r : AcademicMessage =>
      decide (r.replyToId = some messageId)) ∘ veil db userId) =
        db.messages.rows.filter fun r => decide (r.replyToId = some messageId) := by
    refine List.filter_congr fun r _ => decide_eq_decide.mpr ?_
    rw [(veil_keeps db userId r).2.2.2]
  rw [same]
  refine List.map_congr_left fun r mem => ?_
  obtain ⟨stored, reply⟩ := List.mem_filter.mp mem
  rw [Function.comp, veil_of_sees (seen r stored (of_decide_eq_true reply))]
  rfl

theorem sees_of_record {messageId : Id} (found : db.messages.find? messageId = some m)
    (access : m.senderId = userId ∨ (recipientRecord db userId messageId).isSome = true) :
    sees db userId m := by
  rcases access with own | received
  · exact Or.inl own
  · obtain ⟨r, first⟩ := Option.isSome_iff_exists.mp received
    have meets : r.messageId = messageId ∧ r.recipientId = userId := by
      simpa using List.find?_some first
    exact Or.inr ⟨r, List.mem_of_find?_eq_some first,
      meets.1.trans (key_of_find? found).symm, meets.2⟩

/-- What is answered about a message of the school. -/
theorem getMessageDetails_of_found {messageId : Id} (found : db.messages.find? messageId = some m)
    (ofSchool : m.tenantId = tenantId) (now : Instant) :
    (getMessageDetails db tenantId userId now messageId).map (·.2) =
      if m.senderId = userId ∨ (recipientRecord db userId messageId).isSome = true then
        (markRead now (recipientRecord db userId messageId) db).bind fun _ =>
          (normalizeAttachments (some (m.attachments.map Attachment.raw))).map
            (detailsOf db userId now m (recipientRecord db userId messageId))
      else .error (.forbidden "شما اجازه دسترسی به این پیام را ندارید") := by
  unfold getMessageDetails
  rw [found, Option.filter_some, if_pos (decide_eq_true ofSchool)]
  simp only [orFail, require, bind, Except.bind]
  split_ifs
  · cases markRead now (recipientRecord db userId messageId) db with
    | error e => rfl
    | ok db' =>
      cases normalizeAttachments (some (m.attachments.map Attachment.raw)) with
      | error e => rfl
      | ok attachments => rfl
  · rfl

theorem markRead_veiled (now : Instant) (record : Option AcademicMessageRecipient) {α : Type}
    (f : Result α) : ((markRead now record (veiled db userId)).bind fun _ => f) =
      (markRead now record db).bind fun _ => f := by
  cases record with
  | none => rfl
  | some r =>
    unfold markRead
    dsimp only
    split
    · rfl
    · have same : (veiled db userId).recipients = db.recipients := rfl
      rw [same]
      cases updateRow db.recipients r.id (AcademicMessageRecipient.asRead now)
        (key_asRead now) with
      | error e => rfl
      | ok recipients => rfl

/-- Of a message whose links are seen, all that is shown is in the veiled state. -/
theorem getMessageDetails_veiled (links : LinksSeen db userId tenantId) (now : Instant)
    (messageId : Id) :
    (getMessageDetails (veiled db userId) tenantId userId now messageId).map (·.2) =
      (getMessageDetails db tenantId userId now messageId).map (·.2) := by
  cases found : db.messages.find? messageId with
  | none =>
    unfold getMessageDetails
    rw [find?_veiled, found]
    rfl
  | some m =>
    obtain ⟨-, tenant, sender, -⟩ := veil_keeps db userId m
    have found' : (veiled db userId).messages.find? messageId = some (veil db userId m) := by
      rw [find?_veiled, found, Option.map_some]
    by_cases ofSchool : m.tenantId = tenantId
    · rw [getMessageDetails_of_found tenantId found ofSchool,
        getMessageDetails_of_found tenantId found' (tenant.trans ofSchool), sender]
      have record : recipientRecord (veiled db userId) userId messageId =
        recipientRecord db userId messageId := rfl
      rw [record]
      split
      · rename_i access
        have seen := sees_of_record found access
        obtain ⟨repliesTo, replies⟩ := links m (mem_of_find? found) ofSchool seen
        rw [veil_of_sees seen, markRead_veiled]
        have same : detailsOf (veiled db userId) userId now m = detailsOf db userId now m := by
          unfold detailsOf
          rw [repliedTo_veiled repliesTo, repliesOf_veiled replies]
          rfl
        rw [same]
      · rfl
    · unfold getMessageDetails
      rw [found, found', Option.filter_some, Option.filter_some,
        if_neg (by rw [tenant]; simpa using ofSchool),
        if_neg (by simpa using ofSchool)]
      rfl

/-- Where links are seen nothing hidden is shown. -/
theorem confidential_of_links (links : LinksSeen db userId tenantId) :
    Confidential db userId contains tenantId := by
  rintro db' - alike
  have links' : LinksSeen db' userId tenantId := by
    rw [← linksSeen_veiled, ← alike, linksSeen_veiled]
    exact links
  constructor
  · intro query
    rw [← getInbox_veiled, alike, getInbox_veiled]
  · intro query
    rw [← getSentMessages_veiled, alike, getSentMessages_veiled]
  · intro now messageId
    rw [← getMessageDetails_veiled tenantId links, alike, getMessageDetails_veiled tenantId links']

end

/-! ### Another title -/

section

variable {db db' : Db} {userId k : Id} {title : String} {c : Call}

def AcademicMessage.titled (title : String) (m : AcademicMessage) : AcademicMessage :=
  { m with title }

theorem key_titled (title : String) (m : AcademicMessage) :
    Record.key (m.titled title) = Record.key m := rfl

theorem clash_titled (title : String) (m m' : AcademicMessage) :
    Record.clash (m.titled title) m' = Record.clash m m' := rfl

/-- The state with another title for one message. -/
def retitled (k : Id) (title : String) (db : Db) : Db :=
  { db with
    messages := db.messages.updateMany (·.id = k) (AcademicMessage.titled title)
      (key_titled title) (clash_titled title) }

theorem find?_retitled (k' : Id) : (retitled k title db).messages.find? k' =
    (db.messages.find? k').map fun m => if m.id = k then m.titled title else m := by
  unfold retitled
  rw [Table.find?_updateMany]
  simp

/-- The message that a call creates. -/
def Call.message (c : Call) (id : Id) (attachments : List Attachment) : AcademicMessage :=
  { id, tenantId := c.tenantId, senderId := c.senderId, title := trim c.dto.title
    body := trim c.dto.body, priority := c.dto.priority.getD .normal
    targetType := c.dto.targetType, targetAudience := c.dto.targetAudience.getD .all
    targetClassroomId := c.dto.targetClassroomId, attachments, replyToId := c.dto.replyToId }

/-- What is checked before anything is created; no message is looked at. -/
def Call.checked (c : Call) (db : Db) : Result (List Attachment) := do
  let sender ← orFail (db.userIn c.tenantId c.senderId) (.notFound "کاربر ارسال‌کننده یافت نشد")
  checkAccess db c.tenantId c.senderId sender.role c.dto
  require (resolveRecipients db c.tenantId c.senderId c.dto ≠ [])
    (.badRequest "هیچ مخاطب فعالی برای این پیام یافت نشد")
  let attachments ← normalizeAttachments c.dto.attachments
  referred db.classrooms c.dto.targetClassroomId
  return attachments

theorem createMessage_eq (db : Db) (c : Call) :
    createMessage db c.tenantId c.senderId c.dto = (do
      let attachments ← c.checked db
      referred db.messages c.dto.replyToId
      let messages ← insertRow db.messages (c.message db.messages.fresh attachments)
      let recipients ← inTurn (insertRecipient db c.tenantId db.messages.fresh) db.recipients
        (resolveRecipients db c.tenantId c.senderId c.dto)
      return ({ db with messages, recipients }, ⟨db.messages.fresh,
        (resolveRecipients db c.tenantId c.senderId c.dto).length⟩)) := by
  unfold createMessage insertMessage Call.checked
  simp only [bind_assoc, pure_bind]
  rfl

/-- A call creates one message with its recipients, or nothing. -/
theorem step_cases (db : Db) (c : Call) : step db c = db ∨ ∃ attachments messages recipients,
    normalizeAttachments c.dto.attachments = .ok attachments ∧
      db.messages.insert (c.message db.messages.fresh attachments) = some messages ∧
        step db c = { db with messages, recipients } := by
  unfold step
  cases done : createMessage db c.tenantId c.senderId c.dto with
  | error e => exact Or.inl rfl
  | ok result =>
    right
    rw [createMessage_eq] at done
    simp only [Call.checked, do_eq_ok, insertRow_eq_ok] at done
    obtain ⟨attachments, ⟨-, -, -, -, -, -, _, normal, -, -, rfl⟩, -, -, messages, inserted,
      recipients, -, rfl⟩ := done
    exact ⟨_, messages, recipients, normal, inserted, rfl⟩

theorem find?_step {m : AcademicMessage} (found : db.messages.find? k = some m) :
    (step db c).messages.find? k = some m := by
  rcases step_cases db c with same | ⟨_, messages, _, -, inserted, same⟩
  · rwa [same]
  · rw [same]
    exact Table.find?_insert_of_found inserted found

/-- A message that was not there before is the one created. -/
theorem eq_fresh_of_find?_step {m : AcademicMessage} (none : db.messages.find? k = none)
    (found : (step db c).messages.find? k = some m) : k = db.messages.fresh := by
  rcases step_cases db c with same | ⟨attachments, messages, _, -, inserted, same⟩
  · rw [same, none] at found
    cases found
  · rw [same] at found
    by_contra differ
    have other : Record.key (c.message db.messages.fresh attachments) ≠ k := Ne.symm differ
    have before := Table.find?_insert inserted k
    rw [if_neg other, none] at before
    dsimp only at found
    rw [before] at found
    cases found

/-- No call looks at the title of a message. -/
theorem step_retitled {m : AcademicMessage} (found : db.messages.find? k = some m) :
    step (retitled k title db) c = retitled k title (step db c) := by
  have other : db.messages.fresh ≠ k := by
    have below := db.messages.key_lt_fresh (mem_of_find? found)
    rw [key_of_find? found] at below
    omega
  have fresh : (retitled k title db).messages.fresh = db.messages.fresh := by
    unfold retitled
    rw [Table.fresh_updateMany]
  have refers : referred (retitled k title db).messages c.dto.replyToId =
      referred db.messages c.dto.replyToId := by
    have has : (retitled k title db).messages.has c.dto.replyToId =
        db.messages.has c.dto.replyToId := by
      unfold retitled
      rw [Table.has_updateMany]
    unfold referred
    rw [has]
  have inserts (attachments : List Attachment) : insertRow (retitled k title db).messages
      (c.message db.messages.fresh attachments) =
        (insertRow db.messages (c.message db.messages.fresh attachments)).map fun messages =>
          messages.updateMany (·.id = k) (AcademicMessage.titled title) (key_titled title)
            (clash_titled title) := by
    have row : (if decide ((c.message db.messages.fresh attachments).id = k) = true then
        (c.message db.messages.fresh attachments).titled title else
        c.message db.messages.fresh attachments) = c.message db.messages.fresh attachments :=
      if_neg (decide_eq_false other ▸ Bool.false_ne_true)
    unfold insertRow retitled
    rw [Table.insert_updateMany row]
    cases db.messages.insert (c.message db.messages.fresh attachments) <;> rfl
  have checks : c.checked (retitled k title db) = c.checked db := rfl
  have addresses : resolveRecipients (retitled k title db) c.tenantId c.senderId c.dto =
    resolveRecipients db c.tenantId c.senderId c.dto := rfl
  have adds : insertRecipient (retitled k title db) = insertRecipient db := rfl
  have rows : (retitled k title db).recipients = db.recipients := rfl
  unfold step
  rw [createMessage_eq, createMessage_eq, checks, refers, fresh, addresses, adds, rows]
  simp only [inserts]
  cases c.checked db with
  | error e => rfl
  | ok attachments =>
    simp only [bind, Except.bind]
    cases referred db.messages c.dto.replyToId with
    | error e => rfl
    | ok _ =>
      dsimp only
      cases insertRow db.messages (c.message db.messages.fresh attachments) with
      | error e => rfl
      | ok messages =>
        dsimp only [Except.map]
        cases inTurn (insertRecipient db c.tenantId db.messages.fresh) db.recipients
          (resolveRecipients db c.tenantId c.senderId c.dto) with
        | error e => rfl
        | ok recipients => rfl

/-- The call with another title. -/
def Call.titled (c : Call) (title : String) : Call := { c with dto := { c.dto with title } }

theorem retitled_fresh (db : Db) (title : String) : retitled db.messages.fresh title db = db := by
  unfold retitled
  rw [Table.updateMany_of_none]
  intro m mem
  exact decide_eq_false fun same => absurd (db.messages.key_lt_fresh mem) (by
    rw [← same]
    exact lt_irrefl _)

theorem step_titled (db : Db) (c : Call) (trimmed : trim title = title) :
    step db (c.titled title) = retitled db.messages.fresh title (step db c) := by
  have message (attachments : List Attachment) :
      (c.titled title).message db.messages.fresh attachments =
        (c.message db.messages.fresh attachments).titled title := by
    unfold Call.message Call.titled
    dsimp only
    rw [trimmed]
    rfl
  have inserts (attachments : List Attachment) :
      insertRow db.messages ((c.message db.messages.fresh attachments).titled title) =
        (insertRow db.messages (c.message db.messages.fresh attachments)).map fun messages =>
          messages.updateMany (·.id = db.messages.fresh) (AcademicMessage.titled title)
            (key_titled title) (clash_titled title) := by
    have row : (if decide ((c.message db.messages.fresh attachments).id = db.messages.fresh) = true
        then (c.message db.messages.fresh attachments).titled title else
        c.message db.messages.fresh attachments) =
          (c.message db.messages.fresh attachments).titled title := if_pos (decide_eq_true rfl)
    have moved := @Table.insert_updateMany _ _ db.messages (·.id = db.messages.fresh)
      (AcademicMessage.titled title) (key_titled title) (clash_titled title) _ _ row
    have unmoved := congrArg Db.messages (retitled_fresh db title)
    unfold retitled at unmoved
    dsimp only at unmoved
    rw [unmoved] at moved
    unfold insertRow
    rw [moved]
    cases db.messages.insert (c.message db.messages.fresh attachments) <;> rfl
  have checks : (c.titled title).checked db = c.checked db := rfl
  have addresses : resolveRecipients db (c.titled title).tenantId (c.titled title).senderId
    (c.titled title).dto = resolveRecipients db c.tenantId c.senderId c.dto := rfl
  have tenant : (c.titled title).tenantId = c.tenantId := rfl
  have reply : (c.titled title).dto.replyToId = c.dto.replyToId := rfl
  unfold step
  rw [createMessage_eq, createMessage_eq, checks, addresses, tenant, reply]
  simp only [message, inserts]
  cases c.checked db with
  | error e => exact (retitled_fresh db title).symm
  | ok attachments =>
    simp only [bind, Except.bind]
    cases referred db.messages c.dto.replyToId with
    | error e => exact (retitled_fresh db title).symm
    | ok _ =>
      dsimp only
      cases insertRow db.messages (c.message db.messages.fresh attachments) with
      | error e => exact (retitled_fresh db title).symm
      | ok messages =>
        dsimp only [Except.map]
        cases inTurn (insertRecipient db c.tenantId db.messages.fresh) db.recipients
          (resolveRecipients db c.tenantId c.senderId c.dto) with
        | error e => exact (retitled_fresh db title).symm
        | ok recipients => rfl

theorem run_retitled {m : AcademicMessage} (found : db.messages.find? k = some m)
    (calls : List Call) :
    run step (retitled k title db) calls = retitled k title (run step db calls) := by
  induction calls generalizing db m with
  | nil => rfl
  | cons c calls ih => rw [run_cons, run_cons, step_retitled found, ih (find?_step found)]

/-- A message could have been given any other title. -/
theorem exists_run_retitled {m : AcademicMessage} (trimmed : trim title = title)
    (none : db.messages.find? k = none) {calls : List Call}
    (found : (run step db calls).messages.find? k = some m) :
    ∃ calls', run step db calls' = retitled k title (run step db calls) := by
  induction calls generalizing db with
  | nil =>
    rw [run_nil, none] at found
    cases found
  | cons c calls ih =>
    rw [run_cons] at found
    cases there : (step db c).messages.find? k with
    | none =>
      obtain ⟨calls', same⟩ := ih there found
      exact ⟨c :: calls', same⟩
    | some m' =>
      obtain rfl := eq_fresh_of_find?_step none there
      refine ⟨c.titled title :: calls, ?_⟩
      rw [run_cons, run_cons, step_titled db c trimmed, run_retitled there]

theorem Built.retitled {m : AcademicMessage} (built : Built db) (trimmed : trim title = title)
    (found : db.messages.find? k = some m) : Built (retitled k title db) := by
  obtain ⟨start, calls, messages, recipients, rfl⟩ := built
  have none : start.messages.find? k = none := by
    rw [messages]
    rfl
  obtain ⟨calls', same⟩ := exists_run_retitled trimmed none found
  exact ⟨start, calls', messages, recipients, same.symm⟩

end

/-! ### Names of attachments -/

section

theorem getD_truthy_ne_empty {s : Option String} {other : String} (given : other ≠ "") :
    (truthy s).getD other ≠ "" := by
  cases named : truthy s with
  | none => exact given
  | some x => exact (truthy_eq_some_iff.mp named).2

theorem name_normalizeAttachment {raw : RawAttachment} {a : Attachment}
    (normal : normalizeAttachment raw = some a) : a.name ≠ "" := by
  cases raw with
  | text s =>
    simp only [normalizeAttachment, bind, Option.bind_eq_some_iff, pure,
      Option.some.injEq] at normal
    obtain ⟨fileName, decoded, rfl⟩ := normal
    exact decodeURIComponent_ne_empty decoded (getD_truthy_ne_empty (by decide))
  | object texts numbers =>
    simp only [normalizeAttachment, bind, Option.bind_eq_some_iff, pure,
      Option.some.injEq] at normal
    obtain ⟨rawName, -, rfl⟩ := normal
    exact getD_truthy_ne_empty (by decide)
  | other =>
    cases normal
    decide

theorem exists_of_mapM {α β : Type} {f : α → Option β} {as : List α} {bs : List β}
    (done : as.mapM f = some bs) {b : β} (mem : b ∈ bs) : ∃ a ∈ as, f a = some b := by
  induction as generalizing bs with
  | nil =>
    cases done
    cases mem
  | cons a as ih =>
    rw [List.mapM_cons] at done
    simp only [bind, Option.bind_eq_some_iff, pure, Option.some.injEq] at done
    obtain ⟨first, one, rest, others, rfl⟩ := done
    rcases List.mem_cons.mp mem with rfl | mem
    · exact ⟨a, List.mem_cons_self, one⟩
    · obtain ⟨a', mem', found⟩ := ih others mem
      exact ⟨a', List.mem_cons_of_mem _ mem', found⟩

/-- What is stored goes out again. -/
theorem normalizeAttachments_raw {attachments : List Attachment}
    (named : ∀ a ∈ attachments, a.name ≠ "") :
    ∃ sent, normalizeAttachments (some (attachments.map Attachment.raw)) = .ok sent := by
  have one (a : Attachment) (given : a.name ≠ "") : (normalizeAttachment a.raw).isSome = true := by
    have first : firstText [("name", a.name), ("url", a.url), ("type", a.type)]
        ["name", "originalName", "filename", "fileName", "title"] = some a.name := by
      simp [firstText, truthy, given]
    simp [normalizeAttachment, Attachment.raw, first]
  have all : ((attachments.map Attachment.raw).mapM normalizeAttachment).isSome = true := by
    induction attachments with
    | nil => rfl
    | cons a rest ih =>
      obtain ⟨sent, this⟩ := Option.isSome_iff_exists.mp (one a (named a List.mem_cons_self))
      obtain ⟨others, those⟩ := Option.isSome_iff_exists.mp
        (ih fun b mem => named b (List.mem_cons_of_mem _ mem))
      rw [List.map_cons, List.mapM_cons, this, those]
      rfl
  obtain ⟨sent, done⟩ := Option.isSome_iff_exists.mp all
  exact ⟨sent, by rw [normalizeAttachments, Option.getD_some, done, orFail]⟩

def Named (db : Db) : Prop := ∀ m ∈ db.messages.rows, ∀ a ∈ m.attachments, a.name ≠ ""

theorem Named.step {db : Db} (named : Named db) (c : Call) : Named (step db c) := by
  rcases step_cases db c with same | ⟨attachments, messages, _, normal, inserted, same⟩
  · rwa [same]
  · rw [same]
    intro m mem
    rcases (mem_insert inserted).mp mem with old | rfl
    · exact named m old
    · intro a given
      simp only [normalizeAttachments, orFail_eq_ok] at normal
      obtain ⟨raw, -, one⟩ := exists_of_mapM normal given
      exact name_normalizeAttachment one

theorem Built.named {db : Db} (built : Built db) : Named db := by
  obtain ⟨start, calls, messages, -, rfl⟩ := built
  refine run_keeps (fun db c named => named.step c) ?_ calls
  intro m mem
  rw [messages] at mem
  cases mem

end

/-! ### What is shown of links -/

section

variable {db : Db} {userId tenantId : Id} {m r : AcademicMessage}

/-- What a user sees can be opened. -/
theorem exists_details (built : Built db) (mem : m ∈ db.messages.rows)
    (ofSchool : m.tenantId = tenantId) (seen : sees db userId m) (now : Instant) :
    ∃ sent, (getMessageDetails db tenantId userId now m.id).map (·.2) =
      .ok (detailsOf db userId now m (recipientRecord db userId m.id) sent) := by
  have access : m.senderId = userId ∨ (recipientRecord db userId m.id).isSome = true := by
    rcases seen with own | ⟨r, there, ofMessage, received⟩
    · exact Or.inl own
    · refine Or.inr (List.find?_isSome.mpr ⟨r, there, ?_⟩)
      simp [ofMessage, received]
  obtain ⟨sent, done⟩ := normalizeAttachments_raw (built.named m mem)
  refine ⟨sent, ?_⟩
  have found : db.messages.find? m.id = some m := find?_key _ mem
  rw [getMessageDetails_of_found tenantId found ofSchool, if_pos access, done]
  have marked : ∃ db', markRead now (recipientRecord db userId m.id) db = .ok db' := by
    cases found : recipientRecord db userId m.id with
    | none => exact ⟨db, rfl⟩
    | some r =>
      unfold markRead
      dsimp only
      split
      · exact ⟨db, rfl⟩
      · have there : db.recipients.find? r.id = some r :=
          find?_key _ (List.mem_of_find?_eq_some found)
        obtain ⟨t, updated⟩ := @Table.update_isSome _ _ _ _ _ (key_asRead now) _ there
          fun _ _ => rfl
        rw [updateRow_eq_ok.mpr updated]
        exact ⟨_, rfl⟩
  obtain ⟨db', marked⟩ := marked
  rw [marked]
  rfl

/-- A row of the state with another title. -/
theorem mem_retitled {k : Id} {title : String} {x : AcademicMessage} :
    x ∈ (retitled k title db).messages.rows ↔
      ∃ m ∈ db.messages.rows, (if m.id = k then m.titled title else m) = x := by
  unfold retitled Table.updateMany
  simp [List.mem_map]

theorem sees_retitled {k : Id} {title : String} :
    sees (retitled k title db) userId m ↔ sees db userId m := Iff.rfl

/-- Another title of a hidden message is hidden, too. -/
theorem veiled_retitled (mem : r ∈ db.messages.rows) (hidden : ¬ sees db userId r)
    (title : String) : veiled db userId = veiled (retitled r.id title db) userId := by
  have messages : (veiled db userId).messages =
      (veiled (retitled r.id title db) userId).messages := by
    apply Table.ext
    rw [rows_veiled, rows_veiled]
    unfold retitled Table.updateMany
    dsimp only
    rw [List.map_map]
    refine List.map_congr_left fun m mem' => ?_
    rw [Function.comp]
    by_cases this : m.id = r.id
    · obtain rfl : m = r := db.messages.eq_of_key_eq mem' mem this
      rw [if_pos (decide_eq_true this)]
      have hidden' : ¬ sees (retitled m.id title db) userId (m.titled title) := hidden
      unfold veil
      rw [if_neg hidden]
      exact (if_neg hidden').symm
    · rw [if_neg (by simpa using this)]
      rfl
  unfold veiled at messages ⊢
  dsimp only at messages
  rw [messages]
  rfl

/-- What is shown of an opened message changes with no hidden title. -/
theorem details_of_confidential {contains : String → String → Bool} (built : Built db)
    (confidential : Confidential db userId contains tenantId) (mem : m ∈ db.messages.rows)
    (ofSchool : m.tenantId = tenantId) (seen : sees db userId m) (stored : r ∈ db.messages.rows)
    (hidden : ¬ sees db userId r) {title : String} (trimmed : trim title = title) :
    repliedTo db m = repliedTo (retitled r.id title db) m ∧
      repliesOf db m.id = repliesOf (retitled r.id title db) m.id := by
  have found : db.messages.find? r.id = some r := find?_key _ stored
  have built' := built.retitled trimmed found
  have same := (confidential _ built' (veiled_retitled stored hidden title)).details 0 m.id
  have other : m.id ≠ r.id := fun key => hidden (db.messages.eq_of_key_eq mem stored key ▸ seen)
  have mem' : m ∈ (retitled r.id title db).messages.rows :=
    mem_retitled.mpr ⟨m, mem, if_neg other⟩
  obtain ⟨sent, before⟩ := exists_details built mem ofSchool seen 0
  obtain ⟨sent', after⟩ := exists_details built' mem' ofSchool (sees_retitled.mpr seen) 0
  rw [before, after] at same
  have details := Except.ok.inj same
  exact ⟨congrArg MessageDetails.replyTo details, congrArg MessageDetails.replies details⟩

theorem exists_title (title : String) : ∃ other, trim other = other ∧ other ≠ title := by
  by_cases this : title = "a"
  · exact ⟨"b", by decide, by rw [this]; decide⟩
  · exact ⟨"a", by decide, Ne.symm this⟩

/-- Where nothing hidden is shown links are seen. -/
theorem links_of_confidential {contains : String → String → Bool} (built : Built db)
    (confidential : Confidential db userId contains tenantId) : LinksSeen db userId tenantId := by
  intro m mem ofSchool seen
  constructor
  · intro r linked
    by_contra hidden
    obtain ⟨title, trimmed, differ⟩ := exists_title r.title
    have stored : r ∈ db.messages.rows := by
      obtain ⟨k, -, found⟩ := Option.bind_eq_some_iff.mp linked
      exact mem_of_find? found
    have same := (details_of_confidential built confidential mem ofSchool seen stored hidden
      trimmed).1
    obtain ⟨k, reply, found⟩ := Option.bind_eq_some_iff.mp linked
    have key : r.id = k := key_of_find? found
    unfold repliedTo at same
    rw [reply, Option.bind_some, Option.bind_some, find?_retitled, found, Option.map_some,
      if_pos rfl] at same
    exact differ (congrArg RepliedTo.title (Option.some.inj same)).symm
  · intro r stored reply
    by_contra hidden
    obtain ⟨title, trimmed, differ⟩ := exists_title r.title
    have same := (details_of_confidential built confidential mem ofSchool seen stored hidden
      trimmed).2
    have shown : (⟨r.id, r.title, r.body, r.attachments, senderOf db r⟩ : Reply) ∈
        repliesOf db m.id :=
      List.mem_map.mpr ⟨r, List.mem_filter.mpr ⟨stored, decide_eq_true reply⟩, rfl⟩
    rw [same] at shown
    obtain ⟨x, mem', is⟩ := List.mem_map.mp shown
    obtain ⟨m', mem', rfl⟩ := mem_retitled.mp (List.mem_filter.mp mem').1
    by_cases this : m'.id = r.id
    · rw [if_pos this] at is
      exact differ (congrArg Reply.title is)
    · rw [if_neg this] at is
      exact this (congrArg Reply.id is)

/-- **Exactly where links are seen nothing hidden is shown.** -/
theorem confidential_iff (contains : String → String → Bool) (built : Built db) :
    Confidential db userId contains tenantId ↔ LinksSeen db userId tenantId :=
  ⟨links_of_confidential built, confidential_of_links contains tenantId⟩

end

/-! ### A staff room

Two members of the staff and a student. -/

namespace StaffRoom

def start : Db where
  users := ⟨[⟨1, 1, .staff, .active, "", ""⟩, ⟨2, 1, .staff, .active, "", ""⟩,
    ⟨3, 1, .student, .active, "", ""⟩], by decide, by decide⟩

/-- A message to one person. -/
def send (senderId recipientId : Id) (body : String) (replyToId : Option Id := none) : Call :=
  ⟨1, senderId, { title := "re", body, targetType := .individual
                  recipientIds := some [recipientId], replyToId }⟩

theorem built (calls : List Call) : Built (run step start calls) :=
  ⟨start, calls, rfl, rfl, rfl⟩

/-- The text is found in another as it is. -/
def contains (text part : String) : Bool := decide (part.toList <:+: text.toList)

end StaffRoom

open StaffRoom

/-- The student asks, and is answered. -/
theorem confidential_staffRoom :
    Confidential (run step start [send 1 2 "salary", send 3 1 "when?", send 1 3 "soon" (some 2)]) 3
      contains 1 :=
  (confidential_iff contains (built _)).mpr (by decide +kernel)

/-- Who replies to a message reads it, and whose message is replied to reads the reply. -/
theorem not_confidential :
    (¬ Confidential (run step start [send 1 2 "salary", send 3 1 "hm" (some 1)]) 3 contains 1) ∧
      ¬ Confidential (run step start [send 3 1 "when?", send 1 2 "never" (some 1)]) 3 contains 1 :=
  ⟨fun kept => absurd (links_of_confidential (built _) kept) (by decide +kernel),
    fun kept => absurd (links_of_confidential (built _) kept) (by decide +kernel)⟩

end Rokad.Messages
