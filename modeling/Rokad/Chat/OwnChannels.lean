import Rokad.Base.Run
import Rokad.Common.Http

/-!
# Chat

Channels, their members and their messages, and the rooms of the gateway: a client that has joined
the room of a channel receives what is sent to the channel. A message may answer another one, and is
then returned and sent with it.
-/

namespace Rokad.Chat

open Rokad.Base Rokad.Common

/-! ### Tables -/

inductive ChannelType where
  | direct | classGroup
deriving DecidableEq

structure User where
  (id tenantId : Id)

structure Classroom where
  (id tenantId : Id)

structure ChatChannel where
  (id tenantId : Id)
  type : ChannelType
  classroomId : Option Id := none

structure ChatChannelMember where
  (id channelId userId : Id)

structure ChatMessage where
  (id tenantId channelId senderId : Id)
  content : String
  replyToId : Option Id := none
  isDeleted : Bool := false

instance : Record User := { key := (·.id) }

instance : Record Classroom := { key := (·.id) }

instance : Record ChatChannel := { key := (·.id) }

instance : Record ChatChannelMember where
  key m := m.id
  clash a b := a.channelId == b.channelId && a.userId == b.userId

instance : Record ChatMessage := { key := (·.id) }

structure Db where
  users : Table User := .empty
  classrooms : Table Classroom := .empty
  channels : Table ChatChannel := .empty
  members : Table ChatChannelMember := .empty
  messages : Table ChatMessage := .empty

def Db.isMember (db : Db) (channelId userId : Id) : Bool :=
  db.members.rows.any fun m => m.channelId = channelId ∧ m.userId = userId

/-! ### Channels -/

section

variable (tenantId : Id)

def Db.addMember (db : Db) (channelId userId : Id) : Result Db := do
  referred db.users (some userId)
  let members ← insertRow db.members { id := db.members.fresh, channelId, userId }
  return { db with members }

/-- A channel and its members, in one statement. -/
def Db.createChannel (db : Db) (type : ChannelType) (classroomId : Option Id)
    (userIds : List Id) : Result Db := do
  let id := db.channels.fresh
  let channels ← insertRow db.channels { id, tenantId, type, classroomId }
  inTurn (fun db userId => db.addMember id userId) { db with channels } userIds

def getOrCreateDirectChannel (currentUserId recipientUserId : Id) (db : Db) :
    Result Db := do
  require (currentUserId ≠ recipientUserId)
    (.badRequest "امکان گفتگوی مستقیم با خود کاربر وجود ندارد")
  let _ ← orFail ((db.users.find? recipientUserId).filter fun u => u.tenantId = tenantId)
    (.notFound "کاربر گیرنده در این مدرسه یافت نشد")
  match db.channels.rows.find? fun c => c.tenantId = tenantId ∧ c.type = .direct ∧
      db.isMember c.id currentUserId ∧ db.isMember c.id recipientUserId with
  | some _ => return db
  | none => db.createChannel tenantId .direct none [currentUserId, recipientUserId]

def getOrCreateClassChannel (createdById classroomId : Id) (db : Db) : Result Db := do
  let _ ← orFail ((db.classrooms.find? classroomId).filter fun c => c.tenantId = tenantId)
    (.notFound "کلاس مورد نظر یافت نشد")
  match db.channels.rows.find? fun c =>
      c.tenantId = tenantId ∧ c.classroomId = some classroomId ∧ c.type = .classGroup with
  | some _ => return db
  | none => db.createChannel tenantId .classGroup (some classroomId) [createdById]

end

/-! ### Messages -/

structure SendMessageDto where
  channelId : Id
  content : String
  replyToId : Option Id := none

def newMessage (tenantId senderId : Id) (dto : SendMessageDto) (id : Id) : ChatMessage where
  id
  tenantId
  channelId := dto.channelId
  senderId
  content := dto.content
  replyToId := dto.replyToId

/-- A message and the one it answers, as they are returned. -/
def Db.withReply (db : Db) (m : ChatMessage) : List ChatMessage :=
  m :: (m.replyToId.bind db.messages.find?).toList

def saveMessage (tenantId senderId : Id) (dto : SendMessageDto) (db : Db) :
    Result (Db × ChatMessage) := do
  require (db.isMember dto.channelId senderId = true)
    (.forbidden "شما عضو این کانال گفتگو نیستید")
  referred db.channels (some dto.channelId)
  referred db.users (some senderId)
  referred db.messages dto.replyToId
  let message := newMessage tenantId senderId dto db.messages.fresh
  let messages ← insertRow db.messages message
  return ({ db with messages }, message)

/-- The channels of the user with the last message of each. -/
def listUserChannels (tenantId userId : Id) (db : Db) : List (ChatChannel × Option ChatMessage) :=
  (db.channels.rows.filter fun c => c.tenantId = tenantId ∧ db.isMember c.id userId).map fun c =>
    (c, db.messages.rows.reverse.find? fun m => m.channelId = c.id)

/-- `skip` and `take` of a query; a negative `take` counts from the end. -/
def paged {α : Type} (skip : ℕ) (take : ℤ) (rows : List α) : List α :=
  if 0 ≤ take then (rows.drop skip).take take.toNat
  else ((rows.reverse.drop skip).take take.natAbs).reverse

/-- A page of a channel's messages. The latest first are paged, and returned the oldest first. -/
def Db.page (db : Db) (channelId : Id) (page limit : ℤ) : List ChatMessage :=
  (paged ((page - 1) * limit).toNat limit (db.messages.rows.filter fun m =>
    m.channelId = channelId ∧ m.isDeleted = false).reverse).reverse

def listChannelMessages (tenantId channelId userId : Id) (page limit : ℤ) (db : Db) :
    Result (List ChatMessage) := do
  let _ ← orFail ((db.channels.find? channelId).filter fun c => c.tenantId = tenantId)
    (.notFound "کانال گفتگو یافت نشد")
  require (db.isMember channelId userId = true) (.forbidden "شما عضو این کانال گفتگو نیستید")
  require (0 ≤ (page - 1) * limit) (.thrown "Invalid value for skip argument")
  return db.page channelId page limit

/-! ### The gateway -/

/-- A client of the user has joined the room of the channel. -/
structure Joined where
  (userId channelId : Id)

structure Host where
  db : Db := {}
  rooms : List Joined := []

/-- `client.join`: nothing is asked. -/
def handleJoinChannel (userId channelId : Id) (h : Host) : Host :=
  { h with rooms := h.rooms ++ [⟨userId, channelId⟩] }

inductive Call where
  | handleJoinChannel (userId channelId : Id)
  | handleSendMessage (tenantId userId : Id) (dto : SendMessageDto)
  | saveMessage (tenantId senderId : Id) (dto : SendMessageDto)
  | getOrCreateDirectChannel (tenantId currentUserId recipientUserId : Id)
  | getOrCreateClassChannel (tenantId createdById classroomId : Id)
  | listUserChannels (tenantId userId : Id)
  | listChannelMessages (tenantId channelId userId : Id) (page limit : ℤ)

def step (h : Host) : Call → Host
  | .handleJoinChannel userId channelId => handleJoinChannel userId channelId h
  | .handleSendMessage tenantId userId dto | .saveMessage tenantId userId dto =>
    { h with db := settled h.db ((saveMessage tenantId userId dto h.db).map (·.1)) }
  | .getOrCreateDirectChannel tenantId currentUserId recipientUserId =>
    { h with
      db := settled h.db (getOrCreateDirectChannel tenantId currentUserId recipientUserId h.db) }
  | .getOrCreateClassChannel tenantId createdById classroomId =>
    { h with db := settled h.db (getOrCreateClassChannel tenantId createdById classroomId h.db) }
  | .listUserChannels _ _ | .listChannelMessages _ _ _ _ _ => h

/-- A user is shown a message. -/
structure Delivery where
  userId : Id
  message : ChatMessage

/-- What a sent message is delivered as to a user: with the message it answers. -/
def Db.deliver (db : Db) (m : ChatMessage) (userId : Id) : List Delivery :=
  (db.withReply m).map (⟨userId, ·⟩)

/-- The clients in the room of the channel. -/
def Host.room (h : Host) (channelId : Id) : List Id :=
  (h.rooms.filter fun j => j.channelId = channelId).map (·.userId)

/-- What the call delivers, and to whom. The sender is returned the message; the gateway also emits
it to the room. -/
def deliveries (h : Host) : Call → List Delivery
  | .handleSendMessage tenantId userId dto =>
    match saveMessage tenantId userId dto h.db with
    | .ok (db, message) => (userId :: h.room dto.channelId).flatMap (db.deliver message)
    | .error _ => []
  | .saveMessage tenantId senderId dto =>
    match saveMessage tenantId senderId dto h.db with
    | .ok (db, message) => db.deliver message senderId
    | .error _ => []
  | .listUserChannels tenantId userId =>
    (listUserChannels tenantId userId h.db).flatMap fun (_, last) =>
      last.toList.map (⟨userId, ·⟩)
  | .listChannelMessages tenantId channelId userId page limit =>
    match listChannelMessages tenantId channelId userId page limit h.db with
    | .ok messages => messages.flatMap fun m => h.db.deliver m userId
    | .error _ => []
  | .handleJoinChannel _ _ | .getOrCreateDirectChannel _ _ _ | .getOrCreateClassChannel _ _ _ => []

/-!
## A message stays in its channel

Whoever is shown a message should be a member of its channel.

The room of a channel lets everyone in, and a message may answer one of any channel, which is then
shown with it (`not_own_channels`). Messages stay in their channels along a run exactly when only
members are in the rooms that messages are sent to, and an answer reaches only members of the
channel it answers to (`own_channels_iff`).
-/

/-! ### The law and the condition -/

/-- Whoever gets a message is then a member of its channel. -/
def Kept (h : Host) (call : Call) : Prop :=
  ∀ d ∈ deliveries h call, (step h call).db.isMember d.message.channelId d.userId = true
deriving Decidable

/-- What is checked before a message is stored. -/
def Accepts (senderId : Id) (dto : SendMessageDto) (db : Db) : Prop :=
  db.isMember dto.channelId senderId = true ∧ db.channels.has (some dto.channelId) = true ∧
    db.users.has (some senderId) = true ∧ db.messages.has dto.replyToId = true

/-- The user is a member of the channel of the message that is answered. -/
def MaySeeReply (db : Db) (replyToId : Option Id) (userId : Id) : Prop :=
  ∀ r ∈ replyToId.bind db.messages.find?, db.isMember r.channelId userId = true

def Fits (h : Host) : Call → Prop
  | .handleSendMessage _ userId dto => Accepts userId dto h.db →
      (∀ u ∈ h.room dto.channelId, h.db.isMember dto.channelId u = true) ∧
        ∀ u ∈ userId :: h.room dto.channelId, MaySeeReply h.db dto.replyToId u
  | .saveMessage _ senderId dto => Accepts senderId dto h.db →
      MaySeeReply h.db dto.replyToId senderId
  | .listChannelMessages tenantId channelId userId page limit =>
    (∃ c ∈ h.db.channels.find? channelId, c.tenantId = tenantId) →
      h.db.isMember channelId userId = true → 0 ≤ (page - 1) * limit →
        ∀ m ∈ h.db.page channelId page limit, MaySeeReply h.db m.replyToId userId
  | _ => True

/-! ### Deliveries -/

section

variable {db db' : Db} {m : ChatMessage} {tenantId senderId : Id} {dto : SendMessageDto}

theorem mem_deliver {d : Delivery} {userId : Id} : d ∈ db.deliver m userId ↔
    d.userId = userId ∧ (d.message = m ∨ d.message ∈ m.replyToId.bind db.messages.find?) := by
  unfold Db.deliver Db.withReply
  rw [List.mem_map]
  simp only [List.mem_cons, Option.mem_toList]
  constructor
  · rintro ⟨r, mem, rfl⟩
    exact ⟨rfl, mem⟩
  · rintro ⟨rfl, mem⟩
    exact ⟨d.message, mem, rfl⟩

/-- A user who is shown a message and its answer may see both, or not. -/
theorem deliver_iff {userId : Id} (reply : m.replyToId.bind db'.messages.find? =
    m.replyToId.bind db.messages.find?) :
    (∀ d ∈ db'.deliver m userId, db.isMember d.message.channelId d.userId = true) ↔
      db.isMember m.channelId userId = true ∧ MaySeeReply db m.replyToId userId := by
  constructor
  · intro all
    refine ⟨all ⟨userId, m⟩ (mem_deliver.mpr ⟨rfl, .inl rfl⟩), fun r found => ?_⟩
    exact all ⟨userId, r⟩ (mem_deliver.mpr ⟨rfl, .inr (reply ▸ found)⟩)
  · rintro ⟨own, answered⟩ d mem
    obtain ⟨rfl, same | found⟩ := mem_deliver.mp mem
    · rw [same]
      exact own
    · exact answered d.message (reply ▸ found)

theorem saveMessage_ok {message : ChatMessage}
    (done : saveMessage tenantId senderId dto db = .ok (db', message)) :
    Accepts senderId dto db ∧ message.channelId = dto.channelId ∧
      message.replyToId = dto.replyToId ∧ db'.members = db.members ∧
        message.replyToId.bind db'.messages.find? = message.replyToId.bind db.messages.find? := by
  simp only [saveMessage, do_eq_ok, referred_eq_ok, insertRow_eq_ok] at done
  obtain ⟨⟨⟩, member, ⟨⟩, channel, ⟨⟩, user, ⟨⟩, answered, messages, inserted, ⟨⟩⟩ := done
  refine ⟨⟨member, channel, user, answered⟩, rfl, rfl, rfl, ?_⟩
  change dto.replyToId.bind messages.find? = dto.replyToId.bind db.messages.find?
  cases is : dto.replyToId with
  | none => rfl
  | some k =>
    rw [is] at answered
    obtain ⟨r, found⟩ := has_some_iff.mp answered
    rw [Option.bind_some, Option.bind_some, found]
    exact Table.find?_insert_of_found inserted found

theorem saveMessage_of_accepts (tenantId : Id) (accepts : Accepts senderId dto db) :
    ∃ db' message, saveMessage tenantId senderId dto db = .ok (db', message) := by
  obtain ⟨member, channel, user, answered⟩ := accepts
  obtain ⟨t, inserted⟩ := db.messages.insert_of_fresh
    (newMessage tenantId senderId dto db.messages.fresh) rfl fun _ _ => rfl
  refine ⟨{ db with messages := t }, newMessage tenantId senderId dto db.messages.fresh, ?_⟩
  simp [saveMessage, require, referred, member, channel, user, answered, insertRow, inserted,
    orFail, bind, Except.bind, pure, Except.pure]

theorem not_accepts_of_error {e : Failure} (done : saveMessage tenantId senderId dto db = .error e) :
    ¬ Accepts senderId dto db := by
  intro accepts
  obtain ⟨db', message, through⟩ := saveMessage_of_accepts tenantId accepts
  rw [done] at through
  cases through

theorem isMember_congr (same : db'.members = db.members) (channelId userId : Id) :
    db'.isMember channelId userId = db.isMember channelId userId := by
  unfold Db.isMember
  rw [same]

end

/-! ### The calls -/

section

variable {h : Host} {tenantId : Id}

theorem listUserChannels_kept (userId : Id) : Kept h (.listUserChannels tenantId userId) := by
  intro d mem
  obtain ⟨⟨c, last⟩, memC, memD⟩ := List.mem_flatMap.mp mem
  obtain ⟨m, isLast, rfl⟩ := List.mem_map.mp memD
  obtain ⟨_, listed, same⟩ := List.mem_map.mp memC
  cases same
  have own : m.channelId = c.id := by
    simpa using List.find?_some (Option.mem_toList.mp isLast)
  have member : h.db.isMember c.id userId = true := by
    have shown := (List.mem_filter.mp listed).2
    simp only [decide_eq_true_eq] at shown
    exact shown.2
  change h.db.isMember m.channelId userId = true
  rw [own]
  exact member

theorem handleSendMessage_iff {userId : Id} {dto : SendMessageDto} :
    Kept h (.handleSendMessage tenantId userId dto) ↔
      Fits h (.handleSendMessage tenantId userId dto) := by
  unfold Kept Fits
  dsimp only [deliveries, step]
  cases done : saveMessage tenantId userId dto h.db with
  | error e =>
    exact iff_of_true (List.forall_mem_nil _) fun accepts =>
      (not_accepts_of_error done accepts).elim
  | ok result =>
    obtain ⟨db', message⟩ := result
    obtain ⟨accepts, ofChannel, ofReply, members, reply⟩ := saveMessage_ok done
    simp only [Except.map, settled_ok, isMember_congr members, List.mem_flatMap,
      forall_exists_index, and_imp, accepts, forall_const]
    constructor
    · intro all
      have each (u : Id) (mem : u ∈ userId :: h.room dto.channelId) :=
        (deliver_iff reply).mp fun d memD => all d u mem memD
      rw [ofChannel, ofReply] at each
      exact ⟨fun u mem => (each u (List.mem_cons_of_mem _ mem)).1, fun u mem => (each u mem).2⟩
    · rintro ⟨inRoom, answered⟩ d u mem memD
      have own : h.db.isMember dto.channelId u = true := by
        rcases List.mem_cons.mp mem with rfl | mem
        · exact accepts.1
        · exact inRoom u mem
      refine (deliver_iff reply).mpr ⟨?_, ?_⟩ d memD
      · rw [ofChannel]
        exact own
      · rw [ofReply]
        exact answered u mem

theorem saveMessage_iff {senderId : Id} {dto : SendMessageDto} :
    Kept h (.saveMessage tenantId senderId dto) ↔ Fits h (.saveMessage tenantId senderId dto) := by
  unfold Kept Fits
  dsimp only [deliveries, step]
  cases done : saveMessage tenantId senderId dto h.db with
  | error e =>
    exact iff_of_true (List.forall_mem_nil _) fun accepts =>
      (not_accepts_of_error done accepts).elim
  | ok result =>
    obtain ⟨db', message⟩ := result
    obtain ⟨accepts, ofChannel, ofReply, members, reply⟩ := saveMessage_ok done
    simp only [Except.map, settled_ok, isMember_congr members, accepts, forall_const]
    rw [deliver_iff reply, ofChannel, ofReply]
    exact ⟨And.right, fun answered => ⟨accepts.1, answered⟩⟩

theorem listChannelMessages_iff {channelId userId : Id} {page limit : ℤ} :
    Kept h (.listChannelMessages tenantId channelId userId page limit) ↔
      Fits h (.listChannelMessages tenantId channelId userId page limit) := by
  have ofChannel (m : ChatMessage) (mem : m ∈ h.db.page channelId page limit) :
      m.channelId = channelId := by
    have stored : m ∈ h.db.messages.rows.filter
        fun m => m.channelId = channelId ∧ m.isDeleted = false := by
      unfold Db.page paged at mem
      split at mem
      · exact List.mem_reverse.mp
          (List.mem_of_mem_drop (List.mem_of_mem_take (List.mem_reverse.mp mem)))
      · have taken := List.mem_reverse.mp (List.mem_reverse.mp mem)
        exact List.mem_reverse.mp
          (List.mem_reverse.mp (List.mem_of_mem_drop (List.mem_of_mem_take taken)))
    have own := (List.mem_filter.mp stored).2
    simp only [decide_eq_true_eq] at own
    exact own.1
  unfold Kept Fits
  dsimp only [deliveries, step]
  cases done : listChannelMessages tenantId channelId userId page limit h.db with
  | error e =>
    refine iff_of_true (List.forall_mem_nil _) ?_
    rintro ⟨c, found, ofTenant⟩ member positive
    have own : (some c).filter (fun c => decide (c.tenantId = tenantId)) = some c := by
      simp [ofTenant]
    simp [listChannelMessages, Option.mem_def.mp found, own, member, positive, orFail,
      require, bind, Except.bind, pure, Except.pure] at done
  | ok messages =>
    simp only [listChannelMessages, do_eq_ok, Option.filter_eq_some_iff, decide_eq_true_eq] at done
    obtain ⟨c, ⟨found, ofTenant⟩, ⟨⟩, member, ⟨⟩, positive, rfl⟩ := done
    simp only [List.mem_flatMap, forall_exists_index, and_imp]
    constructor
    · intro all _ _ _ _ _ m mem
      exact ((deliver_iff rfl).mp fun d memD => all d m mem memD).2
    · intro answered d m mem memD
      refine (deliver_iff rfl).mpr ⟨?_, answered c found ofTenant member positive m mem⟩ d memD
      rw [ofChannel m mem]
      exact member

theorem kept_iff_fits (call : Call) : Kept h call ↔ Fits h call := by
  cases call with
  | handleSendMessage tenantId userId dto => exact handleSendMessage_iff
  | saveMessage tenantId senderId dto => exact saveMessage_iff
  | listUserChannels tenantId userId => exact iff_of_true (listUserChannels_kept userId) trivial
  | listChannelMessages tenantId channelId userId page limit => exact listChannelMessages_iff
  | handleJoinChannel userId channelId => exact iff_of_true (fun _ mem => by cases mem) trivial
  | getOrCreateDirectChannel tenantId currentUserId recipientUserId =>
    exact iff_of_true (fun _ mem => by cases mem) trivial
  | getOrCreateClassChannel tenantId createdById classroomId =>
    exact iff_of_true (fun _ mem => by cases mem) trivial

end

/-! ### Runs -/

/-- **Own channels.** Along a run every message is shown to members of its channel only, exactly if
every call fits. -/
theorem own_channels_iff (h : Host) (calls : List Call) :
    Along step Kept h calls ↔ Along step Fits h calls :=
  along_iff (I := fun _ => True) (D := fun _ _ => True) (fun _ call _ _ => kept_iff_fits call)
    (fun _ _ _ _ _ => trivial) trivial (along_of_forall fun _ _ => trivial)

/-! ### A school that talks -/

namespace Talk

/-- Two teachers and a student, in one school. -/
def host : Host where
  db :=
    { users := ⟨[⟨11, 1⟩, ⟨12, 1⟩, ⟨13, 1⟩], by decide, by decide⟩
      channels := .empty }

def direct (a b : Id) : Call := .getOrCreateDirectChannel 1 a b

def send (userId channelId : Id) (replyToId : Option Id) : Call :=
  .handleSendMessage 1 userId ⟨channelId, "x", replyToId⟩

end Talk

open Talk

/-- The student is in the room of the two teachers; and the student answers a message of theirs, and
reads it in a channel of the student's own. -/
theorem not_own_channels : (¬ Along step Kept Talk.host
      [direct 11 12, .handleJoinChannel 13 1, Talk.send 11 1 none]) ∧
      ¬ Along step Kept Talk.host
        [direct 11 12, direct 13 11, Talk.send 11 1 none,
          .saveMessage 1 13 ⟨2, "y", some 1⟩, .listChannelMessages 1 2 13 1 50] := by
  constructor <;> decide +kernel

end Rokad.Chat
