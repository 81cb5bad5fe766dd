import Rokad.Base.Sql
import Rokad.Rbac.Operations

/-!
# Polls

Polls with their options, and what users answer to them: the part of `PollsService` that creates a
poll, stores answers or a vote, and counts them. How many selected an option is stored with the
option and counted up by every vote.

A call that fails for another reason than one of its own exceptions keeps what it was to store in
the memory of the process, and reports success all the same.
-/

namespace Rokad.Polls

open Rokad.Base Rokad.Common

/-! ### Tables -/

inductive PollType where
  | singleChoice | multipleChoice | ratingScale
deriving DecidableEq

inductive TargetAudience where
  | all | students | teachers | parents | staff | specificClasses
deriving DecidableEq

/-- A value in a map of answers: of a number what `Math.round` makes of it, if it is finite, and of
an array its texts. -/
inductive Answer where
  | text (s : String)
  | number (rounded : Option ℤ)
  | items (texts : List String)
  | other

abbrev Answers := List (String × Answer)

structure Poll where
  (id tenantId : Id)
  targetAudience : TargetAudience := .all
  (startDate endDate : ℤ)
  (isClosed isArchived : Bool := false)
  porscadFormId : Option String := none

structure PollOption where
  (id pollId : Id)
  text : String
  orderIndex : ℕ := 1
  voteCount : ℕ := 0
deriving DecidableEq

structure PollVote where
  (id tenantId pollId userId : Id)
  selectedOptionIds : List String := []
  ratingValue : Option ℤ := none
  textResponse : Option String := none
  answers : Option Answers := none

instance : Record Poll where
  key p := p.id

instance : Record PollOption where
  key o := o.id

/-- One vote of a user on a poll. -/
instance : Record PollVote where
  key v := v.id
  clash a b := a.pollId == b.pollId && a.userId == b.userId

/-- The id of a row, or of what is only in memory, where it is drawn from the clock. -/
inductive Key where
  | stored (id : Id)
  | made (time : ℤ)
deriving DecidableEq

structure MemoryPoll where
  id : Key
  tenantId : Id
  porscadFormId : Option String
  options : List (String × ℕ)

structure MemoryVote where
  id : Key
  tenantId : Id
  pollId : Key
  userId : Id
  selectedOptionIds : List String := []
  answers : Option Answers := none

/-- The tables, and what the process remembers. -/
structure Store where
  polls : Table Poll := .empty
  options : Table PollOption := .empty
  votes : Table PollVote := .empty
  inMemoryPolls : List MemoryPoll := []
  inMemoryVotes : List MemoryVote := []

def Store.poll (store : Store) (tenantId : Id) : Key → Option Poll
  | .stored id => (store.polls.find? id).filter (·.tenantId = tenantId)
  | .made _ => none

/-! ### Statements -/

namespace PollOption

/-- The id as text. -/
def idText (o : PollOption) : String := toString o.id

def increment (o : PollOption) : PollOption := { o with voteCount := o.voteCount + 1 }

theorem key_increment (o : PollOption) : Record.key o.increment = Record.key o := rfl

end PollOption

structure NewPoll where
  tenantId : Id
  targetAudience : TargetAudience
  (startDate endDate : ℤ)
  porscadFormId : Option String
  options : List (String × ℕ)

structure NewVote where
  (tenantId pollId userId : Id)
  selectedOptionIds : List String
  ratingValue : Option ℤ
  textResponse : Option String

def NewPoll.row (data : NewPoll) (id : Id) : Poll where
  id
  tenantId := data.tenantId
  targetAudience := data.targetAudience
  startDate := data.startDate
  endDate := data.endDate
  porscadFormId := data.porscadFormId

def NewVote.row (data : NewVote) (answers : Option Answers) (id : Id) : PollVote where
  id
  tenantId := data.tenantId
  pollId := data.pollId
  userId := data.userId
  selectedOptionIds := data.selectedOptionIds
  ratingValue := data.ratingValue
  textResponse := data.textResponse
  answers

/-- `reaches` is false where the database refuses the statement or is out of reach. A read that gets
no answer is `lost`. -/
inductive Statement where
  | createPoll (data : NewPoll) (reaches : Bool)
  | answer (data : NewVote) (answers : Answers) (reaches : Bool)
  | cast (data : NewVote) (reaches : Bool)
  | lost
  | rememberPoll (poll : MemoryPoll)
  | rememberVote (vote : MemoryVote)

/-- A value of a column of 32 bits. -/
def isInt (n : ℤ) : Prop := -2147483648 ≤ n ∧ n ≤ 2147483647
deriving Decidable

def insertOptions (pollId : Id) : List (String × ℕ) → Table PollOption →
    Result (Table PollOption)
  | [], options => .ok options
  | (text, orderIndex) :: rest, options => do
      let options ← insertRow options { id := options.fresh, pollId, text, orderIndex }
      insertOptions pollId rest options

/-- Counts each of the texts on the first option that it names; `missing` is what comes of a text
that names none. -/
def countSelected (names : String → PollOption → Bool) (missing : Result Unit) :
    List String → Table PollOption → Result (Table PollOption)
  | [], options => .ok options
  | optId :: rest, options =>
    match options.rows.find? (names optId) with
    | some opt => do
        require (opt.voteCount < 2147483647) (.database .numericOverflow)
        let options ← updateRow options opt.id PollOption.increment PollOption.key_increment
        countSelected names missing rest options
    | none => do
        missing
        countSelected names missing rest options

/-- `{ pollId, OR: [{ id: optId }, { text: optId }] }` -/
def namedInAnswer (pollId : Id) (optId : String) (o : PollOption) : Bool :=
  o.pollId = pollId && (o.idText = optId || o.text = optId)

/-- `{ id: optId }` -/
def namedInVote (optId : String) (o : PollOption) : Bool := o.idText = optId

/-- The row of a vote, and its selection counted, in one transaction. -/
def storeVote (data : NewVote) (answers : Option Answers) (reaches : Bool)
    (names : String → PollOption → Bool) (missing : Result Unit) (store : Store) :
    Result (Store × Key) := do
  require (reaches = true) unreachable
  referred store.polls (some data.pollId)
  require (∀ n ∈ data.ratingValue, isInt n) (.database .numericOverflow)
  let id := store.votes.fresh
  let votes ← insertRow store.votes (data.row answers id)
  let options ← countSelected names missing data.selectedOptionIds store.options
  return ({ store with votes, options }, .stored id)

def write : Statement → Store → Result (Store × Key)
  | .createPoll data reaches, store => do
      require (reaches = true) unreachable
      let id := store.polls.fresh
      let polls ← insertRow store.polls (data.row id)
      let options ← insertOptions id data.options store.options
      return ({ store with polls, options }, .stored id)
  | .answer data answers reaches, store =>
    storeVote data (some answers) reaches (namedInAnswer data.pollId) (.ok ()) store
  | .cast data reaches, store =>
    storeVote data none reaches namedInVote (.error (.database .recordNotFound)) store
  | .lost, _ => .error unreachable
  | .rememberPoll poll, store =>
    .ok ({ store with inMemoryPolls := poll :: store.inMemoryPolls }, poll.id)
  | .rememberVote vote, store =>
    .ok ({ store with inMemoryVotes := store.inMemoryVotes ++ [vote] }, vote.id)

/-- The vote that a statement stores. -/
def Statement.vote : Statement → Option NewVote
  | .answer data _ _ | .cast data _ => some data
  | _ => none

theorem storeVote_spec {store store' : Store} {id : Key} {data : NewVote}
    {answers : Option Answers} {reaches : Bool} {names : String → PollOption → Bool}
    {missing : Result Unit}
    (done : storeVote data answers reaches names missing store = .ok (store', id)) :
    store'.polls = store.polls ∧ id = .stored store.votes.fresh ∧
      store.votes.insert (data.row answers store.votes.fresh) = some store'.votes ∧
      (store.polls.find? data.pollId).isSome ∧
      countSelected names missing data.selectedOptionIds store.options = .ok store'.options := by
  simp only [storeVote, do_eq_ok, insertRow_eq_ok] at done
  obtain ⟨_, -, _, there, _, -, votes, inserted, options, counted, ⟨⟩⟩ := done
  exact ⟨rfl, rfl, inserted, referred_eq_ok.mp there, counted⟩

abbrev PollCall := Sql Store Statement Key Failure

/-- A read, if the database is reached. -/
def fetch (reaches : Bool) : PollCall Store :=
  if reaches then Sql.snapshot else Sql.perform .lost >>= fun _ => Sql.snapshot

/-! ### Creating -/

structure SurveyQuestion where
  (type title : String)
  options : List String := []
deriving DecidableEq

/-- The request; a date is absent, too, if it is none. -/
structure CreatePollDto where
  pollType : PollType := .singleChoice
  targetAudience : TargetAudience := .all
  (startDate endDate : Option ℤ := none)
  options : List String := []
  questions : List SurveyQuestion := []
  porscadFormId : Option String := none

/-- A question with the options it is stored with. -/
def SurveyQuestion.prepare (q : SurveyQuestion) : SurveyQuestion :=
  let options := q.options.filter (trim · ≠ "")
  { q with
    options :=
      if q.type = "likert" ∧ options.length < 2 then
        ["کاملاً موافق", "موافق", "ممتنع / خنثی", "مخالف", "کاملاً مخالف"]
      else if q.type = "yes_no" ∧ options.length < 2 then ["بله", "خیر"]
      else if q.type = "statement" ∨ q.type = "group" then []
      else options }

/-- `MUST_HAVE_OPTIONS` -/
def mustHaveOptions : List String := ["choice", "picture_choice", "dropdown", "ranking", "matrix"]

def CreatePollDto.check (dto : CreatePollDto) (questions : List SurveyQuestion) :
    Result Unit :=
  if questions = [] then
    require (2 ≤ dto.options.length ∨ dto.pollType = .ratingScale)
      (.badRequest "نظرسنجی باید حداقل دارای ۲ گزینه باشد")
  else
    match questions.find? fun q => q.type ∈ mustHaveOptions ∧ q.options.length < 2 with
    | some q => .error (.badRequest ("سوال «" ++ q.title ++ "» باید حداقل ۲ گزینه داشته باشد"))
    | none => .ok ()

/-- The options of the poll with their places: those of the request, else those of its questions. -/
def CreatePollDto.newOptions (dto : CreatePollDto) (questions : List SurveyQuestion) :
    List (String × ℕ) :=
  if dto.options ≠ [] then dto.options.mapIdx fun index text => (text, index + 1)
  else ((questions.filter (·.options ≠ [])).mapIdx fun qi q =>
    q.options.mapIdx fun oi text => (text, qi * 10 + oi + 1)).flatten

def week : ℤ := 7 * 24 * 60 * 60 * 1000

def CreatePollDto.data (dto : CreatePollDto) (tenantId : Id) (now : ℤ)
    (questions : List SurveyQuestion) : NewPoll where
  tenantId
  targetAudience := dto.targetAudience
  startDate := dto.startDate.getD now
  endDate := dto.endDate.getD (now + week)
  porscadFormId := dto.porscadFormId
  options := dto.newOptions questions

/-- The poll as it is remembered. -/
def NewPoll.memory (data : NewPoll) (id : Key) : MemoryPoll where
  id
  tenantId := data.tenantId
  porscadFormId := data.porscadFormId
  options := data.options.map fun option => (option.1, 0)

def createPoll (tenantId : Id) (dto : CreatePollDto) (now : ℤ) (reaches : Bool) : PollCall Key := do
  let questions := dto.questions.map (·.prepare)
  Prog.ret (dto.check questions)
  let data := dto.data tenantId now questions
  Prog.rescue (fun _ => Sql.perform (.rememberPoll (data.memory (.made now)))) do
    let created ← Sql.perform (.createPoll data reaches)
    Sql.perform (.rememberPoll (data.memory created))

/-! ### Answering -/

/-- Whether each access to the database is answered. -/
structure Reaches where
  (poll vote transaction : Bool := true)

structure Request where
  tenantId : Id
  pollId : Key
  userId : Id
  role : Option UserRole := none
  now : ℤ
  reaches : Reaches := {}

/-- `audienceForRole(role)`, for a role that is given. -/
def audienceForRole : UserRole → Option TargetAudience
  | .student => some .students
  | .parent => some .parents
  | _ => none

def TargetAudience.title : TargetAudience → String
  | .students => "دانش‌آموزان"
  | .parents => "اولیا"
  | .teachers => "معلمان"
  | _ => "کادر مدرسه"

/-- What a poll is checked for before an answer or a vote; they differ in a text. -/
def Request.requireOpen (x : Request) (poll : Poll) (archived : String) : Result Unit := do
  require (poll.targetAudience = .all ∨
      ∀ audience ∈ x.role.bind audienceForRole, poll.targetAudience = audience)
    (.badRequest ("شما دسترسی لازم برای شرکت در این نظرسنجی را ندارید (مختص " ++
      poll.targetAudience.title ++ ")"))
  require (poll.isArchived = false) (.badRequest archived)
  require (poll.startDate ≤ x.now ∧ x.now ≤ poll.endDate ∧ poll.isClosed = false)
    (.badRequest "مهلت شرکت در این نظرسنجی به پایان رسیده یا نظرسنجی غیرفعال شده است")

/-- The exceptions that are passed on. -/
def isPassedOn : Failure → Bool
  | .notFound _ | .badRequest _ | .conflict _ => true
  | _ => false

/-- `catch`: another failure than the exceptions of the service is answered from memory. -/
def Request.remember (x : Request) (selectedOptionIds : List String) (answers : Option Answers)
    (e : Failure) : PollCall Key :=
  if isPassedOn e then Prog.fail e
  else Sql.perform (.rememberVote
    { id := .made x.now, tenantId := x.tenantId, pollId := x.pollId, userId := x.userId,
      selectedOptionIds, answers })

/-- The poll, when it is open and the user has not answered. -/
def Request.openPoll (x : Request) (archived again : String) : PollCall Poll := do
  let store ← fetch x.reaches.poll
  let poll ← Prog.ret (orFail (store.poll x.tenantId x.pollId) (.notFound "نظرسنجی یافت نشد"))
  Prog.ret (x.requireOpen poll archived)
  let store ← fetch x.reaches.vote
  Prog.ret (require (∀ v ∈ store.votes.rows, ¬ (v.pollId = poll.id ∧ v.userId = x.userId))
    (.conflict again))
  pure poll

/-- The texts of all answers. -/
def selectedTexts (answers : Answers) : List String :=
  answers.flatMap fun entry =>
    match entry.2 with
    | .text s => [s]
    | .items texts => texts
    | _ => []

/-- The first number among the answers. -/
def firstNumeric (answers : Answers) : Option ℤ :=
  (answers.findSome? fun entry =>
    match entry.2 with
    | .number rounded => some rounded
    | _ => none).join

def comment (answers : Answers) : Option String :=
  match answers.lookup "comment" with
  | some (.text s) => some s
  | _ => none

def submitAnswers (x : Request) (answers : Answers) : PollCall Key :=
  Prog.rescue (x.remember [] (some answers)) do
    let poll ← x.openPoll "این نظرسنجی آرشیو شده و پذیرش پاسخ نیست"
      "شما قبلاً در این نظرسنجی پاسخ داده‌اید"
    Sql.perform (.answer
      { tenantId := x.tenantId, pollId := poll.id, userId := x.userId,
        selectedOptionIds := selectedTexts answers, ratingValue := firstNumeric answers,
        textResponse := comment answers }
      answers x.reaches.transaction)

structure CastVoteDto where
  selectedOptionIds : List String := []
  ratingValue : Option ℤ := none
  textResponse : Option String := none

def castVote (x : Request) (dto : CastVoteDto) : PollCall Key :=
  Prog.rescue (x.remember dto.selectedOptionIds none) do
    let poll ← x.openPoll "این نظرسنجی آرشیو شده و پذیرش رأی نیست"
      "شما قبلاً در این نظرسنجی رأی داده‌اید"
    Sql.perform (.cast
      { tenantId := x.tenantId, pollId := poll.id, userId := x.userId,
        selectedOptionIds := dto.selectedOptionIds, ratingValue := dto.ratingValue,
        textResponse := dto.textResponse }
      x.reaches.transaction)

/-! ### Results -/

def canViewPollResults (role : UserRole) : Bool :=
  role ∈ [UserRole.superAdmin, .schoolAdmin, .staff, .teacher, .coach]

inductive ResponseId where
  | vote (id : Key)
  | porscad (id : String)
deriving DecidableEq

structure Analytics where
  totalResponses : ℕ
  legacyOptions : List (String × ℕ)
  responses : List ResponseId

def formatAnalyticsData (options : List (String × ℕ)) (responses : List ResponseId) :
    Analytics where
  totalResponses := responses.length
  legacyOptions := options
  responses

section

-- the ids of the responses that Porscad holds for a form
variable (live : String → List String)

/-- The responses of Porscad stand in where there is no vote. -/
def orLive (porscadFormId : Option String) (votes : List ResponseId) : List ResponseId :=
  match votes, truthy porscadFormId with
  | [], some form => (live form).map .porscad
  | votes, _ => votes

theorem orLive_of_ne_nil (porscadFormId : Option String) {votes : List ResponseId}
    (some : votes ≠ []) : orLive live porscadFormId votes = votes := by
  cases votes with
  | nil => exact absurd rfl some
  | cons v votes => rfl

/-- The poll is read first, the votes in a state `later`. -/
def getAnalytics (store later : Store) (tenantId : Id) (pollId : Key) (role : Option UserRole)
    (reaches : Bool) : Result Analytics := do
  require (∀ r ∈ role, canViewPollResults r = true)
    (.forbidden "شما دسترسی لازم برای مشاهده نتایج و آمار این نظرسنجی را ندارید")
  if reaches then do
    let poll ← orFail (store.poll tenantId pollId) (.notFound "نظرسنجی یافت نشد")
    let options := (store.options.rows.filter (·.pollId = poll.id)).insertionSort
      fun a b => a.orderIndex ≤ b.orderIndex
    let votes := later.votes.rows.filter fun v => v.pollId = poll.id ∧ v.tenantId = tenantId
    return formatAnalyticsData (options.map fun o => (o.text, o.voteCount))
      (orLive live poll.porscadFormId (votes.map fun v => .vote (.stored v.id)))
  else do
    let poll ← orFail (store.inMemoryPolls.find? fun p => p.id = pollId ∧ p.tenantId = tenantId)
      (.notFound "نظرسنجی یافت نشد")
    let votes := later.inMemoryVotes.filter fun v => v.pollId = pollId ∧ v.tenantId = tenantId
    return formatAnalyticsData poll.options
      (orLive live poll.porscadFormId (votes.map fun v => .vote v.id))

end

/-! ### Calls -/

inductive Call where
  | createPoll (tenantId : Id) (dto : CreatePollDto) (now : ℤ) (reaches : Bool)
  | submitAnswers (x : Request) (answers : Answers)
  | castVote (x : Request) (dto : CastVoteDto)

/-- A call answers with the id of what it has stored. -/
def Call.program : Call → PollCall Key
  | .createPoll tenantId dto now reaches => Polls.createPoll tenantId dto now reaches
  | .submitAnswers x answers => Polls.submitAnswers x answers
  | .castVote x dto => Polls.castVote x dto

/-- The request of a call that votes. -/
def Call.request : Call → Option Request
  | .createPoll .. => none
  | .submitAnswers x _ | .castVote x _ => some x

def start {ι : Type} (store : Store) (calls : ι → Call) : Threads Store (PollCall Key) ι :=
  ⟨store, fun i => (calls i).program⟩

end Rokad.Polls
