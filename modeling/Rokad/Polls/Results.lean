import Rokad.Base.Json
import Rokad.Base.Dict
import Rokad.Polls.Service

/-!
# Results of polls

What `PollsService` shows of the answers: `listPolls` and `getPollDetails` to everybody, with the
counts of the options taken out for roles that may not see results, and `getAnalytics` to the
others. The rows here have the columns that these calls show; they are counted as the calls that
store count theirs (`getAnalytics_shows`).
-/

namespace Rokad.Polls.Results

open Rokad.Base Rokad.Common

/-! ### Tables -/

structure User where
  id : Id
  (firstName lastName : String)
  role : UserRole

structure Poll where
  (id tenantId : Id)
  title : String
  description : Option String := none
  pollType : PollType := .singleChoice
  targetAudience : TargetAudience := .all
  targetClassIds : List String := []
  (startDate endDate : ℤ)
  (isAnonymous isClosed isArchived : Bool := false)
  questions : List SurveyQuestion := []
  (porscadFormId porscadFormPublicId : Option String := none)
  createdById : Id
  (createdAt updatedAt : ℤ)
deriving DecidableEq

/-- The entries of a map of answers. -/
abbrev AnswerMap := List (String × Json)

structure PollVote where
  (id tenantId pollId userId : Id)
  answers : Option AnswerMap := none
  (porscadResponseId respondentName : Option String := none)
  createdAt : ℤ
deriving DecidableEq

instance : Record User where
  key u := u.id

instance : Record Poll where
  key p := p.id

/-- One vote of a user on a poll. -/
instance : Record PollVote where
  key v := v.id
  clash a b := a.pollId == b.pollId && a.userId == b.userId

structure Db where
  users : Table User := .empty
  polls : Table Poll := .empty
  options : Table PollOption := .empty
  votes : Table PollVote := .empty

namespace Db

variable (db : Db)

def poll (tenantId pollId : Id) : Option Poll :=
  (db.polls.find? pollId).filter (·.tenantId = tenantId)

/-- `options: { orderBy: { orderIndex: 'asc' } }` -/
def optionsOf (pollId : Id) : List PollOption :=
  (db.options.rows.filter (·.pollId = pollId)).insertionSort fun a b => a.orderIndex ≤ b.orderIndex

/-- `_count: { select: { votes: true } }` -/
def countVotes (pollId : Id) : ℕ := db.votes.count (·.pollId = pollId)

/-- `{ pollId_userId: { pollId, userId } }` -/
def voteOf (pollId userId : Id) : Option PollVote :=
  db.votes.rows.find? fun v => v.pollId = pollId ∧ v.userId = userId

end Db

/-! ### For everybody -/

def canViewPollResults (role : Option UserRole) : Bool := role.any Polls.canViewPollResults

/-- The names and the role of a user. -/
structure Person where
  (firstName lastName : String)
  role : UserRole
deriving DecidableEq

def User.person (u : User) : Person := ⟨u.firstName, u.lastName, u.role⟩

/-- A poll as it is shown. -/
structure ShownPoll where
  poll : Poll
  options : List PollOption
  votes : ℕ
  createdBy : Option Person := none
deriving DecidableEq

def sanitizePollForRole (shown : ShownPoll) (role : Option UserRole) : ShownPoll :=
  if canViewPollResults role then shown
  else { shown with options := shown.options.map fun opt => { opt with voteCount := 0 } }

/-- The audience that the polls of a list are for, besides all. -/
def listAudience : Option UserRole → Option TargetAudience
  | some role => audienceForRole role
  | none => some .all

def listPolls (tenantId : Id) (role : Option UserRole) (db : Db) : List ShownPoll :=
  let items := (db.polls.rows.filter fun p => p.tenantId = tenantId ∧
    ∀ audience ∈ listAudience role, p.targetAudience = .all ∨ p.targetAudience = audience)
      |>.insertionSort fun a b => b.createdAt ≤ a.createdAt
  items.map fun p => sanitizePollForRole
    { poll := p
      options := db.optionsOf p.id
      votes := db.countVotes p.id
      createdBy := (db.users.find? p.createdById).map User.person } role

/-- What a user sees of the own vote. -/
structure OwnVote where
  createdAt : ℤ
  answers : Option AnswerMap
  respondentName : Option String

structure PollDetails where
  poll : ShownPoll
  hasVoted : Bool
  userVote : Option OwnVote

def getPollDetails (tenantId pollId : Id) (userId : Option Id) (role : Option UserRole) (db : Db) :
    Result PollDetails := do
  let poll ← orFail (db.poll tenantId pollId) (.notFound "نظرسنجی یافت نشد")
  let userVote := userId.bind fun userId => db.voteOf pollId userId
  return {
    poll := sanitizePollForRole
      { poll, options := db.optionsOf poll.id, votes := db.countVotes poll.id } role
    hasVoted := userVote.isSome
    userVote := userVote.map fun v => ⟨v.createdAt, v.answers, v.respondentName⟩ }

/-! ### Analytics -/

/-- A response as it is counted: a vote, or what the service of the forms sends. -/
structure Response where
  id : String
  respondentName : Option String
  answers : Option AnswerMap
  porscadResponseId : Option String
  createdAt : ℤ
  user : Option Person

/-- The raw answer to a question, if it is not passed over. -/
def Response.answer (v : Response) (index : ℕ) : Option Json :=
  let answers := v.answers.getD []
  let raw := match answers.lookup (toString index) with
    | none | some .null => answers.lookup ("q_" ++ toString index)
    | raw => raw
  raw.filter fun raw => raw ≠ .null ∧ raw ≠ .str ""

/-- The values of an answer: those of an array one by one. -/
def values : Json → List Json
  | .arr items => items
  | value => [value]

def cannotConvert : Failure := .thrown "Cannot convert object to primitive value"

/-- The keys that the values are counted under. -/
def keysOf (raw : Json) : Result (List String) :=
  orFail ((values raw).mapM Json.asText) cannotConvert

structure QuestionTally where
  counts : Counts := .empty
  ratingSum : Number := .finite 0
  (ratingCount answered : ℕ := 0)

def QuestionTally.add (index : ℕ) (t : QuestionTally) (v : Response) :
    Result QuestionTally :=
  match v.answer index with
  | none => .ok t
  | some raw => do
      let keys ← keysOf raw
      let t := { t with answered := t.answered + 1, counts := keys.foldl Counts.increment t.counts }
      match raw with
      | .num n => .ok { t with
          ratingSum := t.ratingSum.add (parseFloat n.text)
          ratingCount := t.ratingCount + 1 }
      | _ => .ok t

structure OptionResult where
  text : String
  count : Count
  percentage : Number

/-- `total > 0 ? Math.round((count / total) * 100) : 0`; what is no number makes none. -/
def percentageOf (count : Count) (total : ℕ) : Number :=
  if 0 < total then
    match count with
    | .number n => (((Number.finite n).div (.finite total)).mul (.finite 100)).round
    | _ => .nan
  else .finite 0

/-- `b.count - a.count <= 0`, or no number. -/
def OptionResult.notBefore (a b : OptionResult) : Bool :=
  match a.count, b.count with
  | .number m, .number n => n ≤ m
  | _, _ => true

/-- The options of a question, then the other texts that were counted, the most frequent first. No
text is counted twice, so it is enough to look for it among the options. -/
def QuestionTally.options (t : QuestionTally) (options : List String) : List OptionResult :=
  let listed := options.map fun text =>
    { text
      count := t.counts.read text
      percentage := percentageOf (t.counts.read text) t.answered }
  let others := (t.counts.ordered.filter fun e => e.1 ∉ options).map fun e =>
    { text := e.1, count := e.2, percentage := percentageOf e.2 t.answered }
  (listed ++ others).insertionSort fun a b => a.notBefore b

structure QuestionResult where
  index : ℕ
  (title type : String)
  answered : ℕ
  options : List OptionResult
  avgRating : Option Number

def perQuestion (votes : List Response) (index : ℕ) (q : SurveyQuestion) :
    Result QuestionResult := do
  let t ← inTurn (QuestionTally.add index) {} votes
  return {
    index
    title := q.title
    type := q.type
    answered := t.answered
    options := t.options q.options
    avgRating := if 0 < t.ratingCount then some (t.ratingSum.div (.finite t.ratingCount)).toFixed2
      else none }

structure LegacyOption where
  id : Id
  text : String
  voteCount : ℕ
  percentage : Number

/-- A response as it is shown. -/
structure ShownResponse where
  (id respondentName : String)
  role : Option UserRole
  answers : Option AnswerMap
  porscadResponseId : Option String
  createdAt : ℤ

/-- The columns of the poll that are shown with its results. -/
structure PollHeader where
  id : Id
  title : String
  description : Option String
  (startDate endDate : ℤ)
  (isClosed isArchived : Bool)
  targetAudience : TargetAudience
  (porscadFormId porscadFormPublicId : Option String)
  questions : List SurveyQuestion

structure AnalyticsData where
  poll : PollHeader
  totalResponses : ℕ
  porscadLinked : Bool
  perQuestion : List QuestionResult
  legacyOptions : List LegacyOption
  responses : List ShownResponse

def Poll.header (p : Poll) : PollHeader where
  id := p.id
  title := p.title
  description := p.description
  startDate := p.startDate
  endDate := p.endDate
  isClosed := p.isClosed
  isArchived := p.isArchived
  targetAudience := p.targetAudience
  porscadFormId := p.porscadFormId
  porscadFormPublicId := p.porscadFormPublicId
  questions := p.questions

/-- The name of a respondent, where it may be shown. -/
def Response.name (v : Response) : String :=
  match truthy v.respondentName with
  | some name => name
  | none =>
    let full := trim ((v.user.map (·.firstName)).getD "" ++ " " ++
      (v.user.map (·.lastName)).getD "")
    if full = "" then "کاربر" else full

def Response.shown (isAnonymous : Bool) (v : Response) : ShownResponse where
  id := v.id
  respondentName := if isAnonymous then "کاربر ناشناس" else v.name
  role := if isAnonymous then none else v.user.map (·.role)
  answers := v.answers
  porscadResponseId := v.porscadResponseId
  createdAt := v.createdAt

def formatAnalyticsData (poll : Poll) (options : List PollOption) (votes : List Response) :
    Result AnalyticsData := do
  let perQuestion ← poll.questions.zipIdx.mapM fun (q, index) => perQuestion votes index q
  return {
    poll := poll.header
    totalResponses := votes.length
    porscadLinked := (truthy poll.porscadFormId).isSome
    perQuestion
    legacyOptions := options.map fun opt =>
      { id := opt.id, text := opt.text, voteCount := opt.voteCount
        percentage := percentageOf (.number opt.voteCount) votes.length }
    responses := votes.map (·.shown poll.isAnonymous) }

def Db.response (db : Db) (v : PollVote) : Response where
  id := toString v.id
  respondentName := v.respondentName
  answers := v.answers
  porscadResponseId := v.porscadResponseId
  createdAt := v.createdAt
  user := (db.users.find? v.userId).map User.person

/-- The votes of a poll, the latest first. -/
def Db.responses (db : Db) (tenantId pollId : Id) : List Response :=
  ((db.votes.rows.filter fun v => v.pollId = pollId ∧ v.tenantId = tenantId).insertionSort
    fun a b => b.createdAt ≤ a.createdAt).map db.response

/-- The responses that are counted: without a vote, those that the service of the forms has. -/
def counted (fetchPorscadLiveResponses : Poll → List Response) (poll : Poll)
    (votes : List Response) : List Response :=
  if votes = [] ∧ (truthy poll.porscadFormId).isSome then fetchPorscadLiveResponses poll else votes

/-- `offline` is the answer from what the process remembers, given when the results cannot be put
together. -/
def getAnalytics (fetchPorscadLiveResponses : Poll → List Response)
    (offline : Result AnalyticsData) (tenantId pollId : Id) (role : Option UserRole)
    (db : Db) : Result AnalyticsData := do
  require (role = none ∨ canViewPollResults role)
    (.forbidden "شما دسترسی لازم برای مشاهده نتایج و آمار این نظرسنجی را ندارید")
  let poll ← orFail (db.poll tenantId pollId) (.notFound "نظرسنجی یافت نشد")
  let votes := counted fetchPorscadLiveResponses poll (db.responses tenantId pollId)
  match formatAnalyticsData poll (db.optionsOf poll.id) votes with
  | .ok data => .ok data
  | .error _ => offline

/-! ### The rows of the calls that store -/

/-- The same rows, with the columns that both calls read. -/
structure Db.Shows (db : Db) (store : Store) : Prop where
  polls k : (db.polls.find? k).map (fun p => (p.tenantId, p.porscadFormId)) =
    (store.polls.find? k).map fun p => (p.tenantId, p.porscadFormId)
  options : db.options = store.options
  votes : db.votes.rows.map (fun v => (v.tenantId, v.pollId)) =
    store.votes.rows.map fun v => (v.tenantId, v.pollId)

section

variable {db : Db} {store : Store} {tenantId pollId : Id} (shows : db.Shows store)
include shows

theorem Db.Shows.poll {poll : Poll} (found : db.poll tenantId pollId = some poll) :
    poll.id = pollId ∧ ∃ stored, store.poll tenantId (.stored pollId) = some stored ∧
      stored.id = poll.id ∧ stored.porscadFormId = poll.porscadFormId := by
  obtain ⟨here, school⟩ := Option.filter_eq_some_iff.mp found
  have both := shows.polls pollId
  rw [here, Option.map_some] at both
  obtain ⟨stored, there, same⟩ := Option.map_eq_some_iff.mp both.symm
  simp only [Prod.mk.injEq] at same
  have key := key_of_find? here
  refine ⟨key, stored, Option.filter_eq_some_iff.mpr ⟨there, ?_⟩,
    (key_of_find? there).trans key.symm, same.2⟩
  rw [same.1]
  exact school

theorem Db.Shows.responses : (db.responses tenantId pollId).length =
    (store.votes.rows.filter fun v => v.pollId = pollId ∧ v.tenantId = tenantId).length := by
  have both := congrArg (List.countP fun row => row.2 = pollId ∧ row.1 = tenantId) shows.votes
  simpa [Db.responses, ← List.countP_eq_length_filter, List.countP_map, Function.comp_def] using both

/-- The results that are shown of the rows have the number of responses and the counts of the
options that the rows give. -/
theorem getAnalytics_shows {fetch : Poll → List Response} {live : String → List String}
    (fetches : ∀ p form, truthy p.porscadFormId = some form →
      (fetch p).length = (live form).length)
    {role : Option UserRole} {e : Failure} {data : AnalyticsData}
    (done : getAnalytics fetch (.error e) tenantId pollId role db = .ok data) :
    ∃ results, Polls.getAnalytics live store store tenantId (.stored pollId) role true =
        .ok results ∧ results.totalResponses = data.totalResponses ∧
      results.legacyOptions = data.legacyOptions.map fun o => (o.text, o.voteCount) := by
  simp only [getAnalytics, do_eq_ok, orFail_eq_ok, require_eq_ok] at done
  obtain ⟨_, allowed, poll, found, done⟩ := done
  split at done
  swap
  · cases done
  rename_i formatted
  cases done
  simp only [formatAnalyticsData, do_eq_ok] at formatted
  obtain ⟨questions, -, rfl⟩ := formatted
  obtain ⟨rfl, stored, there, id, form⟩ := shows.poll found
  have may : ∀ r ∈ role, Polls.canViewPollResults r = true := by
    cases role with
    | none => simp
    | some r => simpa [canViewPollResults] using allowed
  have length := @Db.Shows.responses db store tenantId poll.id shows
  unfold Polls.getAnalytics require
  rw [if_pos may, there]
  refine ⟨_, rfl, ?_, ?_⟩
  · simp only [id, form, Polls.formatAnalyticsData, counted, orLive]
    cases votes : store.votes.rows.filter fun v => v.pollId = poll.id ∧ v.tenantId = tenantId with
    | nil =>
      have none := List.length_eq_zero_iff.mp (length.trans (congrArg List.length votes))
      cases isForm : truthy poll.porscadFormId with
      | none => simp [none]
      | some f => simp [none, fetches poll f isForm]
    | cons v rest =>
      rw [votes] at length
      have some : db.responses tenantId poll.id ≠ [] := fun none => by simp [none] at length
      simp [some, length]
  · simp only [id, shows.options, List.map_map, Db.optionsOf]
    rfl

end

end Rokad.Polls.Results
