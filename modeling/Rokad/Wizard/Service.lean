import Rokad.Base.Json
import Rokad.Base.Run
import Rokad.Base.Text
import Rokad.Common.Http

/-!
# The wizard of an event

The ideas, the teams and the locks of an event are one document in its column `workflowModules`.
Each call reads the column, works out the whole of the new one and stores it. Where no ideas are
stored the document starts with the initial ones; an edit of an idea changes those in memory.
-/

namespace Rokad.Wizard

open Rokad.Base Rokad.Common

/-! ### The document -/

structure User where
  id : Id
  role : UserRole
  (firstName lastName username : Option String := none)

def User.isManager (user : User) : Bool :=
  user.role ∈ [.superAdmin, .schoolAdmin, .teacher, .staff]

inductive IdeaStatus where
  | pending | approved | rejected
deriving DecidableEq

structure Idea where
  (id eventId : String)
  ideaNumber : Option ℚ
  (title description authorName : String)
  authorRole : Option String := none
  authorUserId : Option Id := none
  createdAt : ℤ
  status : Option IdeaStatus
  (category goals suggestedMaterials attachmentUrl : Option String := none)
deriving DecidableEq

structure WorkflowModule where
  key : String
  step : ℚ
  enabled : Option Bool
deriving DecidableEq

structure WizardData where
  unlockedSteps : Option (List Json)
  isIdeaSubmissionLocked : Option Bool
  ideas : List Idea
  teams : List (String × Json)
deriving DecidableEq

/-- What the column holds: nothing, the modules alone, or the modules and the wizard's data. -/
inductive WorkflowModules where
  | null
  | modules (modules : List WorkflowModule)
  | wizard (modules : List WorkflowModule) (wizardData : Option WizardData)
deriving DecidableEq

/-- The column of the event, and the initial ideas as they are in memory. -/
structure Store where
  column : WorkflowModules
  initialIdeas : List Idea

structure Event where
  id : String
  tenantId : Id
  /-- `EVENT_609775C5_INITIAL_TEAMS` -/
  initialTeams : List (String × Json)

section

variable (event : Event) (s : Store)

/-- The one event that starts with ideas and teams. -/
def Event.isSeeded : Bool := event.id = "609775c5-ad77-43bb-8065-1aafc5bad547"

def getInitialBackendIdeas : List Idea := if event.isSeeded then s.initialIdeas else []

def getInitialBackendTeams : List (String × Json) :=
  if event.isSeeded then event.initialTeams else []

def allSteps : List Json :=
  ["1", "2", "3", "4", "5", "6", "7", "8"].pmap (fun text plain => .num ⟨text, plain⟩) (by decide)

/-- The wizard's data where the column holds some. -/
def WorkflowModules.wizardData : WorkflowModules → Option WizardData
  | .wizard _ wizardData => wizardData
  | _ => none

def WorkflowModules.moduleList : WorkflowModules → List WorkflowModule
  | .null => []
  | .modules list => list
  | .wizard list _ => list

/-- The ideas are not those of the column but the initial ones themselves. -/
def sharesInitialIdeas : Bool := (s.column.wizardData.map (·.ideas)).getD [] = []

def parseWorkflowModules : List WorkflowModule × WizardData :=
  (s.column.moduleList,
    match s.column.wizardData with
    | none =>
      { unlockedSteps := some allSteps
        isIdeaSubmissionLocked := some false
        ideas := getInitialBackendIdeas event s
        teams := getInitialBackendTeams event }
    | some data =>
      { data with
        unlockedSteps := some ((data.unlockedSteps.filter (· ≠ [])).getD allSteps)
        ideas := if data.ideas = [] then getInitialBackendIdeas event s else data.ideas
        teams := if data.teams = [] then getInitialBackendTeams event else data.teams })

end

/-! ### Ideas -/

/-- An absent field, a null, or a value. -/
abbrev Field (α : Type) := Option (Option α)

structure SubmitEventIdeaDto where
  (title description : String)
  (category goals suggestedMaterials attachmentUrl authorName : Option String := none)

structure UpdateEventIdeaDto where
  (title description : Field String := none)
  status : Field IdeaStatus := none
  ideaNumber : Field ℚ := none
  authorName : Field String := none

structure UpdateEventWizardStepsDto where
  unlockedSteps : Field (List Json) := none
  isIdeaSubmissionLocked : Field Bool := none

inductive Answer where
  | submitted (idea : Idea) (ideas : List Idea)
  | updated (idea : Idea) (ideas : List Idea)
  | deleted (ideas : List Idea)
  | steps (unlockedSteps : Option (List Json)) (isIdeaSubmissionLocked : Option Bool)
  | teams (teams : List (String × Json))
  | event

def Answer.message : Answer → Option String
  | submitted _ _ => some "ایده با موفقیت ثبت شد"
  | updated _ _ => some "ایده با موفقیت به‌روزرسانی شد"
  | deleted _ => some "ایده با موفقیت حذف شد"
  | steps _ _ => some "تنظیمات مراحل رویداد با موفقیت ذخیره شد"
  | teams _ => some "ترکیب تیم‌ها با موفقیت در سرور ذخیره شد"
  | event => none

/-- What a call has worked out from its reading: what it stores, the initial ideas as it leaves
them in memory, and its answer. -/
structure Edit where
  write : Option WorkflowModules
  initialIdeas : List Idea
  answer : Answer

/-- `Math.max` of the numbers, and of zero. -/
def maxNumber (ideas : List Idea) : ℚ :=
  ideas.foldl (fun max idea => Max.max max (idea.ideaNumber.getD 0)) 0

def finiteOr (other : ℚ) : Number → ℚ
  | .finite number => number
  | _ => other

/-- `max + 1` as a double. -/
def nextNumber (max : ℚ) : ℚ := finiteOr max (toDouble (max + 1))

/-- `text.trim()` of a field that is there; a null has no `trim`. -/
def trimmed : Field String → Result (Option String)
  | none => .ok none
  | some (some text) => .ok (some (trim text))
  | some none => .error (.thrown "Cannot read properties of null (reading 'trim')")

section

variable (event : Event) (s : Store)

/-- The column with this data for the wizard. -/
def stored (wizardData : WizardData) (answer : Answer) : Edit :=
  { write := some (.wizard (parseWorkflowModules event s).1 (some wizardData))
    initialIdeas := s.initialIdeas
    answer }

def submitEventIdea (user : User) (dto : SubmitEventIdeaDto) (now : ℤ) (drawn : String) :
    Result Edit := do
  let wizardData := (parseWorkflowModules event s).2
  require (¬ (wizardData.isIdeaSubmissionLocked = some true ∧ user.isManager = false))
    (.badRequest "مهلت ثبت ایده به پایان رسیده و قفل شده است")
  let fullName := trim (user.firstName.getD "" ++ " " ++ user.lastName.getD "")
  let newIdea : Idea :=
    { id := drawn
      eventId := event.id
      ideaNumber := some (nextNumber (maxNumber wizardData.ideas))
      title := trim dto.title
      description := trim dto.description
      authorName := (truthy dto.authorName <|> truthy (some fullName) <|>
        truthy user.username).getD "دانش‌آموز"
      authorRole := some (if user.role = .student then "دانش‌آموز" else "مدیر رویداد")
      authorUserId := some user.id
      createdAt := now
      status := some .approved
      category := dto.category
      goals := dto.goals
      suggestedMaterials := dto.suggestedMaterials
      attachmentUrl := dto.attachmentUrl }
  let updatedIdeas := newIdea :: wizardData.ideas
  return stored event s { wizardData with ideas := updatedIdeas } (.submitted newIdea updatedIdeas)

/-- Someone who is no manager changes their own ideas and those without an author. -/
def mayChange (user : User) (idea : Idea) : Bool :=
  user.isManager || idea.authorUserId.all (· = user.id)

def updateEventIdea (user : User) (ideaId : String) (dto : UpdateEventIdeaDto) :
    Result Edit := do
  let wizardData := (parseWorkflowModules event s).2
  let ideaIndex := wizardData.ideas.findIdx fun i => i.id = ideaId
  let existingIdea ← orFail wizardData.ideas[ideaIndex]? (.notFound "ایده یافت نشد")
  require (mayChange user existingIdea = true) (.forbidden "شما دسترسی ویرایش این ایده را ندارید")
  let title ← trimmed dto.title
  let description ← trimmed dto.description
  let authorName ← trimmed dto.authorName
  let updatedIdea :=
    { existingIdea with
      title := title.getD existingIdea.title
      description := description.getD existingIdea.description
      status := if user.isManager then dto.status.getD existingIdea.status else existingIdea.status
      ideaNumber := if user.isManager then dto.ideaNumber.getD existingIdea.ideaNumber
        else existingIdea.ideaNumber
      authorName := authorName.getD existingIdea.authorName }
  let ideas := wizardData.ideas.set ideaIndex updatedIdea
  return { stored event s { wizardData with ideas } (.updated updatedIdea ideas) with
    -- The initial ideas are changed in place.
    initialIdeas := if event.isSeeded && sharesInitialIdeas s then ideas else s.initialIdeas }

def deleteEventIdea (user : User) (ideaId : String) : Result Edit := do
  let wizardData := (parseWorkflowModules event s).2
  let existingIdea ← orFail (wizardData.ideas.find? fun i => i.id = ideaId)
    (.notFound "ایده یافت نشد")
  require (mayChange user existingIdea = true) (.forbidden "شما دسترسی حذف این ایده را ندارید")
  let ideas := wizardData.ideas.filter fun i => i.id ≠ ideaId
  return stored event s { wizardData with ideas } (.deleted ideas)

/-! ### Steps, teams and the event itself -/

def updateEventWizardSteps (dto : UpdateEventWizardStepsDto) : Edit :=
  let wizardData := (parseWorkflowModules event s).2
  let wizardData :=
    { wizardData with
      unlockedSteps := dto.unlockedSteps.getD wizardData.unlockedSteps
      isIdeaSubmissionLocked :=
        dto.isIdeaSubmissionLocked.getD wizardData.isIdeaSubmissionLocked }
  stored event s wizardData (.steps wizardData.unlockedSteps wizardData.isIdeaSubmissionLocked)

/-- `{ ...teams, ...given }` -/
def merged (teams given : List (String × Json)) : List (String × Json) :=
  teams.map (fun (key, team) => (key, (given.lookup key).getD team)) ++
    given.filter fun (key, _) => (teams.lookup key).isNone

def updateEventTeams (teams : List (String × Json)) : Edit :=
  let wizardData := (parseWorkflowModules event s).2
  let wizardData := { wizardData with teams := merged wizardData.teams teams }
  stored event s wizardData (.teams wizardData.teams)

def VALID_PRISMA_EVENT_TYPES : List String :=
  ["ACADEMIC", "HOLIDAY", "EXAM", "MEETING", "CULTURAL", "SPORTS", "EXCURSION", "STARTUP_WEEKEND"]

def DEFAULT_STARTUP_WEEKEND_MODULES : List WorkflowModule :=
  [⟨"IDEA_SUBMISSION", 1, some true⟩, ⟨"IDEA_HALL", 2, some true⟩, ⟨"VOTING", 3, some true⟩,
    ⟨"TEAM_FORMATION", 4, some true⟩, ⟨"EVENT_CANVAS", 5, some true⟩,
    ⟨"TASK_DEFINITION", 6, some true⟩, ⟨"PRESENTATION_UPLOAD", 7, some true⟩,
    ⟨"LEADERBOARD", 8, some true⟩]

/-- The fields of `UpdateEventDto` that the modules depend on. -/
structure UpdateEventDto where
  (eventType type baseType categoryKey : Option String := none)
  tags : Option (List String) := none
  workflowModules : Option (List WorkflowModule) := none

/-- A custom type of the school. -/
structure EventType where
  code : String
  baseType : Option String

/-- What follows the prefix of the first tag that has it. -/
def taggedWith (mark : String) (tags : List String) : Option String :=
  (tags.find? fun tag => mark.toList.isPrefixOf tag.toList).map fun tag =>
    String.ofList (tag.toList.drop mark.length)

def UpdateEventDto.selectedTypeCode (dto : UpdateEventDto) : Option String :=
  truthy dto.type <|> truthy dto.eventType <|> truthy dto.categoryKey <|>
    truthy (dto.tags.bind fun tags => taggedWith "type:" tags <|> taggedWith "categoryKey:" tags)

/-- The value, if it is one of the enumeration. -/
def validType (type : Option String) : Option String :=
  type.filter (· ∈ VALID_PRISMA_EVENT_TYPES)

def UpdateEventDto.finalEventType (dto : UpdateEventDto) (customTypes : List EventType) :
    Option String :=
  if dto.tags.isSome || dto.type.isSome || dto.eventType.isSome || dto.categoryKey.isSome ||
      dto.baseType.isSome then
    match dto.selectedTypeCode with
    | some code =>
      if code ∈ VALID_PRISMA_EVENT_TYPES then some code
      else validType dto.baseType <|> validType dto.eventType <|>
        validType ((customTypes.find? fun t => t.code = code).bind (·.baseType)) <|>
          some "ACADEMIC"
    | none => validType dto.eventType
  else none

/-- Of the event's columns, `workflowModules` alone: it is stored if the request gives modules, or
if the event becomes a startup weekend and has none. -/
def updateEvent (dto : UpdateEventDto) (customTypes : List EventType) : Edit :=
  let isStartupWeekend := dto.finalEventType customTypes = some "STARTUP_WEEKEND" ||
    dto.selectedTypeCode = some "STARTUP_WEEKEND"
  let noneStored := s.column = .null || s.column = .modules []
  let noneGiven := dto.workflowModules.getD [] = []
  let nextWorkflowModules :=
    if isStartupWeekend && noneStored && noneGiven then some DEFAULT_STARTUP_WEEKEND_MODULES
    else dto.workflowModules
  { write := nextWorkflowModules.map .modules
    initialIdeas := s.initialIdeas
    answer := .event }

end

/-! ### Calls in progress -/

inductive Call where
  | submitEventIdea (user : User) (dto : SubmitEventIdeaDto) (now : ℤ) (drawn : String)
  | updateEventIdea (user : User) (ideaId : String) (dto : UpdateEventIdeaDto)
  | deleteEventIdea (user : User) (ideaId : String)
  | updateEventWizardSteps (user : User) (dto : UpdateEventWizardStepsDto)
  | updateEventTeams (user : User) (teams : List (String × Json))
  | updateEvent (dto : UpdateEventDto) (customTypes : List EventType)

structure Request where
  tenantId : Id
  call : Call

/-- What the call works out if it reads the column now. -/
def Request.edit (event : Event) (r : Request) (s : Store) : Result Edit := do
  let found := require (r.tenantId = event.tenantId) (.notFound "رویداد مورد نظر یافت نشد")
  match r.call with
  | .updateEventWizardSteps user dto =>
    require (user.isManager = true)
      (.forbidden "فقط مدیر رویداد می‌تواند قفل مراحل را تغییر دهد")
    found
    return updateEventWizardSteps event s dto
  | .submitEventIdea user dto now drawn =>
    found
    submitEventIdea event s user dto now drawn
  | .updateEventIdea user ideaId dto =>
    found
    updateEventIdea event s user ideaId dto
  | .deleteEventIdea user ideaId =>
    found
    deleteEventIdea event s user ideaId
  | .updateEventTeams _ teams =>
    found
    return updateEventTeams event s teams
  | .updateEvent dto customTypes =>
    found
    return updateEvent s dto customTypes

inductive Phase where
  | waiting
  | holding (read : WorkflowModules) (write : Option WorkflowModules) (answer : Answer)
  | returned (answer : Answer)
  | failed (e : Failure)

def Store.put (s : Store) (write : Option WorkflowModules) : Store :=
  { s with column := write.getD s.column }

section

variable {ι : Type} [DecidableEq ι] (event : Event) (calls : ι → Request)

/-- A call reads the column and works out the new one, and stores it later. -/
def act (i : ι) (s : Store) (phase : Phase) (_ : Unit) : Store × Phase :=
  match phase with
  | .waiting =>
    match (calls i).edit event s with
    | .ok edit =>
      ({ s with initialIdeas := edit.initialIdeas }, .holding s.column edit.write edit.answer)
    | .error e => (s, .failed e)
  | .holding _ write answer => (s.put write, .returned answer)
  | .returned answer => (s, .returned answer)
  | .failed e => (s, .failed e)

abbrev moveStep : Threads Store Phase ι → Move ι Unit Empty → Threads Store Phase ι :=
  Threads.step (act event calls) fun s _ => s

def start (s : Store) : Threads Store Phase ι := ⟨s, fun _ => .waiting⟩

end

/-- The calls one at a time, each succeeding. -/
def serial (event : Event) : List Request → Store → Result Store
  | [], s => .ok s
  | r :: rs, s => do
      let edit ← r.edit event s
      serial event rs ({ s with initialIdeas := edit.initialIdeas }.put edit.write)

end Rokad.Wizard
