import Rokad.Base.Json
import Rokad.Base.Sql
import Rokad.Common.Http

/-!
# The club

Challenges, what students hand in for them, and dated reports on the way: the part of `ClubService`
that starts, submits and grades a challenge, and that stores and returns reports. A report goes to
two places, the `attachments` of its submission and a table of its own, and either write may fail.
-/

namespace Rokad.Club

open Rokad.Base Rokad.Common

/-! ### Tables -/

inductive ClubSubmissionStatus where
  | inProgress | submitted | graded | expired
deriving DecidableEq

inductive ClubGrade where
  | a | b | c

structure ClubChallenge where
  (id tenantId : Id)
  slug : String
  isPublished : Bool := true

structure ClubChallengeSubmission where
  (id tenantId challengeId studentId : Id)
  status : ClubSubmissionStatus := .inProgress
  attachments : Option Json := none
  awardedGrade : Option ClubGrade := none

structure ClubSubmissionReport where
  id : String
  (tenantId submissionId studentId : Id)
  reportDate : Json
  (title content : String)
  (workDuration links attachments : Json := .null)

instance : Record ClubChallenge where
  key c := c.id
  clash a b := a.slug == b.slug

instance : Record ClubChallengeSubmission where
  key s := s.id

/-- The table of reports, whose ids are texts that the service draws. -/
structure ReportTable where
  rows : List ClubSubmissionReport := []
  ids_nodup : (rows.map (·.id)).Nodup := by simp

def ReportTable.empty : ReportTable := {}

def ReportTable.insert (t : ReportTable) (report : ClubSubmissionReport) : Option ReportTable :=
  if fresh : report.id ∉ t.rows.map (·.id) then
    some ⟨t.rows ++ [report], by
      rw [List.map_append, List.nodup_append]
      refine ⟨t.ids_nodup, List.nodup_singleton _, ?_⟩
      rintro id mem _ (_ | ⟨_, ⟨⟩⟩) rfl
      exact fresh mem⟩
  else none

theorem ReportTable.insert_spec {t t' : ReportTable} {report : ClubSubmissionReport}
    (inserted : t.insert report = some t') :
    t'.rows = t.rows ++ [report] ∧ report.id ∉ t.rows.map (·.id) := by
  unfold insert at inserted
  split at inserted
  · rename_i fresh
    cases inserted
    exact ⟨rfl, fresh⟩
  · cases inserted

structure Db where
  challenges : Table ClubChallenge := .empty
  submissions : Table ClubChallengeSubmission := .empty
  reports : ReportTable := .empty

/-! ### Statements -/

namespace ClubChallengeSubmission

def submit (attachments : Option Json) (s : ClubChallengeSubmission) : ClubChallengeSubmission :=
  { s with status := .submitted, attachments := attachments <|> s.attachments }

def grade (awardedGrade : ClubGrade) (s : ClubChallengeSubmission) : ClubChallengeSubmission :=
  { s with status := .graded, awardedGrade := some awardedGrade }

def attach (attachments : Json) (s : ClubChallengeSubmission) : ClubChallengeSubmission :=
  { s with attachments := some attachments }

theorem key_submit (attachments : Option Json) (s : ClubChallengeSubmission) :
    Record.key (s.submit attachments) = Record.key s := rfl

theorem key_grade (awardedGrade : ClubGrade) (s : ClubChallengeSubmission) :
    Record.key (s.grade awardedGrade) = Record.key s := rfl

theorem key_attach (attachments : Json) (s : ClubChallengeSubmission) :
    Record.key (s.attach attachments) = Record.key s := rfl

end ClubChallengeSubmission

/-- `reaches` is false where the database refuses the statement or is out of reach. The challenge of
`start` is absent when it could not be stored. -/
inductive Statement where
  | createChallenge (tenantId : Id) (slug : String)
  | start (tenantId : Id) (challengeId : Option Id) (studentId : Id)
  | submit (id : Id) (attachments : Option Json) (reaches : Bool)
  | grade (id : Id) (awardedGrade : ClubGrade)
  | attach (id : Id) (attachments : Json) (reaches : Bool)
  | createReport (report : ClubSubmissionReport) (reaches : Bool)

/-- `null` is not a value that the client takes for a `Json` column. -/
def requireJson : Option Json → Result Unit
  | some .null => .error (.thrown "Argument attachments must not be null")
  | _ => .ok ()

def write : Statement → Db → Result (Db × Id)
  | .createChallenge tenantId slug, db => do
      let id := db.challenges.fresh
      let challenges ← insertRow db.challenges { id, tenantId, slug }
      return ({ db with challenges }, id)
  | .start tenantId challengeId studentId, db => do
      let challengeId ← orFail challengeId (.database .foreignKey)
      referred db.challenges (some challengeId)
      let id := db.submissions.fresh
      let submissions ← insertRow db.submissions { id, tenantId, challengeId, studentId }
      return ({ db with submissions }, id)
  | .submit id attachments reaches, db => do
      require (reaches = true) unreachable
      requireJson attachments
      let submissions ← updateRow db.submissions id (ClubChallengeSubmission.submit attachments)
        (ClubChallengeSubmission.key_submit attachments)
      return ({ db with submissions }, id)
  | .grade id awardedGrade, db => do
      let submissions ← updateRow db.submissions id (ClubChallengeSubmission.grade awardedGrade)
        (ClubChallengeSubmission.key_grade awardedGrade)
      return ({ db with submissions }, id)
  | .attach id attachments reaches, db => do
      require (reaches = true) unreachable
      let submissions ← updateRow db.submissions id (ClubChallengeSubmission.attach attachments)
        (ClubChallengeSubmission.key_attach attachments)
      return ({ db with submissions }, id)
  | .createReport report reaches, db => do
      require (reaches = true) unreachable
      referred db.submissions (some report.submissionId)
      let reports ← orFail (db.reports.insert report) (.database .uniqueConstraint)
      return ({ db with reports }, report.submissionId)

/-! ### Challenges -/

abbrev ClubCall := Sql Db Statement Id Failure

structure EntranceChallengeDef where
  (slug title : String)

/-- `ENTRANCE_CHALLENGES` -/
def entranceChallenges : List EntranceChallengeDef :=
  [⟨"project-01-nestly-landing", "برنامه‌نویسی فرانت‌اند"⟩,
    ⟨"project-02-leaderboard-api", "برنامه‌نویسی بک‌اند"⟩,
    ⟨"project-03-wordpress-club-site", "طراحی سایت وردپرسی"⟩,
    ⟨"project-04-mahalleh-yar", "برنامه‌نویسی با هوش مصنوعی"⟩,
    ⟨"project-05-intro-video", "ویدیوگرافی"⟩,
    ⟨"project-06-figma-product", "طراحی رابط و تجربه کاربری UI/UX"⟩,
    ⟨"project-07-visual-identity", "طراحی هویت بصری"⟩,
    ⟨"project-08-scriptwriting", "سناریونویسی"⟩,
    ⟨"project-09-content-series", "مدیریت سری محتوایی"⟩]

/-- What a path names a challenge by. -/
inductive ChallengeKey where
  | id (id : Id)
  | text (slugOrTitle : String)
deriving DecidableEq

/-- A submission of the student in progress. -/
def active (studentId : Id) (s : ClubChallengeSubmission) : Bool :=
  s.studentId = studentId && s.status = .inProgress

/-- The limit on challenges in progress, as both entries check it. -/
def requireBelowLimit (tenantId userId : Id) (message : String) : ClubCall Unit := do
  let db ← Sql.snapshot
  Prog.ret (require
    (db.submissions.count (fun s => s.tenantId = tenantId && active userId s) < 2)
    (.badRequest message))

def startChallenge (tenantId userId challengeId : Id) : ClubCall Id := do
  let db ← Sql.snapshot
  let _ ← Prog.ret (orFail
    ((db.challenges.find? challengeId).filter fun c => c.tenantId = tenantId ∧ c.isPublished)
    (.notFound "چالش یافت نشد یا در دسترس نیست"))
  requireBelowLimit tenantId userId
    "شما هم‌زمان حداکثر می‌توانید ۲ چالش فعال داشته باشید. لطفاً ابتدا یکی از چالش‌های در حال اجرا را ارسال یا تکمیل کنید."
  let db ← Sql.snapshot
  match db.submissions.rows.find? fun s => s.tenantId = tenantId ∧ s.challengeId = challengeId ∧
      active userId s with
  | some existingActive => pure existingActive.id
  | none => Sql.perform (.start tenantId (some challengeId) userId)

/-- The challenge of a definition, stored if it is not there yet; the texts that describe it are left
out. A failure to store it is covered up: the answer is then a challenge that is not in the
database. -/
def ensureEntranceChallengeInDb (tenantId : Id) (item : EntranceChallengeDef) :
    ClubCall (Option Id) := do
  let db ← Sql.snapshot
  match db.challenges.rows.find? (·.slug = item.slug) with
  | some challenge => pure (some challenge.id)
  | none => do
      let created ← Sql.attempt (.createChallenge tenantId item.slug)
      pure created.toOption

/-- The challenge that a path names: stored, stored now, or nothing that is known. -/
def entranceChallenge (tenantId : Id) (key : ChallengeKey) : ClubCall (Option (Option Id)) := do
  let db ← Sql.snapshot
  match db.challenges.rows.find? fun c => key = .id c.id ∨ key = .text c.slug with
  | some challenge => pure (some (some challenge.id))
  | none =>
    match entranceChallenges.find? fun d => key = .text d.slug ∨ key = .text d.title with
    | some item => do
        let challenge ← ensureEntranceChallengeInDb tenantId item
        pure (some challenge)
    | none => pure none

def startEntranceChallenge (tenantId userId : Id) (key : ChallengeKey) : ClubCall Id := do
  let found ← entranceChallenge tenantId key
  let challenge ← Prog.ret (orFail found (.notFound "چالش مورد نظر یافت نشد"))
  requireBelowLimit tenantId userId
    "شما هم‌زمان حداکثر می‌توانید ۲ چالش فعال داشته باشید. لطفاً ابتدا یکی از چالش‌های قبلی را به اتمام برسانید."
  let db ← Sql.snapshot
  match db.submissions.rows.find? fun s => some s.challengeId = challenge ∧
      s.studentId = userId with
  | some existingActive => pure existingActive.id
  | none => Sql.perform (.start tenantId challenge userId)

/-- The flag says whether the update reaches the database. -/
def submitChallenge (tenantId userId challengeId : Id) (attachments : Option Json)
    (reaches : Bool) : ClubCall Id := do
  let db ← Sql.snapshot
  let submission ← Prog.ret (orFail
    (db.submissions.rows.find? fun s => s.tenantId = tenantId ∧ s.challengeId = challengeId ∧
      active userId s)
    (.badRequest "هیچ چالش فعالی برای ارسال پاسخ یافت نشد."))
  Sql.perform (.submit submission.id attachments reaches)

structure GradeSubmissionDto where
  score : ℚ
  overrideGrade : Option ClubGrade := none

def GradeSubmissionDto.finalGrade (dto : GradeSubmissionDto) : ClubGrade :=
  dto.overrideGrade.getD (if 80 ≤ dto.score then .a else if 50 ≤ dto.score then .b else .c)

def gradeSubmission (tenantId submissionId : Id) (dto : GradeSubmissionDto) : ClubCall Id := do
  let db ← Sql.snapshot
  let submission ← Prog.ret (orFail
    ((db.submissions.find? submissionId).filter (·.tenantId = tenantId))
    (.notFound "ارسال مورد نظر یافت نشد"))
  Sql.perform (.grade submission.id dto.finalGrade)

/-! ### Reports -/

/-- A request, with what the call draws and computes for it: the id, the date and the duration. -/
structure CreateClubReportDto where
  reportId : String
  reportDate : Json
  title : String := ""
  content : String
  (workDuration links attachments : Json := .null)

/-- `value || null` -/
def orNull (value : Json) : Json := if value.truthy then value else .null

def CreateClubReportDto.report (dto : CreateClubReportDto) (submission : ClubChallengeSubmission)
    (userId : Id) : ClubSubmissionReport where
  id := dto.reportId
  tenantId := submission.tenantId
  submissionId := submission.id
  studentId := userId
  reportDate := dto.reportDate
  title := if dto.title = "" then "گزارش پیشرفت پروژه" else dto.title
  content := dto.content
  workDuration := orNull dto.workDuration
  links := orNull dto.links
  attachments := orNull dto.attachments

/-- A key as text. -/
def idText (id : Id) : Json := .str (toString id)

/-- A report as it stands in an answer or in `attachments`. -/
def ClubSubmissionReport.json (r : ClubSubmissionReport) : Json :=
  .obj [("id", .str r.id), ("tenantId", idText r.tenantId), ("submissionId", idText r.submissionId),
    ("studentId", idText r.studentId), ("reportDate", r.reportDate), ("title", .str r.title),
    ("content", .str r.content), ("workDuration", r.workDuration), ("links", r.links),
    ("attachments", r.attachments)]

/-- `Array.isArray(attachments?.reports) ? attachments.reports : []` -/
def storedReports (attachments : Option Json) : List Json :=
  match attachments.bind (·.property "reports") with
  | some (.arr items) => items
  | _ => []

/-- `{ ...currentAttachments, reports: [report, ...existingReports] }` -/
def withReport (attachments : Option Json) (report : Json) : Json :=
  (attachments.getD (.obj [])).withProperty "reports" (.arr (report :: storedReports attachments))

/-- The flags say whether each of the two writes goes through. -/
def addSubmissionReport (submissionId userId : Id) (dto : CreateClubReportDto)
    (reachesBackup reachesTable : Bool) : ClubCall ClubSubmissionReport := do
  let db ← Sql.snapshot
  let submission ← Prog.ret (orFail (db.submissions.find? submissionId)
    (.notFound "پروژه چالش یافت نشد"))
  Prog.ret (require (submission.studentId = userId)
    (.forbidden "شما دسترسی ثبت گزارش برای این چالش را ندارید"))
  let report := dto.report submission userId
  let _ ← Sql.attempt (.attach submissionId (withReport submission.attachments report.json)
    reachesBackup)
  let _ ← Sql.attempt (.createReport report reachesTable)
  pure report

/-- `report.id` -/
def idOf : Json → Result (Option Json)
  | .null => .error (.thrown "Cannot read properties of null (reading 'id')")
  | report => .ok (report.property "id")

/-- `reports.some((cr) => cr.id === ar.id)` -/
def hasSameId (report : Json) : List Json → Result Bool
  | [] => .ok false
  | other :: others => do
      let a ← idOf other
      let b ← idOf report
      if Json.strictEq a b then return true else hasSameId report others

/-- The reports of the table, and those of the attachments whose id is not among them yet. -/
def combine : List Json → List Json → Result (List Json)
  | combined, [] => .ok combined
  | combined, report :: reports => do
      let seen ← hasSameId report combined
      combine (if seen then combined else combined ++ [report]) reports

section

variable (time : Option Json → ℤ)

/-- Later reports first; `time` is what the host makes of a date. -/
def sortByDate (reports : List Json) : Result (List Json) := do
  require (reports.length < 2 ∨ ∀ r ∈ reports, r.isNull = false)
    (.thrown "Cannot read properties of null (reading 'reportDate')")
  return reports.insertionSort fun a b =>
    time (b.property "reportDate") ≤ time (a.property "reportDate")

/-- The submission is read first, the table of reports in a state `later`; `readsTable` is false
where that read fails. -/
def getSubmissionReports (db later : Db) (submissionId userId : Id) (isAdmin readsTable : Bool) :
    Result (List Json) := do
  let submission ← orFail (db.submissions.find? submissionId) (.notFound "پروژه چالش یافت نشد")
  require (isAdmin = true ∨ submission.studentId = userId)
    (.forbidden "عدم دسترسی به گزارش‌های این پروژه")
  let dbReports := if readsTable then
    (later.reports.rows.filter (·.submissionId = submissionId)).map (·.json) else []
  let reports ← combine dbReports (storedReports submission.attachments)
  sortByDate time reports

end

/-! ### Calls -/

inductive Call where
  | startChallenge (tenantId userId challengeId : Id)
  | startEntranceChallenge (tenantId userId : Id) (key : ChallengeKey)
  | submitChallenge (tenantId userId challengeId : Id) (attachments : Option Json) (reaches : Bool)
  | gradeSubmission (tenantId submissionId : Id) (dto : GradeSubmissionDto)
  | addSubmissionReport (submissionId userId : Id) (dto : CreateClubReportDto)
      (reachesBackup reachesTable : Bool)

/-- A call that adds a report answers with it. -/
abbrev Reply := Option ClubSubmissionReport

def Call.program : Call → ClubCall Reply
  | .startChallenge tenantId userId challengeId => do
      let _ ← Club.startChallenge tenantId userId challengeId
      pure none
  | .startEntranceChallenge tenantId userId key => do
      let _ ← Club.startEntranceChallenge tenantId userId key
      pure none
  | .submitChallenge tenantId userId challengeId attachments reaches => do
      let _ ← Club.submitChallenge tenantId userId challengeId attachments reaches
      pure none
  | .gradeSubmission tenantId submissionId dto => do
      let _ ← Club.gradeSubmission tenantId submissionId dto
      pure none
  | .addSubmissionReport submissionId userId dto reachesBackup reachesTable => do
      let report ← Club.addSubmissionReport submissionId userId dto reachesBackup reachesTable
      pure (some report)

def start {ι : Type} (db : Db) (calls : ι → Call) : Threads Db (ClubCall Reply) ι :=
  ⟨db, fun i => (calls i).program⟩

end Rokad.Club
