import Rokad.Sms.Recipients

/-!
# Every absence is reported once

For each absence a handler looks, phone by phone, whether a message has been sent, sends one and
records it. What it looks for is any message of the day about the student, so the absence from a
second lesson is not reported; and of two handlers at once both find nothing and both send
(`not_reported`).

Where what a handler finds is of its own lesson, what is recorded of that lesson is found, and no
other handler is reporting the same, every phone gets one message a lesson (`reported_of_fits`).
-/

namespace Rokad.Sms

open Rokad.Base Rokad.Common

/-! ### The handler -/

structure AbsenceEvent where
  (tenantId studentId : Id)
  date : String
  periodNumber : Option ℤ := none
  status : AttendanceStatus
  delayMinutes : Option ℤ := none

/-- A message that has been sent, and what about. -/
structure Report where
  phone : String
  event : AbsenceEvent
  success : Bool

/-- The database, with the clock, what sending comes to, and what has been sent. -/
structure AbsenceDb where
  students : Table StudentProfile := .empty
  templates : Dict Id SmsTemplate := .empty
  smsLogs : Table SmsLog := .empty
  now : Instant
  result : SmsSendResult
  reports : List Report := []

def AbsenceDb.add (db : AbsenceDb) (report : Report) : AbsenceDb :=
  { db with reports := db.reports ++ [report] }

/-- What the world does meanwhile. -/
inductive World where
  | clock (now : Instant)
  | gateway (result : SmsSendResult)

def World.happen (db : AbsenceDb) : World → AbsenceDb
  | .clock now => { db with now }
  | .gateway result => { db with result }

inductive AbsenceOp where
  | findStudent (studentId : Id)
  | findTemplate (tenantId : Id)
  | now
  | findLog (event : AbsenceEvent) (recipientPhone : String) (since : Instant)
  -- with what the message is about
  | dispatchSms (event : AbsenceEvent) (recipientPhone message : String)
  | recordLog (event : AbsenceEvent) (recipient : Recipient) (studentName message : String)
      (result : SmsSendResult)

abbrev AbsenceOp.Answer : AbsenceOp → Type
  | .findStudent _ => Option StudentProfile
  | .findTemplate _ => Option SmsTemplate
  | .now => Instant
  | .findLog _ _ _ => Option SmsLog
  | .dispatchSms _ _ _ => SmsSendResult
  | .recordLog _ _ _ _ _ => Unit

abbrev AbsenceProg := Prog AbsenceOp AbsenceOp.Answer Failure

/-- `metadata: { path: ['studentId'], equals: … }` -/
def Metadata.isOfStudent (studentId : Id) : Metadata → Prop
  | .absence id _ _ _ _ _ => id = studentId
  | .chequeDue _ _ _ => False

instance (studentId : Id) (metadata : Metadata) : Decidable (metadata.isOfStudent studentId) := by
  unfold Metadata.isOfStudent
  split <;> infer_instance

/-- The log as the handler looks it through for messages that have been sent. -/
def SmsLog.isDuplicate (event : AbsenceEvent) (recipientPhone : String) (since : Instant)
    (log : SmsLog) : Prop :=
  log.tenantId = event.tenantId ∧ log.recipientPhone = recipientPhone ∧ log.type = .autoAbsence ∧
    since ≤ log.sentAt ∧ log.metadata.isOfStudent event.studentId
deriving Decidable

/-- The row that is recorded of a message. -/
def absenceLog (event : AbsenceEvent) (recipient : Recipient) (studentName message : String)
    (result : SmsSendResult) (sentAt : Instant) (id : Id) : SmsLog where
  id
  tenantId := event.tenantId
  recipientPhone := recipient.phone
  recipientName := recipient.name
  recipientUserId := recipient.userId
  type := .autoAbsence
  message
  provider := result.provider
  status := if result.success then .sent else .failed
  errorMessage := result.errorMessage
  metadata := .absence event.studentId studentName event.date event.periodNumber event.status
    event.delayMinutes
  sentAt

def AbsenceOp.exec : (op : AbsenceOp) → AbsenceDb → AbsenceDb × op.Answer
  | .findStudent studentId, db => (db, db.students.find? studentId)
  | .findTemplate tenantId, db => (db, db.templates.get? tenantId)
  | .now, db => (db, db.now)
  | .findLog event recipientPhone since, db =>
    (db, db.smsLogs.rows.find? fun log => log.isDuplicate event recipientPhone since)
  | .dispatchSms event recipientPhone _, db =>
    (db.add ⟨recipientPhone, event, db.result.success⟩, db.result)
  | .recordLog event recipient studentName message result, db =>
    match db.smsLogs.insert
      (absenceLog event recipient studentName message result db.now db.smsLogs.fresh) with
    | some smsLogs => ({ db with smsLogs }, ())
    | none => (db, ())

def AbsenceOp.perform (op : AbsenceOp) : AbsenceProg op.Answer := Prog.call op

def absenceText (event : AbsenceEvent) (template : Option SmsTemplate) (studentName : String) :
    String :=
  let delay := toString (event.delayMinutes.getD 0)
  let statusText := match event.status with
    | .absent => "غیبت در کلاس"
    | .tardy => "تأخیر ورود (" ++ delay ++ " دقیقه)"
  let periodText := match event.periodNumber.filter (· ≠ 0) with
    | some periodNumber => "زنگ " ++ toString periodNumber
    | none => "کل روز"
  let body := (truthy (template.map (·.body))).getD
    ("ولی محترم؛ به اطلاع می‌رساند \x7bنام_دانش‌آموز\x7d در تاریخ \x7bتاریخ\x7d در " ++
      "\x7bزنگ\x7d، وضعیت «\x7bوضعیت\x7d» برای ایشان ثبت گردیده است.\nمدرسه رکاد")
  (((((body.replace "\x7bنام_دانش‌آموز\x7d" studentName).replace "\x7bنام\x7d" studentName).replace
    "\x7bتاریخ\x7d" event.date).replace "\x7bزنگ\x7d" periodText).replace
      "\x7bوضعیت\x7d" statusText).replace "\x7bتاخیر\x7d" delay

def nameOf (student : StudentProfile) : String :=
  (truthy (some student.user.fullName)).getD "فرزند شما"

/-- The report to one phone. -/
def report (event : AbsenceEvent) (studentName message : String) (startOfToday : Instant)
    (recipient : Recipient) : AbsenceProg Unit := do
  let existingLog ← AbsenceOp.perform (.findLog event recipient.phone startOfToday)
  match existingLog with
  | some _ => pure ()
  | none =>
    let result ← AbsenceOp.perform (.dispatchSms event recipient.phone message)
    AbsenceOp.perform (.recordLog event recipient studentName message result)

/-- Local time is ahead by `offset`. -/
def handleStudentAbsence (offset : ℤ) (event : AbsenceEvent) : AbsenceProg Unit := do
  let student ← AbsenceOp.perform (.findStudent event.studentId)
  match student with
  | none => pure ()
  | some student =>
    let template ← AbsenceOp.perform (.findTemplate event.tenantId)
    if template.any (!·.isEnabled) then pure ()
    else
      let now ← AbsenceOp.perform .now
      let message := absenceText event template (nameOf student)
      Prog.forEach (recipientsOf student (nameOf student))
        (report event (nameOf student) message (startOfDay offset now))

/-! ### What is right -/

/-- What a message tells, and to which phone. -/
structure Notice where
  phone : String
  studentId : Id
  date : String
  periodNumber : Option ℤ
deriving DecidableEq

def AbsenceEvent.notice (event : AbsenceEvent) (phone : String) : Notice :=
  ⟨phone, event.studentId, event.date, event.periodNumber⟩

def SmsLog.notice (log : SmsLog) : Option Notice :=
  match log.type, log.metadata with
  | .autoAbsence, .absence studentId _ date periodNumber _ _ =>
    some ⟨log.recipientPhone, studentId, date, periodNumber⟩
  | _, _ => none

/-- How often a notice has been sent with success. -/
def AbsenceDb.received (db : AbsenceDb) (k : Notice) : ℕ :=
  db.reports.countP fun r => r.success && r.event.notice r.phone = k

section

variable {ι : Type} [DecidableEq ι] (offset : ℤ) (db : AbsenceDb) (events : ι → AbsenceEvent)

abbrev absenceStep : Threads AbsenceDb (AbsenceProg Unit) ι → Move ι Unit World →
    Threads AbsenceDb (AbsenceProg Unit) ι :=
  Prog.moveStep AbsenceOp.exec World.happen

/-- One handler for each event. -/
def handlers : Threads AbsenceDb (AbsenceProg Unit) ι :=
  ⟨db, fun i => handleStudentAbsence offset (events i)⟩

/-- Nothing has been reported yet, and reports are not disabled. -/
structure Quiet : Prop where
  reports : db.reports = []
  logs : ∀ log ∈ db.smsLogs.rows, log.notice = none
  enabled : ∀ i, ∀ template ∈ db.templates.get? (events i).tenantId, template.isEnabled = true

/-- No notice is sent twice; and each once, when all handlers are done and nothing failed. -/
structure Reported (moves : List (Move ι Unit World)) : Prop where
  once : ∀ k, (run absenceStep (handlers offset db events) moves).shared.received k ≤ 1
  each : (∀ i, (run absenceStep (handlers offset db events) moves).own i = .ret (.ok ())) →
    (∀ r ∈ (run absenceStep (handlers offset db events) moves).shared.reports, r.success = true) →
    ∀ i student, db.students.find? (events i).studentId = some student →
      ∀ recipient ∈ recipientsOf student (nameOf student),
        (run absenceStep (handlers offset db events) moves).shared.received
          ((events i).notice recipient.phone) = 1

/-! ### Where it is kept -/

/-- The handler is about to send the notice, or to record that it was sent. -/
def Reporting (k : Notice) : AbsenceProg Unit → Prop
  | .step (.dispatchSms event phone _) _ => event.notice phone = k
  | .step (.recordLog event recipient _ _ result) _ =>
    result.success = true ∧ event.notice recipient.phone = k
  | _ => False

instance (k : Notice) (prog : AbsenceProg Unit) : Decidable (Reporting k prog) := by
  unfold Reporting
  split <;> infer_instance

variable (p : Threads AbsenceDb (AbsenceProg Unit) ι)

def FitsReport : Move ι Unit World → Prop
  | .thread i _ =>
    match p.own i with
    | .step (.findLog event phone since) _ =>
      -- what is taken for a duplicate is one
      (∀ log ∈ p.shared.smsLogs.rows, log.isDuplicate event phone since →
        log.notice = some (event.notice phone)) ∧
      -- what has been sent is found
      (∀ log ∈ p.shared.smsLogs.rows, log.notice = some (event.notice phone) →
        log.status = .sent → log.isDuplicate event phone since) ∧
      -- nobody else is sending it
      ∀ j, j ≠ i → ¬ Reporting (event.notice phone) (p.own j)
    | _ => True
  | .world _ => True

instance [Fintype ι] (move : Move ι Unit World) : Decidable (FitsReport p move) := by
  rcases move with ⟨i, ⟨⟩⟩ | e
  · dsimp only [FitsReport]
    split <;> infer_instance
  · exact isTrue trivial

end

/-! ### What a handler still does -/

section

variable {db : AbsenceDb} {offset : ℤ} {event : AbsenceEvent}

def reportAll (event : AbsenceEvent) (studentName message : String) (startOfToday : Instant)
    (rest : List Recipient) : AbsenceProg Unit :=
  Prog.forEach rest (report event studentName message startOfToday)

/-- What comes after a message has been sent. -/
def recordThen (event : AbsenceEvent) (studentName message : String) (startOfToday : Instant)
    (recipient : Recipient) (rest : List Recipient) (result : SmsSendResult) : AbsenceProg Unit :=
  .step (.recordLog event recipient studentName message result) fun _ =>
    reportAll event studentName message startOfToday rest

/-- What comes after the log has been looked through. -/
def afterLog (event : AbsenceEvent) (studentName message : String) (startOfToday : Instant)
    (recipient : Recipient) (rest : List Recipient) : Option SmsLog → AbsenceProg Unit
  | some _ => reportAll event studentName message startOfToday rest
  | none => .step (.dispatchSms event recipient.phone message)
      (recordThen event studentName message startOfToday recipient rest)

theorem reportAll_cons (event : AbsenceEvent) (studentName message : String)
    (startOfToday : Instant) (recipient : Recipient) (rest : List Recipient) :
    reportAll event studentName message startOfToday (recipient :: rest) =
      .step (.findLog event recipient.phone startOfToday)
        (afterLog event studentName message startOfToday recipient rest) := by
  unfold reportAll Prog.forEach report
  simp only [AbsenceOp.perform, Prog.call_bind, Prog.step_bind]
  congr 1
  funext existingLog
  cases existingLog <;> rfl

def afterTemplate (offset : ℤ) (event : AbsenceEvent) (student : StudentProfile)
    (template : Option SmsTemplate) : AbsenceProg Unit :=
  if template.any (!·.isEnabled) then .ret (.ok ())
  else .step .now fun now =>
    reportAll event (nameOf student) (absenceText event template (nameOf student))
      (startOfDay offset now) (recipientsOf student (nameOf student))

def afterStudent (offset : ℤ) (event : AbsenceEvent) : Option StudentProfile → AbsenceProg Unit
  | none => .ret (.ok ())
  | some student => .step (.findTemplate event.tenantId) (afterTemplate offset event student)

theorem handleStudentAbsence_eq (offset : ℤ) (event : AbsenceEvent) :
    handleStudentAbsence offset event =
      .step (.findStudent event.studentId) (afterStudent offset event) := by
  unfold handleStudentAbsence
  simp only [AbsenceOp.perform, Prog.call_bind]
  congr 1
  funext student
  cases student with
  | none => rfl
  | some student => rfl

/-- Where a handler is, when these phones `got` their notice, or something `failed`. -/
inductive ReportStage (db : AbsenceDb) (offset : ℤ) (event : AbsenceEvent) (got : String → Prop)
    (failed : Prop) : AbsenceProg Unit → Prop where
  | begin : ReportStage db offset event got failed
      (.step (.findStudent event.studentId) (afterStudent offset event))
  | unknown (absent : db.students.find? event.studentId = none) :
      ReportStage db offset event got failed (.ret (.ok ()))
  | found {student : StudentProfile} (found : db.students.find? event.studentId = some student) :
      ReportStage db offset event got failed
        (.step (.findTemplate event.tenantId) (afterTemplate offset event student))
  | enabled {student : StudentProfile} (message : String)
      (found : db.students.find? event.studentId = some student) :
      ReportStage db offset event got failed (.step .now fun now => reportAll event (nameOf student)
        message (startOfDay offset now) (recipientsOf student (nameOf student)))
  | reporting {student : StudentProfile} (message : String) (startOfToday : Instant)
      (rest : List Recipient) (found : db.students.find? event.studentId = some student)
      (told : ∀ r ∈ recipientsOf student (nameOf student), got r.phone ∨ failed ∨ r ∈ rest) :
      ReportStage db offset event got failed
        (reportAll event (nameOf student) message startOfToday rest)
  | sending {student : StudentProfile} (message : String) (startOfToday : Instant)
      (recipient : Recipient) (rest : List Recipient)
      (found : db.students.find? event.studentId = some student)
      (told : ∀ r ∈ recipientsOf student (nameOf student),
        got r.phone ∨ failed ∨ r ∈ recipient :: rest) :
      ReportStage db offset event got failed (.step (.dispatchSms event recipient.phone message)
        (recordThen event (nameOf student) message startOfToday recipient rest))
  | recording {student : StudentProfile} (message : String) (startOfToday : Instant)
      (recipient : Recipient) (rest : List Recipient) (result : SmsSendResult)
      (found : db.students.find? event.studentId = some student)
      (told : ∀ r ∈ recipientsOf student (nameOf student), got r.phone ∨ failed ∨ r ∈ rest)
      (success : result.success = true → got recipient.phone)
      (failure : result.success = false → failed) :
      ReportStage db offset event got failed
        (recordThen event (nameOf student) message startOfToday recipient rest result)

variable {got got' : String → Prop} {failed failed' : Prop} {prog : AbsenceProg Unit}

theorem ReportStage.mono (stage : ReportStage db offset event got failed prog)
    (more : ∀ phone, got phone → got' phone) (fails : failed → failed') :
    ReportStage db offset event got' failed' prog := by
  have tell {P : Recipient → Prop} {r : Recipient} (told : got r.phone ∨ failed ∨ P r) :
      got' r.phone ∨ failed' ∨ P r := told.imp (more _) (Or.imp_left fails)
  cases stage with
  | begin => exact .begin
  | unknown absent => exact .unknown absent
  | found found => exact .found found
  | enabled message found => exact .enabled message found
  | reporting message since rest found told =>
    exact .reporting message since rest found fun r mem => tell (told r mem)
  | sending message since recipient rest found told =>
    exact .sending message since recipient rest found fun r mem => tell (told r mem)
  | recording message since recipient rest result found told success failure =>
    exact .recording message since recipient rest result found (fun r mem => tell (told r mem))
      (fun is => more _ (success is)) fun is => fails (failure is)

theorem not_reporting_reportAll (k : Notice) (studentName message : String)
    (startOfToday : Instant) (rest : List Recipient) :
    ¬ Reporting k (reportAll event studentName message startOfToday rest) := by
  cases rest with
  | nil => exact not_false
  | cons recipient rest =>
    rw [reportAll_cons]
    exact not_false

end

/-! ### Runs -/

section

variable {ι : Type} [DecidableEq ι] {offset : ℤ} {db : AbsenceDb} {events : ι → AbsenceEvent}
  {p : Threads AbsenceDb (AbsenceProg Unit) ι} {i : ι}

def AbsenceDb.failed (db : AbsenceDb) : Prop := ∃ r ∈ db.reports, r.success = false

def AbsenceDb.got (db : AbsenceDb) (event : AbsenceEvent) (phone : String) : Prop :=
  0 < db.received (event.notice phone)

/-- The handler is about to send the notice. -/
def Sending (k : Notice) : AbsenceProg Unit → Prop
  | .step (.dispatchSms event phone _) _ => event.notice phone = k
  | _ => False

/-- What has been received is recorded, or about to be, and nothing is sent that has been. -/
structure Sound (offset : ℤ) (db : AbsenceDb) (events : ι → AbsenceEvent)
    (p : Threads AbsenceDb (AbsenceProg Unit) ι) : Prop where
  students : p.shared.students = db.students
  templates : p.shared.templates = db.templates
  stages : ∀ i, ReportStage db offset (events i) (p.shared.got (events i)) p.shared.failed (p.own i)
  once : ∀ k, p.shared.received k ≤ 1
  kept : ∀ k, 0 < p.shared.received k →
    (∃ log ∈ p.shared.smsLogs.rows, log.notice = some k ∧ log.status = .sent) ∨
      ∃ i, Reporting k (p.own i)
  new : ∀ k i, Sending k (p.own i) → p.shared.received k = 0
  alone : ∀ k i j, Reporting k (p.own i) → Reporting k (p.own j) → i = j
  logs : ∀ log ∈ p.shared.smsLogs.rows, ∀ k, log.notice = some k →
    (log.status = .sent ∧ 0 < p.shared.received k) ∨ p.shared.failed

omit [DecidableEq ι] in
theorem Quiet.sound (quiet : Quiet db events) :
    Sound offset db events (handlers offset db events) where
  students := rfl
  templates := rfl
  stages i := by
    change ReportStage _ _ _ _ _ (handleStudentAbsence offset (events i))
    rw [handleStudentAbsence_eq]
    exact .begin
  once k := by
    change db.received k ≤ 1
    rw [AbsenceDb.received, quiet.reports]
    exact Nat.zero_le _
  kept k some := by
    change 0 < db.received k at some
    rw [AbsenceDb.received, quiet.reports] at some
    cases some
  new k i sending := by
    change Sending k (handleStudentAbsence offset (events i)) at sending
    rw [handleStudentAbsence_eq] at sending
    cases sending
  alone k i j reporting := by
    change Reporting k (handleStudentAbsence offset (events i)) at reporting
    rw [handleStudentAbsence_eq] at reporting
    cases reporting
  logs log mem k same := by
    rw [quiet.logs log mem] at same
    cases same

theorem Sending.reporting {k : Notice} {prog : AbsenceProg Unit} (sending : Sending k prog) :
    Reporting k prog := by
  unfold Sending at sending
  split at sending
  · exact sending
  · exact sending.elim

omit [DecidableEq ι] in
/-- The handlers that report a notice are the same after a move of handler `i`, but for itself. -/
theorem Sound.stages_of {own : ι → AbsenceProg Unit} {shared : AbsenceDb}
    (sound : Sound offset db events p)
    (more : ∀ k, p.shared.received k ≤ shared.received k) (fails : p.shared.failed → shared.failed)
    (stage : ReportStage db offset (events i) (shared.got (events i)) shared.failed (own i))
    (same : ∀ j, j ≠ i → own j = p.own j) :
    ∀ j, ReportStage db offset (events j) (shared.got (events j)) shared.failed (own j) := by
  intro j
  by_cases self : j = i
  · exact self ▸ stage
  · rw [same j self]
    exact (sound.stages j).mono (fun phone some => some.trans_le (more _)) fails

/-- A handler that goes on to what reports nothing leaves the reporting to the others. -/
theorem reporting_put {shared : AbsenceDb} {prog : AbsenceProg Unit}
    (after : ∀ k, ¬ Reporting k prog) {k : Notice} {j : ι}
    (reporting : Reporting k ((p.put i shared prog).own j)) : j ≠ i ∧ Reporting k (p.own j) := by
  by_cases self : j = i
  · subst self
    rw [Threads.own_put_self] at reporting
    exact absurd reporting (after k)
  · rw [Threads.own_put_of_ne self] at reporting
    exact ⟨self, reporting⟩

/-- A handler goes on to what is neither sending nor recording, and nothing else changes. -/
theorem Sound.idle (sound : Sound offset db events p) {prog : AbsenceProg Unit}
    (stage : ReportStage db offset (events i) (p.shared.got (events i)) p.shared.failed prog)
    (before : ∀ k, ¬ Reporting k (p.own i)) (after : ∀ k, ¬ Reporting k prog) :
    Sound offset db events (p.put i p.shared prog) := by
  refine { sound with
    stages := sound.stages_of (fun _ => le_rfl) id (by rwa [Threads.own_put_self]) fun _ differ =>
      Threads.own_put_of_ne differ
    kept := fun k some => (sound.kept k some).imp_right ?_
    new := ?_
    alone := fun k j j' first second =>
      sound.alone k j j' (reporting_put after first).2 (reporting_put after second).2 }
  · rintro ⟨j, reporting⟩
    have differ : j ≠ i := by
      rintro rfl
      exact before k reporting
    exact ⟨j, by rwa [Threads.own_put_of_ne differ]⟩
  · intro k j sending
    have differ := (reporting_put after sending.reporting).1
    rw [Threads.own_put_of_ne differ] at sending
    exact sound.new k j sending

/-- A handler is about to send what nobody has received, and nobody else is sending. -/
theorem Sound.send (sound : Sound offset db events p) {prog : AbsenceProg Unit} {k : Notice}
    (stage : ReportStage db offset (events i) (p.shared.got (events i)) p.shared.failed prog)
    (before : ∀ k, ¬ Reporting k (p.own i)) (sends : ∀ k', Reporting k' prog → k' = k)
    (unsent : p.shared.received k = 0) (others : ∀ j, j ≠ i → ¬ Reporting k (p.own j)) :
    Sound offset db events (p.put i p.shared prog) := by
  refine { sound with
    stages := sound.stages_of (fun _ => le_rfl) id (by rwa [Threads.own_put_self]) fun _ differ =>
      Threads.own_put_of_ne differ
    kept := fun k some => (sound.kept k some).imp_right ?_
    new := ?_
    alone := ?_ }
  · rintro ⟨j, reporting⟩
    have differ : j ≠ i := by
      rintro rfl
      exact before k reporting
    exact ⟨j, by rwa [Threads.own_put_of_ne differ]⟩
  · intro k' j sending
    by_cases self : j = i
    · subst self
      rw [Threads.own_put_self] at sending
      rw [sends k' sending.reporting]
      exact unsent
    · rw [Threads.own_put_of_ne self] at sending
      exact sound.new k' j sending
  · intro k' j j' first second
    have not_both {j : ι} (differ : j ≠ i) (own : Reporting k' prog)
        (reporting : Reporting k' ((p.put i p.shared prog).own j)) : False := by
      rw [Threads.own_put_of_ne differ, sends k' own] at reporting
      exact others j differ reporting
    by_cases self : j = i <;> by_cases self' : j' = i
    · exact self.trans self'.symm
    · subst self
      rw [Threads.own_put_self] at first
      exact (not_both self' first second).elim
    · subst self'
      rw [Threads.own_put_self] at second
      exact (not_both self second first).elim
    · rw [Threads.own_put_of_ne self] at first
      rw [Threads.own_put_of_ne self'] at second
      exact sound.alone k' j j' first second

theorem received_add (shared : AbsenceDb) (report : Report) (k : Notice) :
    (shared.add report).received k = shared.received k +
      if report.success = true ∧ report.event.notice report.phone = k then 1 else 0 := by
  unfold AbsenceDb.received AbsenceDb.add
  rw [List.countP_append, List.countP_singleton]
  simp

/-- A message is sent. -/
theorem Sound.dispatch (sound : Sound offset db events p) {message : String} {recipient : Recipient}
    {next : SmsSendResult → AbsenceProg Unit}
    (own : p.own i = .step (.dispatchSms (events i) recipient.phone message) next)
    (recording : ∀ k, Reporting k (next p.shared.result) ↔
      p.shared.result.success = true ∧ (events i).notice recipient.phone = k)
    (sent : ∀ k, ¬ Sending k (next p.shared.result)) {shared : AbsenceDb}
    (reports : shared = p.shared.add ⟨recipient.phone, events i, p.shared.result.success⟩)
    (stage : ReportStage db offset (events i) (shared.got (events i)) shared.failed
      (next p.shared.result)) :
    Sound offset db events (p.put i shared (next p.shared.result)) := by
  have sending : Sending ((events i).notice recipient.phone) (p.own i) := by
    rw [own]
    rfl
  have unsent := sound.new _ i sending
  have received (k : Notice) : shared.received k = p.shared.received k +
      if p.shared.result.success = true ∧ (events i).notice recipient.phone = k then 1 else 0 := by
    rw [reports]
    exact received_add ..
  have more (k : Notice) : p.shared.received k ≤ shared.received k := by
    rw [received]
    exact Nat.le_add_right ..
  have fails : p.shared.failed → shared.failed := by
    rintro ⟨r, mem, failed⟩
    rw [reports]
    exact ⟨r, List.mem_append_left _ mem, failed⟩
  have was {k : Notice} {j : ι}
      (reporting : Reporting k ((p.put i shared (next p.shared.result)).own j)) :
      Reporting k (p.own j) := by
    by_cases self : j = i
    · subst self
      rw [Threads.own_put_self] at reporting
      rw [← ((recording k).mp reporting).2]
      exact sending.reporting
    · rwa [Threads.own_put_of_ne self] at reporting
  refine
    { students := reports ▸ sound.students
      templates := reports ▸ sound.templates
      stages := sound.stages_of more fails (by rwa [Threads.own_put_self]) fun _ differ =>
        Threads.own_put_of_ne differ
      once := fun k => ?_
      kept := fun k some => ?_
      new := fun k j sends => ?_
      alone := fun k j j' first second => sound.alone k j j' (was first) (was second)
      logs := fun log mem k same => ?_ }
  · rw [Threads.shared_put, received]
    split
    · rename_i is
      rw [← is.2, unsent]
    · exact sound.once k
  · by_cases told : p.shared.result.success = true ∧ (events i).notice recipient.phone = k
    · exact Or.inr ⟨i, by rw [Threads.own_put_self]; exact (recording k).mpr told⟩
    · rw [Threads.shared_put, received, if_neg told] at some
      refine (sound.kept k some).imp (fun logged => ?_) ?_
      · rw [Threads.shared_put, reports]
        exact logged
      · rintro ⟨j, reporting⟩
        have differ : j ≠ i := by
          rintro rfl
          rw [own] at reporting
          change (events j).notice recipient.phone = k at reporting
          rw [← reporting, unsent] at some
          exact absurd some (lt_irrefl 0)
        exact ⟨j, by rwa [Threads.own_put_of_ne differ]⟩
  · by_cases self : j = i
    · subst self
      rw [Threads.own_put_self] at sends
      exact absurd sends (sent k)
    · rw [Threads.own_put_of_ne self] at sends
      have differ : ¬ (p.shared.result.success = true ∧ (events i).notice recipient.phone = k) :=
        fun told => self (sound.alone k j i sends.reporting (told.2 ▸ sending.reporting))
      rw [Threads.shared_put, received, if_neg differ]
      exact sound.new k j sends
  · rw [Threads.shared_put, reports] at mem
    exact (sound.logs log mem k same).imp (And.imp_right fun some => some.trans_le (more k)) fails

/-- What has been sent is recorded. -/
theorem Sound.record (sound : Sound offset db events p) {studentName message : String}
    {recipient : Recipient} {result : SmsSendResult} {prog : AbsenceProg Unit}
    {next : Unit → AbsenceProg Unit}
    (own : p.own i = .step (.recordLog (events i) recipient studentName message result) next)
    (success : result.success = true → p.shared.got (events i) recipient.phone)
    (failure : result.success = false → p.shared.failed)
    (stage : ReportStage db offset (events i) (p.shared.got (events i)) p.shared.failed prog)
    (after : ∀ k, ¬ Reporting k prog) {smsLogs : Table SmsLog}
    (inserted : p.shared.smsLogs.insert (absenceLog (events i) recipient studentName message result
      p.shared.now p.shared.smsLogs.fresh) = some smsLogs) :
    Sound offset db events (p.put i { p.shared with smsLogs } prog) := by
  refine
    { students := sound.students
      templates := sound.templates
      stages := sound.stages_of (fun _ => le_rfl) id (by rwa [Threads.own_put_self])
        fun _ differ => Threads.own_put_of_ne differ
      once := sound.once
      kept := fun k some => ?_
      new := fun k j sends => ?_
      alone := fun k j j' first second =>
      sound.alone k j j' (reporting_put after first).2 (reporting_put after second).2
      logs := fun log mem k same => ?_ }
  · rcases sound.kept k some with ⟨log, mem, logged⟩ | ⟨j, reporting⟩
    · exact Or.inl ⟨log, (mem_insert inserted).mpr (Or.inl mem), logged⟩
    · by_cases self : j = i
      · subst self
        rw [own] at reporting
        obtain ⟨succeeded, rfl⟩ : result.success = true ∧ (events j).notice recipient.phone = k :=
          reporting
        exact Or.inl ⟨_, (mem_insert inserted).mpr (Or.inr rfl), rfl, if_pos succeeded⟩
      · exact Or.inr ⟨j, by rwa [Threads.own_put_of_ne self]⟩
  · have differ := (reporting_put after sends.reporting).1
    rw [Threads.own_put_of_ne differ] at sends
    exact sound.new k j sends
  · rcases (mem_insert inserted).mp mem with mem | rfl
    · exact sound.logs log mem k same
    · obtain rfl : (events i).notice recipient.phone = k := Option.some.inj same
      cases is : result.success with
      | true => exact Or.inl ⟨if_pos is, success is⟩
      | false => exact Or.inr (failure is)

/-- **What a move keeps.** -/
theorem Sound.step (quiet : Quiet db events) (sound : Sound offset db events p)
    {move : Move ι Unit World} (fits : FitsReport p move) :
    Sound offset db events (absenceStep p move) := by
  rcases move with ⟨i, ⟨⟩⟩ | e
  swap
  · cases e <;> exact { sound with }
  rw [absenceStep, Prog.moveStep_thread]
  have stage := sound.stages i
  dsimp only [FitsReport] at fits
  generalize own : p.own i = prog at stage fits ⊢
  cases stage with
  | begin =>
    change Sound offset db events
      (p.put i p.shared (afterStudent offset (events i) (p.shared.students.find? _)))
    rw [sound.students]
    have idle : ∀ k, ¬ Reporting k (p.own i) := fun k => by
      rw [own]
      exact not_false
    cases found : db.students.find? (events i).studentId with
    | none => exact sound.idle (.unknown found) idle fun _ => not_false
    | some student => exact sound.idle (.found found) idle fun _ => not_false
  | unknown absent =>
    change Sound offset db events (p.put i p.shared (.ret (.ok ())))
    rwa [← own, Threads.put_self]
  | @found student found =>
    change Sound offset db events
      (p.put i p.shared (afterTemplate offset (events i) student (p.shared.templates.get? _)))
    rw [sound.templates]
    have enabled : ¬ (db.templates.get? (events i).tenantId).any (!·.isEnabled) = true := by
      cases template : db.templates.get? (events i).tenantId with
      | none => exact Bool.false_ne_true
      | some template' => simp [quiet.enabled i template' template]
    unfold afterTemplate
    rw [if_neg enabled]
    refine sound.idle (.enabled _ found) (fun k => ?_) fun _ => not_false
    rw [own]
    exact not_false
  | @enabled student message found =>
    change Sound offset db events (p.put i p.shared (reportAll (events i) (nameOf student) message
      (startOfDay offset p.shared.now) (recipientsOf student (nameOf student))))
    refine sound.idle (.reporting message _ _ found fun r mem => Or.inr (Or.inr mem))
      (fun k => ?_) fun k => not_reporting_reportAll k _ _ _ _
    rw [own]
    exact not_false
  | @reporting student message startOfToday rest found told =>
    cases rest with
    | nil =>
      change Sound offset db events (p.put i p.shared (.ret (.ok ())))
      have same : p.own i = .ret (.ok ()) := own
      rwa [← same, Threads.put_self]
    | cons recipient rest =>
      rw [reportAll_cons] at own fits ⊢
      obtain ⟨genuine, complete, others⟩ := fits
      have idle : ∀ k, ¬ Reporting k (p.own i) := fun k => by
        rw [own]
        exact not_false
      change Sound offset db events (p.put i p.shared (afterLog _ _ _ _ _ _
        (p.shared.smsLogs.rows.find? fun log =>
          log.isDuplicate (events i) recipient.phone startOfToday)))
      cases existing : p.shared.smsLogs.rows.find? fun log =>
          decide (log.isDuplicate (events i) recipient.phone startOfToday) with
      | some log =>
        have mem := List.mem_of_find?_eq_some existing
        have same := genuine log mem (by simpa using List.find?_some existing)
        have logged := (sound.logs log mem _ same).imp_left And.right
        change Sound offset db events (p.put i p.shared
          (reportAll (events i) (nameOf student) message startOfToday rest))
        refine sound.idle (.reporting message _ _ found fun r listed => ?_) idle fun k =>
          not_reporting_reportAll k _ _ _ _
        rcases told r listed with got | failed | mem
        · exact Or.inl got
        · exact Or.inr (Or.inl failed)
        · rcases List.mem_cons.mp mem with rfl | mem
          · exact logged.imp_right Or.inl
          · exact Or.inr (Or.inr mem)
      | none =>
        refine sound.send (.sending message _ _ _ found told) idle (fun k reports => ?_) ?_
          others
        · exact reports.symm
        · by_contra some
          rcases sound.kept _ (Nat.pos_of_ne_zero some) with ⟨log, mem, same, sent⟩ |
            ⟨j, reporting⟩
          · have dup := complete log mem same sent
            exact absurd (decide_eq_true dup) (List.find?_eq_none.mp existing log mem)
          · by_cases self : j = i
            · exact idle _ (self ▸ reporting)
            · exact others j self reporting
  | @sending student message startOfToday recipient rest found told =>
    change Sound offset db events
      (p.put i (p.shared.add ⟨recipient.phone, events i, p.shared.result.success⟩)
        (recordThen (events i) (nameOf student) message startOfToday recipient rest
          p.shared.result))
    have success (is : p.shared.result.success = true) :
        (p.shared.add ⟨recipient.phone, events i, p.shared.result.success⟩).got (events i)
          recipient.phone := by
      unfold AbsenceDb.got
      rw [received_add, if_pos ⟨is, rfl⟩]
      exact Nat.succ_pos _
    have failure (is : p.shared.result.success = false) :
        (p.shared.add ⟨recipient.phone, events i, p.shared.result.success⟩).failed :=
      ⟨_, List.mem_append_right _ (List.mem_singleton.mpr rfl), is⟩
    refine sound.dispatch own (fun k => Iff.rfl) (fun _ => not_false) rfl
      (.recording message _ _ _ _ found (fun r listed => ?_) success failure)
    rcases told r listed with got | ⟨failing, mem, is⟩ | mem
    · refine Or.inl (lt_of_lt_of_le got ?_)
      rw [received_add]
      exact Nat.le_add_right ..
    · exact Or.inr (Or.inl ⟨failing, List.mem_append_left _ mem, is⟩)
    · rcases List.mem_cons.mp mem with rfl | mem
      · by_cases is : p.shared.result.success = true
        · exact Or.inl (success is)
        · exact Or.inr (Or.inl (failure (Bool.eq_false_iff.mpr is)))
      · exact Or.inr (Or.inr mem)
  | @recording student message startOfToday recipient rest result found told success failure =>
    obtain ⟨smsLogs, inserted⟩ := p.shared.smsLogs.insert_of_fresh
      (absenceLog (events i) recipient (nameOf student) message result p.shared.now
        p.shared.smsLogs.fresh) rfl fun _ _ => rfl
    have recorded := sound.record own success failure
      (.reporting message startOfToday _ found told)
      (fun k => not_reporting_reportAll k _ _ _ _) inserted
    have moved : (AbsenceOp.recordLog (events i) recipient (nameOf student) message result).exec
        p.shared = ({ p.shared with smsLogs }, ()) := by
      simp only [AbsenceOp.exec, inserted]
    change Sound offset db events (p.put i (AbsenceOp.exec (.recordLog ..) p.shared).1
      (reportAll (events i) (nameOf student) message startOfToday rest))
    rwa [moved]

/-- **Where it fits, every phone gets one message a lesson.** -/
theorem reported_of_fits (quiet : Quiet db events) {moves : List (Move ι Unit World)}
    (along : Along absenceStep FitsReport (handlers offset db events) moves) :
    Reported offset db events moves := by
  have sound : Sound offset db events (run absenceStep (handlers offset db events) moves) :=
    run_invariant (fun _ _ fits sound => sound.step quiet fits) quiet.sound along
  refine ⟨sound.once, fun returned succeeded i student found recipient listed => ?_⟩
  have unfailed : ¬ (run absenceStep (handlers offset db events) moves).shared.failed := by
    rintro ⟨r, mem, failed⟩
    rw [succeeded r mem] at failed
    cases failed
  have stage := sound.stages i
  have ret := returned i
  generalize (run absenceStep (handlers offset db events) moves).own i = prog at stage ret
  refine le_antisymm (sound.once _) ?_
  cases stage with
  | unknown absent => exact nomatch absent.symm.trans found
  | @reporting student' message startOfToday rest found' told =>
    obtain rfl := Option.some.inj (found.symm.trans found')
    cases rest with
    | nil =>
      rcases told recipient listed with got | failed | mem
      · exact got
      · exact absurd failed unfailed
      · cases mem
    | cons recipient' rest =>
      rw [reportAll_cons] at ret
      cases ret
  | _ => cases ret

end

/-! ### Two lessons

A student whose father is called. -/

namespace Lessons

def db : AbsenceDb where
  students := ⟨[{ id := 1, user := { id := 1 }, fatherPhone := some "09120000000" }], by decide,
    by decide⟩
  now := 0
  result := { success := true, provider := .amoot }

/-- The absence from a lesson of one day. -/
def absence (periodNumber : ℤ) : AbsenceEvent :=
  { tenantId := 1, studentId := 1, date := "1404/07/01", periodNumber := some periodNumber
    status := .absent }

/-- The absence from one lesson, and that from another. -/
def events (first second : ℤ) (i : Fin 2) : AbsenceEvent :=
  absence (if i.val = 0 then first else second)

theorem quiet (first second : ℤ) : Quiet db (events first second) :=
  ⟨rfl, List.forall_mem_nil _, fun _ _ found => nomatch found⟩

/-- The first handler to its end, and then the other. -/
def inTurn : List (Move (Fin 2) Unit World) :=
  (List.finRange 2).flatMap fun i => List.replicate 6 (.thread i ())

/-- Both at once. -/
def atOnce : List (Move (Fin 2) Unit World) :=
  (List.replicate 6 ((List.finRange 2).map fun i => .thread i ())).flatten

end Lessons

open Lessons

/-- The same absence is recorded again. -/
theorem reported_lessons : Reported 0 Lessons.db (events 1 1) Lessons.inTurn :=
  reported_of_fits (quiet 1 1) (by decide +kernel)

/-- The second lesson of a day is not reported; two handlers at once both report. -/
theorem not_reported :
    ¬ Reported 0 Lessons.db (events 1 2) Lessons.inTurn ∧
      ¬ Reported 0 Lessons.db (events 1 1) atOnce := by
  constructor
  · intro reported
    have returned : ∀ i, ((run absenceStep (handlers 0 Lessons.db (events 1 2))
        Lessons.inTurn).own i).returned = some (.ok ()) := by decide +kernel
    have each := reported.each (fun i => Prog.returned_eq_some.mp (returned i)) (by decide +kernel)
      1 _ rfl ⟨"09120000000", "پدر", none⟩ (by decide +kernel)
    revert each
    decide +kernel
  · intro reported
    exact absurd (reported.once ((absence 1).notice "09120000000")) (by decide +kernel)

end Rokad.Sms
