import Rokad.Club.Service

/-!
# Reports in two places

A report that was added should be found again by everyone who may read it: in the table, or, where
that write failed or the table cannot be read, in the attachments of its submission. But the
attachments are read, extended and written over, so of two reports added at once one write undoes
the other, and a hand-in with attachments of its own replaces those of the submission, reports and
all (`not_noneLost`).

Where each write of the attachments is made over the reports it was made from, every report is found
exactly once wherever one of its copies can be read (`noneLost_of_fits`).
-/

namespace Rokad.Club

open Rokad.Base Rokad.Common

/-! ### The law -/

def hasId (id : String) (report : Json) : Bool := report.property "id" = some (.str id)

def Call.reportId : Call → Option String
  | .addSubmissionReport _ _ dto _ _ => some dto.reportId
  | _ => none

section

variable {ι : Type} (time : Option Json → ℤ) (calls : ι → Call)
  (p p' : Threads Db (ClubCall Reply) ι)

/-- Everyone who may read, beginning at one state and ending at another, finds every report that was
added before, once, wherever a copy can be read. -/
def NoneLost : Prop :=
  ∀ i submissionId userId dto backup table report,
    calls i = .addSubmissionReport submissionId userId dto backup table →
    p.own i = .ret (.ok (some report)) →
      ∀ reader isAdmin readsTable, (isAdmin = true ∨ reader = userId) →
        (backup = true ∨ table = true ∧ readsTable = true) → Returns
            (getSubmissionReports time p.shared p'.shared submissionId reader isAdmin readsTable)
            fun reports => reports.filter (hasId report.id) = [report.json]

end

/-- The reports stored with the submission of this id. -/
def reportsOf (db : Db) (id : Id) : List Json :=
  ((db.submissions.find? id).map fun s => storedReports s.attachments).getD []

/-- A hand-in removes no report from the attachments. -/
def KeepsReports (db db' : Db) : Statement → Prop
  | .submit id _ _ => ∀ report ∈ reportsOf db id, report ∈ reportsOf db' id
  | _ => True

/-! ### When nothing is written over -/

/-- What is written holds the reports that are stored: a hand-in the same ones, a report them and
itself. -/
def Statement.Fits (db : Db) : Statement → Prop
  | .submit id attachments _ => ∀ given ∈ attachments,
      storedReports (some given) = reportsOf db id
  | .attach id attachments _ => (storedReports (some attachments)).tail = reportsOf db id
  | _ => True

section

variable {ι : Type} [DecidableEq ι]

def Fits (p : Threads Db (ClubCall Reply) ι) (move : Move ι Unit Empty) : Prop :=
  ∀ s ∈ Sql.committed write p move, s.Fits p.shared

/-- The ids that are drawn for reports are new. -/
structure Fresh (db : Db) (calls : ι → Call) : Prop where
  distinct : ∀ i j id, (calls i).reportId = some id → (calls j).reportId = some id → i = j
  unused : ∀ i id, (calls i).reportId = some id → db.reports.rows.filter (·.id = id) = [] ∧
    ∀ k, (reportsOf db k).filter (hasId id) = []

/-- What stands among the stored reports is not `null`. -/
def Clean (db : Db) : Prop := ∀ k, ∀ report ∈ reportsOf db k, report.isNull = false

end

/-! ### Reading -/

section

variable {reports combined : List Json} {report : Json}

theorem isNull_json (r : ClubSubmissionReport) : r.json.isNull = false := rfl

@[simp] theorem hasId_json (r : ClubSubmissionReport) (id : String) :
    hasId id r.json = decide (r.id = id) := by
  simp [hasId, ClubSubmissionReport.json, Json.property]

theorem idOf_eq (object : report.isNull = false) : idOf report = .ok (report.property "id") := by
  cases report with
  | null => cases object
  | _ => rfl

theorem hasSameId_spec (object : report.isNull = false)
    (objects : ∀ other ∈ combined, other.isNull = false) :
    hasSameId report combined = .ok (combined.any fun other =>
      Json.strictEq (other.property "id") (report.property "id")) := by
  induction combined with
  | nil => rfl
  | cons other others ih =>
    have rest := ih fun x mem => objects x (List.mem_cons_of_mem _ mem)
    rw [hasSameId, idOf_eq (objects other List.mem_cons_self), idOf_eq object]
    simp only [bind, Except.bind, rest, List.any_cons]
    split
    · rename_i same
      simp [same, pure, Except.pure]
    · rename_i differ
      simp [differ]

/-- Both lists together, and of each id the first. -/
theorem combine_spec (objects : ∀ other ∈ combined, other.isNull = false)
    (objects' : ∀ report ∈ reports, report.isNull = false) :
    ∃ all, combine combined reports = .ok all ∧ (∀ report ∈ all, report.isNull = false) ∧
      ∀ id, all.filter (hasId id) = if combined.filter (hasId id) = [] then
        (reports.filter (hasId id)).take 1 else combined.filter (hasId id) := by
  induction reports generalizing combined with
  | nil => exact ⟨combined, rfl, objects, fun id => by split <;> simp_all⟩
  | cons report reports ih =>
    have object := objects' report List.mem_cons_self
    have rest := fun x mem => objects' x (List.mem_cons_of_mem report mem)
    rw [combine, hasSameId_spec object objects]
    simp only [bind, Except.bind]
    split
    · rename_i seen
      obtain ⟨all, done, objectsAll, filters⟩ := ih objects rest
      refine ⟨all, done, objectsAll, fun id => ?_⟩
      rw [filters id]
      split
      · rename_i none
        -- a report that was passed over does not have the id
        have passed : ¬ hasId id report = true := fun own => by
          obtain ⟨other, mem, same⟩ := List.any_eq_true.mp seen
          rw [of_decide_eq_true own, Json.strictEq_str] at same
          have found : other ∈ combined.filter (hasId id) :=
            List.mem_filter.mpr ⟨mem, decide_eq_true same⟩
          rw [none] at found
          cases found
        simp [passed]
      · rfl
    · rename_i unseen
      have extended := @ih (combined ++ [report])
        (by simpa [or_imp, forall_and] using ⟨objects, object⟩)
      obtain ⟨all, done, objectsAll, filters⟩ := extended rest
      refine ⟨all, done, objectsAll, fun id => ?_⟩
      rw [filters id, List.filter_append]
      by_cases own : hasId id report = true
      · have first : combined.filter (hasId id) = [] := by
          refine List.filter_eq_nil_iff.mpr fun other mem same => unseen ?_
          refine List.any_eq_true.mpr ⟨other, mem, ?_⟩
          rw [of_decide_eq_true own, Json.strictEq_str]
          exact of_decide_eq_true same
        simp [first, own]
      · simp [own]

theorem filter_json (rows : List ClubSubmissionReport) (id : String) :
    (rows.map (·.json)).filter (hasId id) = (rows.filter (·.id = id)).map (·.json) := by
  rw [List.filter_map]
  congr 1
  exact List.filter_congr fun r _ => hasId_json r id

/-- Where the copies of a report are. -/
structure Copies (db : Db) (report : ClubSubmissionReport) (backup table : Bool) : Prop where
  backup : (reportsOf db report.submissionId).filter (hasId report.id) =
    if backup then [report.json] else []
  table : db.reports.rows.filter (·.id = report.id) = if table then [report] else []

/-- A report is found once if one of its copies is where the reader looks. -/
theorem Copies.found (time : Option Json → ℤ) {db later : Db} {report : ClubSubmissionReport}
    {backup table : Bool} (copies : Copies db report backup table)
    (copies' : Copies later report backup table) {s : ClubChallengeSubmission}
    (stored : db.submissions.find? report.submissionId = some s)
    (objects : ∀ x ∈ storedReports s.attachments, x.isNull = false) {reader : Id}
    {isAdmin readsTable : Bool} (may : isAdmin = true ∨ s.studentId = reader)
    (readable : backup = true ∨ table = true ∧ readsTable = true) :
    Returns (getSubmissionReports time db later report.submissionId reader isAdmin readsTable)
      fun reports => reports.filter (hasId report.id) = [report.json] := by
  have inBackup : (storedReports s.attachments).filter (hasId report.id) =
      if backup then [report.json] else [] := by
    simpa [reportsOf, stored] using copies.backup
  have inTable : ((later.reports.rows.filter (·.submissionId = report.submissionId)).map
      (·.json)).filter (hasId report.id) = if table then [report.json] else [] := by
    rw [filter_json, List.filter_comm, copies'.table]
    cases table <;> simp
  generalize fromTable : (if readsTable then (later.reports.rows.filter
    (·.submissionId = report.submissionId)).map (·.json) else []) = dbReports
  have rows : ∀ x ∈ dbReports, x.isNull = false := by
    subst fromTable
    split
    · intro x mem
      obtain ⟨r, -, rfl⟩ := List.mem_map.mp mem
      exact isNull_json r
    · exact nofun
  obtain ⟨all, combined, objectsAll, filters⟩ := combine_spec rows objects
  have once : all.filter (hasId report.id) = [report.json] := by
    rw [filters, inBackup, ← fromTable]
    cases readsTable <;> cases table <;> simp_all
  have done : getSubmissionReports time db later report.submissionId reader isAdmin readsTable =
      .ok (all.insertionSort fun a b =>
        time (b.property "reportDate") ≤ time (a.property "reportDate")) := by
    simp only [getSubmissionReports, sortByDate, do_eq_ok]
    exact ⟨s, stored, (), may, all, fromTable ▸ combined, (), Or.inr objectsAll, rfl⟩
  rw [done]
  have perm := (List.perm_insertionSort (fun a b : Json =>
    time (b.property "reportDate") ≤ time (a.property "reportDate")) all).filter (hasId report.id)
  rw [once] at perm
  exact List.perm_singleton.mp perm

end

/-! ### Writing -/

section

variable {db db' : Db} {s : Statement} {made : Id}

theorem reportsOf_update {t : Table ClubChallengeSubmission} {id : Id}
    {f : ClubChallengeSubmission → ClubChallengeSubmission}
    {keep : ∀ s, Record.key (f s) = Record.key s}
    (updated : db.submissions.update id f keep = some t) :
    (∀ k, k ≠ id → reportsOf { db with submissions := t } k = reportsOf db k) ∧
      ∃ s, db.submissions.find? id = some s ∧
        reportsOf { db with submissions := t } id = storedReports (f s).attachments := by
  obtain ⟨s, found⟩ := Table.find?_of_update updated
  refine ⟨fun k other => ?_, s, found, ?_⟩
  · simp [reportsOf, Table.find?_update_of_ne updated other]
  · simp [reportsOf, find?_update_self updated found]

/-- What a write leaves among the stored reports. -/
theorem write_reportsOf (done : write s db = .ok (db', made)) :
    match s with
    | .submit id attachments _ => (∀ k, k ≠ id → reportsOf db' k = reportsOf db k) ∧
        reportsOf db' id = attachments.elim (reportsOf db id) fun given =>
          storedReports (some given)
    | .attach id attachments _ => (∀ k, k ≠ id → reportsOf db' k = reportsOf db k) ∧
        reportsOf db' id = storedReports (some attachments)
    | _ => ∀ k, reportsOf db' k = reportsOf db k := by
  cases s with
  | createChallenge tenantId slug =>
    simp only [write, do_eq_ok] at done
    obtain ⟨challenges, -, ⟨⟩⟩ := done
    exact fun _ => rfl
  | start tenantId challengeId studentId =>
    simp only [write, do_eq_ok, insertRow_eq_ok] at done
    obtain ⟨id, -, _, -, submissions, inserted, ⟨⟩⟩ := done
    intro k
    have absent : db.submissions.find? db.submissions.fresh = none := find?_fresh _
    simp only [reportsOf, Table.find?_insert inserted]
    split
    · rename_i new
      rw [← new]
      simp [Record.key, absent, storedReports]
    · rfl
  | submit id attachments reaches =>
    simp only [write, do_eq_ok, updateRow_eq_ok] at done
    obtain ⟨_, -, _, -, submissions, updated, ⟨⟩⟩ := done
    obtain ⟨others, s, found, here⟩ := reportsOf_update updated
    refine ⟨others, here.trans ?_⟩
    cases attachments with
    | none => simp [ClubChallengeSubmission.submit, reportsOf, found]
    | some given => rfl
  | grade id awardedGrade =>
    simp only [write, do_eq_ok, updateRow_eq_ok, Prod.mk.injEq] at done
    obtain ⟨submissions, updated, rfl, -⟩ := done
    obtain ⟨others, s, found, here⟩ := reportsOf_update updated
    intro k
    by_cases own : k = id
    · subst own
      rw [here]
      simp [ClubChallengeSubmission.grade, reportsOf, found]
    · exact others k own
  | attach id attachments reaches =>
    simp only [write, do_eq_ok, updateRow_eq_ok] at done
    obtain ⟨_, -, submissions, updated, ⟨⟩⟩ := done
    obtain ⟨others, s, found, here⟩ := reportsOf_update updated
    exact ⟨others, here⟩
  | createReport report reaches =>
    simp only [write, do_eq_ok] at done
    obtain ⟨_, -, _, -, reports, -, ⟨⟩⟩ := done
    exact fun _ => rfl

/-- What a write leaves in the table of reports; and a submission stays, and stays its student's. -/
theorem write_reports (done : write s db = .ok (db', made)) :
    (match s with
      | .createReport report _ => db'.reports.rows = db.reports.rows ++ [report]
      | _ => db'.reports = db.reports) ∧
    Table.Grows (fun a b => b.studentId = a.studentId) db.submissions db'.submissions := by
  have stays : Table.Grows (fun a b => b.studentId = a.studentId) db.submissions db.submissions :=
    fun _ row found => ⟨row, found, rfl⟩
  have update {t : Table ClubChallengeSubmission} {id : Id}
      {f : ClubChallengeSubmission → ClubChallengeSubmission}
      {keep : ∀ s, Record.key (f s) = Record.key s}
      (updated : db.submissions.update id f keep = some t)
      (same : ∀ s, (f s).studentId = s.studentId) :
      Table.Grows (fun a b => b.studentId = a.studentId) db.submissions t :=
    Table.Grows.update (fun _ => rfl) updated same
  cases s with
  | createChallenge tenantId slug =>
    simp only [write, do_eq_ok] at done
    obtain ⟨challenges, -, ⟨⟩⟩ := done
    exact ⟨rfl, stays⟩
  | start tenantId challengeId studentId =>
    simp only [write, do_eq_ok, insertRow_eq_ok] at done
    obtain ⟨id, -, _, -, submissions, inserted, ⟨⟩⟩ := done
    exact ⟨rfl, Table.Grows.insert (fun _ => rfl) inserted⟩
  | submit id attachments reaches =>
    simp only [write, do_eq_ok, updateRow_eq_ok] at done
    obtain ⟨_, -, _, -, submissions, updated, ⟨⟩⟩ := done
    exact ⟨rfl, update updated fun _ => rfl⟩
  | grade id awardedGrade =>
    simp only [write, do_eq_ok, updateRow_eq_ok] at done
    obtain ⟨submissions, updated, ⟨⟩⟩ := done
    exact ⟨rfl, update updated fun _ => rfl⟩
  | attach id attachments reaches =>
    simp only [write, do_eq_ok, updateRow_eq_ok] at done
    obtain ⟨_, -, submissions, updated, ⟨⟩⟩ := done
    exact ⟨rfl, update updated fun _ => rfl⟩
  | createReport report reaches =>
    simp only [write, do_eq_ok] at done
    obtain ⟨_, -, _, -, reports, inserted, ⟨⟩⟩ := done
    exact ⟨(ReportTable.insert_spec inserted).1, stays⟩

end

/-! ### Calls on their way -/

/-- No report has the id. -/
def Unused (db : Db) (id : String) : Prop :=
  db.reports.rows.filter (·.id = id) = [] ∧ ∀ k, (reportsOf db k).filter (hasId id) = []

/-- The reports with the id are the same. -/
def Untouched (id : String) (db db' : Db) : Prop :=
  db'.reports.rows.filter (·.id = id) = db.reports.rows.filter (·.id = id) ∧
    ∀ k, (reportsOf db' k).filter (hasId id) = (reportsOf db k).filter (hasId id)

def Stored (db : Db) (submissionId userId : Id) : Prop :=
  ∃ s, db.submissions.find? submissionId = some s ∧ s.studentId = userId

def tablePart (report : ClubSubmissionReport) (table : Bool) : ClubCall Reply :=
  Prog.step (.write (.createReport report table)) fun _ => Prog.ret (.ok (some report))

def backupPart (s : ClubChallengeSubmission) (report : ClubSubmissionReport)
    (backup table : Bool) : ClubCall Reply :=
  Prog.step (.write (.attach report.submissionId (withReport s.attachments report.json) backup))
    fun _ => tablePart report table

/-- How far a call that adds a report has come, and where the copies of its report are by then. -/
inductive Adding (submissionId userId : Id) (dto : CreateClubReportDto) (backup table : Bool)
    (db : Db) : ClubCall Reply → Prop
  | waiting (next : Db → ClubCall Reply) (unused : Unused db dto.reportId)
      (reads : ∀ db', (∃ e, next db' = .ret (.error e)) ∨
        ∃ s report, report.id = dto.reportId ∧ report.submissionId = submissionId ∧
          Stored db' submissionId userId ∧ next db' = backupPart s report backup table) :
      Adding submissionId userId dto backup table db (.step .read next)
  | holding (s : ClubChallengeSubmission) (report : ClubSubmissionReport)
      (named : report.id = dto.reportId) (of : report.submissionId = submissionId)
      (stored : Stored db submissionId userId) (unused : Unused db dto.reportId) :
      Adding submissionId userId dto backup table db (backupPart s report backup table)
  | backedUp (report : ClubSubmissionReport) (named : report.id = dto.reportId)
      (of : report.submissionId = submissionId) (stored : Stored db submissionId userId)
      (copies : Copies db report backup false) :
      Adding submissionId userId dto backup table db (tablePart report table)
  | ended (report : ClubSubmissionReport) (named : report.id = dto.reportId)
      (of : report.submissionId = submissionId) (stored : Stored db submissionId userId)
      (copies : Copies db report backup table) :
      Adding submissionId userId dto backup table db (.ret (.ok (some report)))
  | failed (e : Failure) : Adding submissionId userId dto backup table db (.ret (.error e))

/-- The statement writes a report. -/
def Reports : SqlOp Statement → Prop
  | .write (.attach ..) => True
  | .write (.createReport ..) => True
  | _ => False

section

variable {db db' : Db} {submissionId userId : Id} {dto : CreateClubReportDto} {backup table : Bool}
  {prog : ClubCall Reply}

theorem Stored.mono (stored : Stored db submissionId userId)
    (grows : Table.Grows (fun a b => b.studentId = a.studentId) db.submissions db'.submissions) :
    Stored db' submissionId userId := by
  obtain ⟨s, found, own⟩ := stored
  obtain ⟨s', found', same⟩ := grows submissionId s found
  exact ⟨s', found', same.trans own⟩

theorem Unused.mono {id : String} (unused : Unused db id) (untouched : Untouched id db db') :
    Unused db' id :=
  ⟨untouched.1.trans unused.1, fun k => (untouched.2 k).trans (unused.2 k)⟩

theorem Copies.mono {report : ClubSubmissionReport} (copies : Copies db report backup table)
    (untouched : Untouched report.id db db') : Copies db' report backup table :=
  ⟨(untouched.2 _).trans copies.backup, untouched.1.trans copies.table⟩

theorem Adding.mono (adding : Adding submissionId userId dto backup table db prog)
    (untouched : Untouched dto.reportId db db')
    (grows : Table.Grows (fun a b => b.studentId = a.studentId) db.submissions db'.submissions) :
    Adding submissionId userId dto backup table db' prog := by
  cases adding with
  | waiting next unused reads => exact .waiting next (unused.mono untouched) reads
  | holding s report named of stored unused =>
    exact .holding s report named of (stored.mono grows) (unused.mono untouched)
  | backedUp report named of stored copies =>
    exact .backedUp report named of (stored.mono grows) (copies.mono (named ▸ untouched))
  | ended report named of stored copies =>
    exact .ended report named of (stored.mono grows) (copies.mono (named ▸ untouched))
  | failed e => exact .failed e

theorem adding_program (unused : Unused db dto.reportId) :
    Adding submissionId userId dto backup table db
      (Call.addSubmissionReport submissionId userId dto backup table).program := by
  simp only [Call.program, addSubmissionReport, Sql.snapshot, Sql.attempt, Prog.bind_assoc,
    Prog.step_bind, Prog.ret_ok_bind]
  refine .waiting _ unused fun db' => ?_
  cases found : db'.submissions.find? submissionId with
  | none => exact Or.inl ⟨_, rfl⟩
  | some s =>
    by_cases own : s.studentId = userId
    · refine Or.inr ⟨s, dto.report s userId, rfl, key_of_find? found, ⟨s, found, own⟩, ?_⟩
      simp only [orFail, require, own, if_true, Prog.ret_ok_bind]
      have key : s.id = submissionId := key_of_find? found
      rw [← key]
      rfl
    · refine Or.inl ⟨.forbidden "شما دسترسی ثبت گزارش برای این چالش را ندارید", ?_⟩
      simp only [orFail, require, own, if_false, Prog.ret_ok_bind]
      rfl

theorem avoids_snapshot : (Sql.snapshot : ClubCall Db).Avoids Reports :=
  ⟨not_false, fun _ => trivial⟩

theorem avoids_perform {s : Statement} (other : ¬ Reports (.write s)) :
    (Sql.perform s : ClubCall Id).Avoids Reports := ⟨other, fun _ => trivial⟩

theorem avoids_limit (tenantId : Id) (message : String) :
    (requireBelowLimit tenantId userId message).Avoids Reports :=
  avoids_snapshot.bind fun _ => trivial

theorem avoids_program (call : Call) (other : call.reportId = none) :
    call.program.Avoids Reports := by
  cases call with
  | startChallenge tenantId userId challengeId =>
    refine Prog.Avoids.bind ?_ fun _ => trivial
    refine avoids_snapshot.bind fun db => Prog.Avoids.bind trivial fun _ =>
      (avoids_limit _ _).bind fun _ => avoids_snapshot.bind fun db => ?_
    split
    · exact trivial
    · exact avoids_perform not_false
  | startEntranceChallenge tenantId userId key =>
    refine Prog.Avoids.bind ?_ fun _ => trivial
    refine Prog.Avoids.bind ?_ fun found => Prog.Avoids.bind trivial fun challenge =>
      (avoids_limit _ _).bind fun _ => avoids_snapshot.bind fun db => ?_
    · refine avoids_snapshot.bind fun db => ?_
      split
      · exact trivial
      · split
        · refine Prog.Avoids.bind (avoids_snapshot.bind fun db => ?_) fun _ => trivial
          split
          · exact trivial
          · exact ⟨not_false, fun _ => trivial⟩
        · exact trivial
    · split
      · exact trivial
      · exact avoids_perform not_false
  | submitChallenge tenantId userId challengeId attachments reaches =>
    refine Prog.Avoids.bind ?_ fun _ => trivial
    exact avoids_snapshot.bind fun db => Prog.Avoids.bind trivial fun _ =>
      avoids_perform not_false
  | gradeSubmission tenantId submissionId dto =>
    refine Prog.Avoids.bind ?_ fun _ => trivial
    exact avoids_snapshot.bind fun db => Prog.Avoids.bind trivial fun _ =>
      avoids_perform not_false
  | addSubmissionReport submissionId userId dto backup table => cases other

/-- How far a call has come. -/
def Progress (call : Call) (db : Db) (prog : ClubCall Reply) : Prop :=
  match call with
  | .addSubmissionReport submissionId userId dto backup table =>
    Adding submissionId userId dto backup table db prog
  | _ => prog.Avoids Reports

theorem Progress.mono {call : Call} (progress : Progress call db prog)
    (untouched : ∀ id, call.reportId = some id → Untouched id db db')
    (grows : Table.Grows (fun a b => b.studentId = a.studentId) db.submissions db'.submissions) :
    Progress call db' prog := by
  cases call with
  | addSubmissionReport submissionId userId dto backup table =>
    exact Adding.mono progress (untouched _ rfl) grows
  | _ => exact progress

/-- A write that is not of a report leaves all reports as they are. -/
theorem write_quiet {s : Statement} {made : Id} (done : write s db = .ok (db', made))
    (quiet : ¬ Reports (.write s)) (fits : s.Fits db) :
    (∀ k, reportsOf db' k = reportsOf db k) ∧ db'.reports = db.reports := by
  have stored := write_reportsOf done
  have rows := (write_reports done).1
  cases s with
  | submit id attachments reaches =>
    refine ⟨fun k => ?_, rows⟩
    by_cases own : k = id
    · subst own
      rw [stored.2]
      cases attachments with
      | none => rfl
      | some given => exact fits given rfl
    · exact stored.1 k own
  | attach id attachments reaches => exact absurd trivial quiet
  | createReport report reaches => exact absurd trivial quiet
  | _ => exact ⟨stored, rows⟩

theorem storedReports_withReport (attachments : Option Json) (report : Json) :
    storedReports (some (withReport attachments report)) = report :: storedReports attachments := by
  simp [storedReports, withReport]

/-- A backup adds its report to those that are stored. -/
theorem write_backup {k made : Id} {attachments : Option Json} {report : Json} {reaches : Bool}
    (done : write (.attach k (withReport attachments report) reaches) db = .ok (db', made))
    (fits : (Statement.attach k (withReport attachments report) reaches).Fits db) :
    (∀ j, reportsOf db' j = if j = k then report :: reportsOf db k else reportsOf db j) ∧
      db'.reports = db.reports := by
  obtain ⟨others, here⟩ := write_reportsOf done
  simp only [Statement.Fits, storedReports_withReport, List.tail_cons] at fits
  refine ⟨fun j => ?_, (write_reports done).1⟩
  split
  · rename_i own
    rw [own, here, storedReports_withReport, fits]
  · rename_i other
    exact others j other

/-- The backup is written exactly if the database is reached. -/
theorem attach_isOk (attachments : Json) (stored : Stored db submissionId userId) :
    (∃ done, write (.attach submissionId attachments backup) db = .ok done) ↔ backup = true := by
  obtain ⟨s, found, -⟩ := stored
  obtain ⟨t, updated⟩ : ∃ t, db.submissions.update submissionId (.attach attachments)
      (ClubChallengeSubmission.key_attach attachments) = some t :=
    update_isSome found fun _ _ => rfl
  cases backup <;> simp [write, require, updateRow, orFail, updated, bind, Except.bind, pure,
    Except.pure]

theorem createReport_isOk {report : ClubSubmissionReport}
    (stored : Stored db report.submissionId userId)
    (unused : db.reports.rows.filter (·.id = report.id) = []) :
    (∃ done, write (.createReport report table) db = .ok done) ↔ table = true := by
  obtain ⟨s, found, -⟩ := stored
  have fresh : report.id ∉ db.reports.rows.map (·.id) := fun mem => by
    obtain ⟨row, there, same⟩ := List.mem_map.mp mem
    simpa [same] using List.filter_eq_nil_iff.mp unused row there
  cases table <;> simp [write, require, referred, orFail, Table.has, found, ReportTable.insert,
    fresh, bind, Except.bind, pure, Except.pure]

/-- From one database to the next only reports of these ids are added. -/
structure Adds (own : String → Prop) (db db' : Db) : Prop where
  clean : Clean db → Clean db'
  untouched : ∀ id, ¬ own id → Untouched id db db'
  grows : Table.Grows (fun a b => b.studentId = a.studentId) db.submissions db'.submissions

theorem adds_refl (own : String → Prop) (db : Db) : Adds own db db :=
  ⟨id, fun _ _ => ⟨rfl, fun _ => rfl⟩, fun _ row found => ⟨row, found, rfl⟩⟩

theorem adds_quiet {s : Statement} {made : Id} (done : write s db = .ok (db', made))
    (quiet : ¬ Reports (.write s)) (fits : s.Fits db) : Adds (fun _ => False) db db' := by
  obtain ⟨stored, rows⟩ := write_quiet done quiet fits
  refine ⟨fun clean k => ?_, fun id _ => ⟨by rw [rows], fun k => by rw [stored]⟩,
    (write_reports done).2⟩
  rw [stored]
  exact clean k

theorem adds_backup {k made : Id} {attachments : Option Json} {report : ClubSubmissionReport}
    {reaches : Bool}
    (done : write (.attach k (withReport attachments report.json) reaches) db = .ok (db', made))
    (fits : (Statement.attach k (withReport attachments report.json) reaches).Fits db) :
    Adds (· = report.id) db db' := by
  obtain ⟨stored, rows⟩ := write_backup done fits
  refine ⟨fun clean j => ?_, fun id other => ⟨by rw [rows], fun j => ?_⟩, (write_reports done).2⟩
  · rw [stored]
    split
    · simpa [isNull_json] using clean k
    · exact clean j
  · rw [stored]
    split
    · rename_i same
      have differ : ¬ report.id = id := fun named => other named.symm
      simp [same, differ]
    · rfl

theorem adds_row {made : Id} {report : ClubSubmissionReport} {reaches : Bool}
    (done : write (.createReport report reaches) db = .ok (db', made)) :
    Adds (· = report.id) db db' := by
  have stored := write_reportsOf done
  obtain ⟨rows, grows⟩ := write_reports done
  refine ⟨fun clean k => ?_, fun id other => ⟨?_, fun k => by rw [stored]⟩, grows⟩
  · rw [stored]
    exact clean k
  · have differ : ¬ report.id = id := fun named => other named.symm
    simp [rows, differ]

end

/-! ### Moves -/

section

variable {ι : Type} [DecidableEq ι] {calls : ι → Call} {p : Threads Db (ClubCall Reply) ι} {i : ι}

/-- What a move of one call does: the call comes further, and adds no report but its own. -/
structure Moves (call : Call) (p p' : Threads Db (ClubCall Reply) ι) (i : ι) : Prop where
  progress : Progress call p'.shared (p'.own i)
  adds : Adds (fun id => call.reportId = some id) p.shared p'.shared

theorem moves_quiet (call : Call) (other : call.reportId = none)
    (avoids : (p.own i).Avoids Reports) (fits : Fits p (.thread i ())) :
    Moves call p (Sql.moveStep write p (.thread i ())) i := by
  constructor
  · have later : ((Sql.moveStep write p (.thread i ())).own i).Avoids Reports := by
      rw [Sql.moveStep, Prog.moveStep_thread, Threads.own_put_self]
      exact avoids.advance
    cases call with
    | addSubmissionReport submissionId userId dto backup table => cases other
    | _ => exact later
  · rcases Sql.moveStep_cases write p i with
      ⟨s, next, db, made, now, done, commits, moved⟩ | ⟨-, same⟩
    · rw [now] at avoids
      have adds := adds_quiet done avoids.1 (fits s commits)
      rw [moved]
      exact ⟨adds.clean, fun id _ => adds.untouched id not_false, adds.grows⟩
    · rw [same]
      exact adds_refl _ _

theorem Unused.copies {db : Db} {report : ClubSubmissionReport} (unused : Unused db report.id) :
    Copies db report false false :=
  ⟨unused.2 _, unused.1⟩

/-- A call that adds a report writes both copies, where the database is reached. -/
theorem moves_adding {submissionId userId : Id} {dto : CreateClubReportDto} {backup table : Bool}
    (adding : Adding submissionId userId dto backup table p.shared (p.own i))
    (fits : Fits p (.thread i ())) :
    Moves (.addSubmissionReport submissionId userId dto backup table) p
      (Sql.moveStep write p (.thread i ())) i := by
  unfold Fits at fits
  generalize now : p.own i = prog at adding
  cases adding with
  | waiting next unused reads =>
    rw [Sql.moveStep_read now]
    refine ⟨?_, adds_refl _ _⟩
    rw [Threads.own_put_self, Threads.shared_put]
    rcases reads p.shared with ⟨e, failed⟩ | ⟨s, report, named, of, stored, rest⟩
    · rw [failed]
      exact .failed e
    · rw [rest]
      exact .holding s report named of stored unused
  | holding s report named of stored unused =>
    obtain rfl := of
    have reached : _ ↔ backup = true :=
      attach_isOk (withReport s.attachments report.json) stored
    cases done : write (.attach report.submissionId (withReport s.attachments report.json) backup)
      p.shared with
    | ok made =>
      obtain ⟨db, made⟩ := made
      obtain rfl : backup = true := reached.mp ⟨_, done⟩
      have commits := fits _ (by simp only [Sql.committed, now, backupPart, done]; rfl)
      have adds := adds_backup done commits
      obtain ⟨reports, rows⟩ := write_backup done commits
      rw [Sql.moveStep_ok now done]
      refine ⟨?_, adds.clean, fun id other => adds.untouched id fun same => ?_, adds.grows⟩
      · rw [Threads.own_put_self, Threads.shared_put]
        refine .backedUp report named rfl (stored.mono adds.grows) ⟨?_, ?_⟩
        · have none := unused.2 report.submissionId
          rw [← named] at none
          simp [reports, none]
        · rw [rows, named]
          exact unused.1
      · exact other (by rw [same, named]; rfl)
    | error e =>
      have unreached : backup = false := by
        cases backup
        · rfl
        · obtain ⟨made, ok⟩ := reached.mpr rfl
          simp [done] at ok
      subst unreached
      rw [Sql.moveStep_error now done]
      refine ⟨?_, adds_refl _ _⟩
      rw [Threads.own_put_self, Threads.shared_put]
      rw [← named] at unused
      exact .backedUp report named rfl stored unused.copies
  | backedUp report named of stored copies =>
    obtain rfl := of
    have unused : p.shared.reports.rows.filter (·.id = report.id) = [] := copies.table
    have reached : _ ↔ table = true := createReport_isOk stored unused
    cases done : write (.createReport report table) p.shared with
    | ok made =>
      obtain ⟨db, made⟩ := made
      obtain rfl : table = true := reached.mp ⟨_, done⟩
      have adds := adds_row done
      have rows := (write_reports done).1
      have reports := write_reportsOf done
      rw [Sql.moveStep_ok now done]
      refine ⟨?_, adds.clean, fun id other => adds.untouched id fun same => ?_, adds.grows⟩
      · rw [Threads.own_put_self, Threads.shared_put]
        refine .ended report named rfl (stored.mono adds.grows) ⟨?_, ?_⟩
        · rw [reports]
          exact copies.backup
        · simp [rows, unused]
      · exact other (by rw [same, named]; rfl)
    | error e =>
      have unreached : table = false := by
        cases table
        · rfl
        · obtain ⟨made, ok⟩ := reached.mpr rfl
          simp [done] at ok
      subst unreached
      rw [Sql.moveStep_error now done]
      refine ⟨?_, adds_refl _ _⟩
      rw [Threads.own_put_self, Threads.shared_put]
      exact .ended report named rfl stored copies
  | ended report named of stored copies =>
    rw [Sql.moveStep_ret now]
    refine ⟨?_, adds_refl _ _⟩
    rw [now]
    exact .ended report named of stored copies
  | failed e =>
    rw [Sql.moveStep_ret now]
    refine ⟨?_, adds_refl _ _⟩
    rw [now]
    exact .failed e

/-- Every call has come so far, and no stored report is `null`. -/
structure Right (calls : ι → Call) (p : Threads Db (ClubCall Reply) ι) : Prop where
  clean : Clean p.shared
  progress : ∀ i, Progress (calls i) p.shared (p.own i)

variable {db : Db}

omit [DecidableEq ι] in
theorem Fresh.right (fresh : Fresh db calls) (clean : Clean db) : Right calls (start db calls) := by
  refine ⟨clean, fun i => ?_⟩
  show Progress (calls i) db (calls i).program
  have unused := fresh.unused i
  cases call : calls i with
  | addSubmissionReport submissionId userId dto backup table =>
    exact adding_program (unused dto.reportId (by rw [call]; rfl))
  | _ => exact avoids_program _ rfl

theorem moves_of_progress {call : Call} (progress : Progress call p.shared (p.own i))
    (fits : Fits p (.thread i ())) : Moves call p (Sql.moveStep write p (.thread i ())) i := by
  cases call with
  | addSubmissionReport submissionId userId dto backup table => exact moves_adding progress fits
  | _ => exact moves_quiet _ rfl progress fits

theorem Right.moveStep (distinct : ∀ i j id, (calls i).reportId = some id →
    (calls j).reportId = some id → i = j) (move : Move ι Unit Empty) (fits : Fits p move)
    (right : Right calls p) : Right calls (Sql.moveStep write p move) := by
  rcases move with ⟨i, ⟨⟩⟩ | e
  · obtain ⟨progress, adds⟩ := moves_of_progress (right.progress i) fits
    refine ⟨adds.clean right.clean, fun j => ?_⟩
    by_cases same : j = i
    · rw [same]
      exact progress
    · have other : (Sql.moveStep write p (.thread i ())).own j = p.own j := by
        rw [Sql.moveStep, Prog.moveStep_thread, Threads.own_put_of_ne same]
      rw [other]
      exact (right.progress j).mono
        (fun id named => adds.untouched id fun own => same (distinct j i id named own)) adds.grows
  · exact e.elim

omit [DecidableEq ι] in
theorem Right.copies (right : Right calls p) {submissionId userId : Id} {dto : CreateClubReportDto}
    {backup table : Bool} {report : ClubSubmissionReport}
    (call : calls i = .addSubmissionReport submissionId userId dto backup table)
    (ended : p.own i = .ret (.ok (some report))) :
    report.submissionId = submissionId ∧ Stored p.shared submissionId userId ∧
      Copies p.shared report backup table := by
  have progress := right.progress i
  rw [call, ended] at progress
  cases progress with
  | ended _ named of stored copies => exact ⟨of, stored, copies⟩

omit [DecidableEq ι] in
theorem Right.noneLost (time : Option Json → ℤ) {p' : Threads Db (ClubCall Reply) ι}
    (right : Right calls p) (right' : Right calls p')
    (stays : ∀ i r, p.own i = .ret r → p'.own i = .ret r) : NoneLost time calls p p' := by
  intro i submissionId userId dto backup table report call ended reader isAdmin readsTable may
    readable
  obtain ⟨of, stored, copies⟩ := right.copies call ended
  obtain ⟨-, -, copies'⟩ := right'.copies call (stays i _ ended)
  obtain rfl := of
  obtain ⟨s, found, own⟩ := stored
  have objects : ∀ x ∈ storedReports s.attachments, x.isNull = false := by
    have clean := right.clean report.submissionId
    simpa [reportsOf, found] using clean
  exact copies.found time copies' found objects (may.imp_right fun reads => own.trans reads.symm)
    readable

/-- A hand-in that fits removes no report. -/
theorem keepsReports_of_fits (move : Move ι Unit Empty) (fits : Fits p move) :
    ∀ s ∈ Sql.committed write p move,
      KeepsReports p.shared (Sql.moveStep write p move).shared s := by
  intro s commits
  rcases move with ⟨i, ⟨⟩⟩ | e
  · rcases Sql.moveStep_cases write p i with ⟨t, next, db, made, -, done, commits', moved⟩ |
      ⟨none, -⟩
    · obtain rfl : t = s := Option.some.inj (commits'.symm.trans commits)
      cases t with
      | submit id attachments reaches =>
        intro report mem
        rw [moved, Threads.shared_put, (write_quiet done not_false (fits _ commits)).1]
        exact mem
      | _ => trivial
    · rw [none] at commits
      cases commits
  · exact e.elim

end

section

variable {ι : Type} [DecidableEq ι] {calls : ι → Call} {db : Db}
  {moves later : List (Move ι Unit Empty)}

/-- **No report is lost.** Where every write of the attachments is made over the reports that are
stored, each report is found once wherever one of its copies can be read, and no hand-in removes
one. -/
theorem noneLost_of_fits (time : Option Json → ℤ) (clean : Clean db) (fresh : Fresh db calls)
    (fits : Along (Sql.moveStep write) Fits (start db calls) (moves ++ later)) :
    NoneLost time calls (run (Sql.moveStep write) (start db calls) moves)
        (run (Sql.moveStep write) (start db calls) (moves ++ later)) ∧
      Along (Sql.moveStep write)
        (fun p move => ∀ s ∈ Sql.committed write p move,
          KeepsReports p.shared (Sql.moveStep write p move).shared s) (start db calls)
        (moves ++ later) := by
  have keeps := fun p move fits right => @Right.moveStep ι _ calls p fresh.distinct move fits right
  obtain ⟨before, after⟩ := along_append.mp fits
  have right := run_invariant keeps (fresh.right clean) before
  refine ⟨right.noneLost time ?_ fun i r ended => ?_, fits.mono fun _ => keepsReports_of_fits⟩
  · rw [run_append]
    exact run_invariant keeps right after
  · rw [run_append]
    exact Prog.run_returned _ ended later

end

instance (db : Db) (s : Statement) : Decidable (s.Fits db) := by
  unfold Statement.Fits
  split <;> infer_instance

instance {ι : Type} [DecidableEq ι] (p : Threads Db (ClubCall Reply) ι)
    (move : Move ι Unit Empty) : Decidable (Fits p move) :=
  inferInstanceAs (Decidable (∀ s ∈ Sql.committed write p move, s.Fits p.shared))

instance (db db' : Db) (s : Statement) : Decidable (KeepsReports db db' s) := by
  unfold KeepsReports
  split <;> infer_instance

theorem reportsOf_eq_nil {db : Db} (plain : ∀ s ∈ db.submissions.rows, s.attachments = none)
    (k : Id) : reportsOf db k = [] := by
  unfold reportsOf
  cases found : db.submissions.find? k with
  | none => rfl
  | some s => simp [plain s (mem_of_find? found), storedReports]

namespace Workshop

/-- A student at work on a challenge. -/
def db : Db where
  challenges := .of [{ id := 1, tenantId := 1, slug := "a" }]
  submissions := .of [{ id := 1, tenantId := 1, challengeId := 1, studentId := 7 }]

def request (reportId : String) : CreateClubReportDto where
  reportId
  reportDate := .str "2026-01-01T00:00:00.000Z"
  content := "done"

def report (reportId : String) : ClubSubmissionReport :=
  (request reportId).report { id := 1, tenantId := 1, challengeId := 1, studentId := 7 } 7

def add (reportId : String) (backup table : Bool) : Call :=
  .addSubmissionReport 1 7 (request reportId) backup table

def handIn (attachments : Option Json) : Call := .submitChallenge 1 7 1 attachments true

/-- Every report is of the same day. -/
def time : Option Json → ℤ := fun _ => 1767225600000

theorem clean : Clean db := fun k => by
  rw [reportsOf_eq_nil (by decide)]
  exact nofun

theorem fresh {n : ℕ} {calls : Fin n → Call}
    (distinct : ∀ i j, (calls i).reportId.isSome →
      (calls i).reportId = (calls j).reportId → i = j) :
    Fresh db calls :=
  ⟨fun i j id own other => distinct i j (by rw [own]; rfl) (own.trans other.symm),
    fun _ id _ => ⟨rfl, fun k => by rw [reportsOf_eq_nil (by decide)]; rfl⟩⟩

end Workshop

open Workshop in
/-- Three reports and a hand-in, one after another, where of each report one copy at most is lost. -/
theorem noneLost_turn :
    NoneLost time ![add "r1" true false, add "r2" false true, handIn none, add "r3" true true]
        (run (Sql.moveStep write) (start db
          ![add "r1" true false, add "r2" false true, handIn none, add "r3" true true])
          (moves [0, 0, 0, 1, 1, 2, 1, 2]))
        (run (Sql.moveStep write) (start db
          ![add "r1" true false, add "r2" false true, handIn none, add "r3" true true])
          (moves [0, 0, 0, 1, 1, 2, 1, 2] ++ moves [3, 3, 3])) ∧
      Along (Sql.moveStep write)
        (fun p move => ∀ s ∈ Sql.committed write p move,
          KeepsReports p.shared (Sql.moveStep write p move).shared s)
        (start db ![add "r1" true false, add "r2" false true, handIn none, add "r3" true true])
        (moves [0, 0, 0, 1, 1, 2, 1, 2] ++ moves [3, 3, 3]) :=
  noneLost_of_fits time clean (fresh (by decide)) (by decide +kernel)

open Workshop in
/-- Of two reports added in step, with the table out of reach, one is lost; and a hand-in with
attachments of its own removes the reports of its submission. -/
theorem not_noneLost : (¬ NoneLost time ![add "r1" true false, add "r2" true false]
      (run (Sql.moveStep write) (start db ![add "r1" true false, add "r2" true false])
        (moves [0, 1, 0, 1, 0, 1]))
      (run (Sql.moveStep write) (start db ![add "r1" true false, add "r2" true false])
        (moves [0, 1, 0, 1, 0, 1]))) ∧
    ¬ Along (Sql.moveStep write)
      (fun p move => ∀ s ∈ Sql.committed write p move,
        KeepsReports p.shared (Sql.moveStep write p move).shared s)
      (start db ![add "r1" true true, handIn (some (.obj []))]) (moves [0, 0, 0, 1, 1]) := by
  refine ⟨fun law => ?_, by decide +kernel⟩
  have found := law 0 1 7 _ true false (report "r1") rfl rfl 7 false true (Or.inr rfl) (Or.inl rfl)
  exact absurd found (by decide +kernel)

end Rokad.Club
