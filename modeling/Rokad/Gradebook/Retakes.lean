import Rokad.Base.Run
import Rokad.Gradebook.Podmans
import Rokad.Gradebook.Recording

/-!
# Retakes

Of the attempts at a podman the report card keeps the last one that is passed, and of failed ones a
best one (`keptOf_of_passed`, `keptOf_of_failed`). So one more attempt never hurts as long as the
last passed attempt at each podman is the best of the passed ones (`retake_never_hurts_iff`); a pass
with a lower score takes the place of a better one (`not_retake_never_hurts`).
-/

namespace Rokad.Gradebook

open Rokad.Base Rokad.Common

/-! ### The attempt that is kept -/

/-- The attempt that counts of attempts in the order of their dates. -/
def keptOf (marks : List Mark) : Option Mark := marks.foldl Mark.keep none

/-- The last attempt that is passed is the best of them. -/
def LastPassedBest (marks : List Mark) : Prop :=
  ∀ last ∈ (marks.filter (·.isPassed)).getLast?,
    ∀ m ∈ marks, m.isPassed = true → m.finalScore ≤ last.finalScore
deriving Decidable

/-- A score of the gradebook: from twelve it is passed. -/
structure Mark.Graded (m : Mark) : Prop where
  nonneg : 0 ≤ m.finalScore
  passed : m.isPassed = true ↔ 12 ≤ m.finalScore

theorem keptOf_append (marks : List Mark) (m : Mark) :
    keptOf (marks ++ [m]) = Mark.keep (keptOf marks) m := by
  simp [keptOf]

/-- A passed attempt is replaced by passed ones only, so the last one stays. -/
theorem keptOf_of_passed {marks : List Mark} {last : Mark}
    (isLast : (marks.filter (·.isPassed)).getLast? = some last) : keptOf marks = some last := by
  induction marks using List.reverseRecOn with
  | nil => cases isLast
  | append_singleton marks m ih =>
    rw [List.filter_append] at isLast
    rw [keptOf_append]
    cases passed : m.isPassed with
    | true =>
      have isM : m = last := by simpa [passed] using isLast
      subst isM
      cases before : keptOf marks with
      | none => rfl
      | some k => simp [Mark.keep, Mark.replaces, passed]
    | false =>
      have before : (marks.filter (·.isPassed)).getLast? = some last := by
        simpa [passed] using isLast
      have lastPassed : last.isPassed = true :=
        (List.mem_filter.mp (List.mem_of_getLast? before)).2
      rw [ih before]
      simp [Mark.keep, Mark.replaces, passed, lastPassed]

/-- Of attempts that are all failed the best one is kept. -/
theorem keptOf_of_failed {marks : List Mark} (failed : ∀ m ∈ marks, m.isPassed = false) :
    (keptOf marks = none ↔ marks = []) ∧
      ∀ k ∈ keptOf marks, k ∈ marks ∧ ∀ m ∈ marks, m.finalScore ≤ k.finalScore := by
  induction marks using List.reverseRecOn with
  | nil => simp [keptOf]
  | append_singleton marks m ih =>
    have failedM : m.isPassed = false := failed m (by simp)
    obtain ⟨none, best⟩ := ih fun x mem => failed x (List.mem_append_left _ mem)
    rw [keptOf_append]
    cases before : keptOf marks with
    | none =>
      rw [none.mp before]
      simp [Mark.keep]
    | some k =>
      obtain ⟨mem, most⟩ := best k before
      have failedK := failed k (List.mem_append_left _ mem)
      by_cases better : k.finalScore < m.finalScore
      · have kept : Mark.keep (some k) m = some m := by
          simp [Mark.keep, Mark.replaces, failedM, failedK, better]
        rw [kept]
        refine ⟨by simp, fun _ is => ?_⟩
        obtain rfl := Option.some.inj is
        refine ⟨by simp, fun x inAll => ?_⟩
        rcases List.mem_append.mp inAll with inAll | inAll
        · exact (most x inAll).trans better.le
        · rw [List.mem_singleton.mp inAll]
      · have kept : Mark.keep (some k) m = some k := by
          simp [Mark.keep, Mark.replaces, failedM, better]
        rw [kept]
        refine ⟨by simp, fun _ is => ?_⟩
        obtain rfl := Option.some.inj is
        refine ⟨List.mem_append_left _ mem, fun x inAll => ?_⟩
        rcases List.mem_append.mp inAll with inAll | inAll
        · exact most x inAll
        · rw [List.mem_singleton.mp inAll]
          exact not_lt.mp better

theorem getLast?_filter_none {marks : List Mark}
    (none : (marks.filter (·.isPassed)).getLast? = none) : ∀ m ∈ marks, m.isPassed = false := by
  intro m mem
  have empty := List.getLast?_eq_none_iff.mp none
  simpa using List.filter_eq_nil_iff.mp empty m mem

theorem keptOf_mem {marks : List Mark} {k : Mark} (kept : keptOf marks = some k) : k ∈ marks := by
  cases passed : (marks.filter (·.isPassed)).getLast? with
  | none => exact ((keptOf_of_failed (getLast?_filter_none passed)).2 k kept).1
  | some last =>
    rw [keptOf_of_passed passed] at kept
    cases kept
    exact List.mem_of_mem_filter (List.mem_of_getLast? passed)

theorem keptOf_none {marks : List Mark} (none : keptOf marks = none) : marks = [] := by
  cases passed : (marks.filter (·.isPassed)).getLast? with
  | none => exact (keptOf_of_failed (getLast?_filter_none passed)).1.mp none
  | some last =>
    rw [keptOf_of_passed passed] at none
    cases none

/-- The attempt that is kept is a best one if and only if the last passed one is. -/
theorem keptOf_best_iff {marks : List Mark} (graded : ∀ m ∈ marks, m.Graded) :
    (∀ k ∈ keptOf marks, ∀ m ∈ marks, m.finalScore ≤ k.finalScore) ↔ LastPassedBest marks := by
  unfold LastPassedBest
  cases passed : (marks.filter (·.isPassed)).getLast? with
  | none =>
    have best := (keptOf_of_failed (getLast?_filter_none passed)).2
    exact ⟨fun _ => nofun, fun _ k kept => (best k kept).2⟩
  | some last =>
    rw [keptOf_of_passed passed]
    have mem := List.mem_of_getLast? passed
    have isPassed : last.isPassed = true := (List.mem_filter.mp mem).2
    have from12 := (graded last (List.mem_of_mem_filter mem)).passed.mp isPassed
    constructor
    · rintro best _ ⟨⟩ m inMarks -
      exact best last rfl m inMarks
    · rintro best _ ⟨⟩ m inMarks
      cases own : m.isPassed with
      | true => exact best last rfl m inMarks own
      | false =>
        have below : ¬ 12 ≤ m.finalScore := fun from12 => by
          rw [(graded m inMarks).passed.mpr from12] at own
          cases own
        exact (not_le.mp below).le.trans from12

/-! ### The report of a lesson -/

/-- The mark that a lesson has for a podman. -/
def markOf (rs : Dict ℤ GradedPodman) (num : ℤ) : Option Mark := (rs.get? num).map (·.grade.mark)

/-- A podman that is graded stays so, by an attempt that is no worse. -/
def Improves (rs rs' : Dict ℤ GradedPodman) (num : ℤ) : Prop :=
  ∀ m ∈ markOf rs num, ∃ m' ∈ markOf rs' num,
    m.finalScore ≤ m'.finalScore ∧ (m.isPassed = true → m'.isPassed = true)

/-- One report of a lesson is no worse than another. -/
structure NoWorse (before after : LessonReport) : Prop where
  average : before.lessonAverageOutOf20.AtMost after.lessonAverageOutOf20
  passed : before.isPassed = true → after.isPassed = true
  unpassed : ∀ num ∈ after.unpassedPodmanNumbers.getD [], num ∈ before.unpassedPodmanNumbers.getD []

/-- Over `n` podmans, the second count is no worse than the first. -/
structure Ahead (n : ℕ) (t t' : ReportTally) : Prop where
  total : t.totalPodmanScore.AtMost t'.totalPodmanScore
  double : ∀ a, t.totalPodmanScore = .finite a → Exact a
  passed : t.passedCount ≤ t'.passedCount
  bound : t'.passedCount ≤ n
  unpassed : t'.unpassedNumbers ⊆ t.unpassedNumbers

section

variable {rs rs' : Dict ℤ GradedPodman} {nums : List ℤ}

theorem exact_add {x : Number} {s a : ℚ} (sum : x.add (.finite s) = .finite a) : Exact a := by
  cases x with
  | finite b => exact exact_of_toDouble sum
  | infinity negative => cases sum
  | nan => cases sum

theorem tally_ahead (improves : ∀ num ∈ nums, Improves rs rs' num)
    (graded : ∀ num ∈ nums, (∀ m ∈ markOf rs num, m.Graded) ∧ ∀ m ∈ markOf rs' num, m.Graded) :
    Ahead nums.length (nums.foldl (reportPodman rs) {}) (nums.foldl (reportPodman rs') {}) := by
  induction nums using List.reverseRecOn with
  | nil =>
    refine ⟨⟨le_rfl, le_rfl⟩, ?_, le_rfl, le_rfl, List.Subset.refl _⟩
    rintro _ ⟨⟩
    decide +kernel
  | append_singleton rest num ih =>
    have ahead := ih (fun n mem => improves n (List.mem_append_left _ mem))
      fun n mem => graded n (List.mem_append_left _ mem)
    have here := improves num (by simp)
    obtain ⟨gradedBefore, gradedAfter⟩ := graded num (by simp)
    simp only [List.foldl_append, List.foldl_cons, List.foldl_nil, List.length_append,
      List.length_singleton]
    generalize rest.foldl (reportPodman rs) {} = t at ahead
    generalize rest.foldl (reportPodman rs') {} = t' at ahead
    obtain ⟨total, double, passed, bound, unpassed⟩ := ahead
    have kept : t'.unpassedNumbers ⊆ t.unpassedNumbers ++ [num] :=
      List.Subset.trans unpassed (List.subset_append_left _ _)
    have added : t'.unpassedNumbers ++ [num] ⊆ t.unpassedNumbers ++ [num] :=
      List.append_subset.mpr ⟨kept, List.subset_append_right _ _⟩
    unfold markOf at gradedBefore gradedAfter
    unfold Improves markOf at here
    unfold reportPodman
    cases before : rs.get? num with
    | none =>
      cases after : rs'.get? num with
      | none => exact ⟨total, double, passed, bound.trans (Nat.le_succ _), added⟩
      | some g' =>
        rw [after] at gradedAfter
        have nonneg := (gradedAfter _ rfl).nonneg
        refine ⟨total.add_right double nonneg, double, ?_, ?_, ?_⟩ <;> dsimp only
        · split <;> omega
        · split <;> omega
        · split
          · exact kept
          · exact added
    | some g =>
      rw [before] at here gradedBefore
      obtain ⟨m', isAfter, more, still⟩ := here g.grade.mark rfl
      obtain ⟨g', after, rfl⟩ := Option.map_eq_some_iff.mp isAfter
      rw [after]
      have nonneg := (gradedBefore _ rfl).nonneg
      have still : g.grade.isPassed = true → g'.grade.isPassed = true := still
      refine ⟨total.add nonneg more, fun _ sum => exact_add sum, ?_, ?_, ?_⟩ <;> dsimp only
      · by_cases pass : g.grade.isPassed = true
        · rw [if_pos pass, if_pos (still pass)]
          omega
        · rw [if_neg pass]
          split <;> omega
      · split <;> omega
      · by_cases pass : g'.grade.isPassed = true
        · rw [if_pos pass]
          split
          · exact unpassed
          · exact kept
        · rw [if_neg pass, if_neg fun before => pass (still before)]
          exact added

/-- The details are of the podmans in turn, with the scores that are kept. -/
theorem details_tally (rs : Dict ℤ GradedPodman) (nums : List ℤ) :
    (nums.foldl (reportPodman rs) {}).podmanDetails.map (fun d => (d.podmanNumber, d.finalScore)) =
      nums.map fun num => (num, (markOf rs num).map (·.finalScore)) := by
  induction nums using List.reverseRecOn with
  | nil => rfl
  | append_singleton rest num ih =>
    rw [List.foldl_append, List.map_append, ← ih]
    unfold markOf
    simp only [List.foldl_cons, List.foldl_nil, reportPodman]
    cases found : rs.get? num <;> simp [PodmanGrade.mark, found]

theorem report_noWorse {e e' : PodmanLesson} (l : Id) (sameLesson : e'.lesson = e.lesson)
    (improves : ∀ num ∈ numbers e.lesson.podmans, Improves e.podmanGrades e'.podmanGrades num)
    (graded : ∀ num ∈ numbers e.lesson.podmans,
      (∀ m ∈ markOf e.podmanGrades num, m.Graded) ∧ ∀ m ∈ markOf e'.podmanGrades num, m.Graded) :
    NoWorse (modularReport l e) (modularReport l e') := by
  have ahead := tally_ahead improves graded
  have nonzero := e.lesson.podmans_ne_zero
  rw [length_numbers] at ahead
  unfold modularReport
  dsimp only
  rw [sameLesson]
  obtain ⟨total, -, passed, bound, unpassed⟩ := ahead
  refine ⟨?_, fun pass => ?_, unpassed⟩
  · rcases lt_or_gt_of_ne nonzero with negative | positive
    · -- there is no podman, and each total is zero
      have none : numbers e.lesson.podmans = [] := by
        simp [numbers, Int.toNat_of_nonpos negative.le]
      rw [none]
      refine Number.AtMost.toFixed2 ?_
      rw [List.foldl_nil, List.foldl_nil, div_of_zero nonzero]
      exact ⟨le_rfl, le_rfl⟩
    · exact (total.div (by exact_mod_cast positive)).toFixed2
  · rw [decide_eq_true_eq] at pass ⊢
    omega

end

/-! ### The attempts of a student -/

/-- The podman grades that the report card sees, by date. -/
def seen (db : Db) (tenantId studentId : Id) (academicYearId : Option Id) : List GradedPodman :=
  db.podmanGradesOf fun g =>
    g.tenantId = tenantId ∧ g.studentId = studentId ∧ academicYearId.all (g.academicYearId = ·)

def podmanLessonsMap (db : Db) (tenantId studentId : Id) (academicYearId : Option Id) :
    Dict Id PodmanLesson :=
  (seen db tenantId studentId academicYearId).foldl addPodmanGrade .empty

/-- The attempts at a podman. -/
def attempts (db : Db) (tenantId studentId : Id) (academicYearId : Option Id) (lessonId : Id)
    (num : ℤ) : List Mark :=
  (((seen db tenantId studentId academicYearId).filter (·.grade.lessonId = lessonId)).filter
    (·.podman.number = num)).map (·.grade.mark)

/-- A row as it is written for an item. -/
def PodmanGrade.Recorded (g : PodmanGrade) : Prop :=
  ∃ item : BulkRecordPodmanGradeItemDto, g.continuousScore = item.continuousScore ∧
    g.competencyScore = item.competencyScore ∧ item.finalScore = .finite g.finalScore ∧
    g.isPassed = atLeast 12 item.finalScore

def AllRecorded (db : Db) : Prop := ∀ g ∈ db.podmanGrades.rows, g.Recorded

section

theorem finalScore_nonneg {item : BulkRecordPodmanGradeItemDto} {a : ℚ}
    (score : item.finalScore = .finite a) : 0 ≤ a := by
  have continuous := item.continuous_mem.1
  have competency : (0 : ℚ) ≤ (item.competencyScore : ℚ) * 5 := by
    have one := item.competency_mem
    simp only [List.mem_cons, List.not_mem_nil, or_false] at one
    rcases one with one | one | one <;> rw [one] <;> norm_num
  have total : ((Number.finite item.continuousScore).add
        ((Number.finite item.competencyScore).mul (.finite 5))).AtMost
      ((Number.finite item.continuousScore).add
        ((Number.finite item.competencyScore).mul (.finite 5))) := by
    have product := Number.atMost_toDouble competency le_rfl
    show Number.AtMost (Number.add _ (toDouble _)) (Number.add _ (toDouble _))
    rcases product.cases with ⟨b, _, is, -, nonneg, -⟩ | ⟨_, is, is', -⟩ | ⟨is, -⟩
    · rw [is]
      exact Number.atMost_toDouble (add_nonneg continuous nonneg) le_rfl
    · rw [is] at is'
      cases is'
    · rw [is]
      trivial
  have rounded := total.toFixed2
  have same : item.finalScore.AtMost item.finalScore := rounded
  rw [score] at same
  exact same.1

theorem PodmanGrade.Recorded.graded {g : PodmanGrade} (recorded : g.Recorded) : g.mark.Graded := by
  obtain ⟨item, -, -, score, passed⟩ := recorded
  refine ⟨finalScore_nonneg score, ?_⟩
  show g.isPassed = true ↔ 12 ≤ g.finalScore
  rw [passed, score]
  simp [atLeast, Number.lt]

variable {db : Db} {t s : Id} {year : Option Id} {l : Id} {num : ℤ}

theorem mem_seen {x : GradedPodman} : x ∈ seen db t s year ↔ ∃ g ∈ db.podmanGrades.rows,
      (g.tenantId = t ∧ g.studentId = s ∧ year.all (g.academicYearId = ·) = true) ∧
        db.withPodman g = some x := by
  simp [seen, Db.podmanGradesOf, List.mem_filterMap, and_assoc]

theorem attempts_graded (recorded : AllRecorded db) :
    ∀ m ∈ attempts db t s year l num, m.Graded := by
  intro m mem
  obtain ⟨x, listed, rfl⟩ := List.mem_map.mp mem
  obtain ⟨g, inRows, -, found⟩ :=
    mem_seen.mp (List.mem_of_mem_filter (List.mem_of_mem_filter listed))
  rw [(withPodman_spec found).1]
  exact (recorded g inRows).graded

end

section

variable {db : Db} {t : Id} {ref : StudentRef} {year : Option Id} {user : Option RequestingUser}
  {card : ReportCard} (reported : getStudentReportCard db t ref year user = .ok card)
include reported

theorem card_student :
    ∃ student, resolveStudent db t ref user = some student ∧ card.studentId = student.id := by
  simp only [getStudentReportCard, do_eq_ok] at reported
  obtain ⟨student, found, rfl⟩ := reported
  exact ⟨student, found, rfl⟩

/-- A lesson with a podman grade is reported. -/
theorem card_lists {l : Id} {e : PodmanLesson}
    (found : (podmanLessonsMap db t card.studentId year).get? l = some e) :
    modularReport l e ∈ card.lessons := by
  simp only [getStudentReportCard, do_eq_ok] at reported
  obtain ⟨student, -, rfl⟩ := reported
  refine List.mem_append_right _ (List.mem_map.mpr ⟨(l, e), ?_, rfl⟩)
  exact Dict.get?_eq_some_iff.mp found

end

/-! ### One more attempt -/

section

variable {db db' : Db} {row : PodmanGrade} (added : db.createPodmanGrade row = .ok db')
include added

theorem createPodmanGrade_ok :
    db'.podmanGrades.rows = db.podmanGrades.rows ++ [{ row with id := db.podmanGrades.fresh }] ∧
      db'.toTables = { db.toTables with podmanGrades := db'.podmanGrades } := by
  unfold Db.createPodmanGrade at added
  split at added
  · split at added
    · cases added
    · rename_i podmanGrades inserted
      cases added
      exact ⟨(insert_spec.mp inserted).1, rfl⟩
  · cases added

theorem withPodman_added (g : PodmanGrade) : db'.withPodman g = db.withPodman g := by
  obtain ⟨-, same⟩ := createPodmanGrade_ok added
  unfold Db.withPodman
  rw [same]

theorem attempts_added {t s : Id} {year : Option Id} {l : Id} {num : ℤ} :
    attempts db t s year l num ⊆ attempts db' t s year l num := by
  intro m mem
  obtain ⟨x, listed, rfl⟩ := List.mem_map.mp mem
  rw [List.mem_filter, List.mem_filter, mem_seen] at listed
  obtain ⟨⟨⟨g, inRows, own, found⟩, ofLesson⟩, ofPodman⟩ := listed
  refine List.mem_map_of_mem ?_
  rw [List.mem_filter, List.mem_filter, mem_seen]
  refine ⟨⟨⟨g, ?_, own, (withPodman_added added g).trans found⟩, ofLesson⟩, ofPodman⟩
  rw [(createPodmanGrade_ok added).1]
  exact List.mem_append_left _ inRows

theorem resolveStudent_added (t : Id) (ref : StudentRef) (user : Option RequestingUser) :
    resolveStudent db' t ref user = resolveStudent db t ref user := by
  obtain ⟨-, same⟩ := createPodmanGrade_ok added
  unfold resolveStudent Db.studentOfUser
  rw [same]

end

/-! ### A retake never hurts -/

/-- Of each podman that is reported, a best attempt is. -/
def KeepsBest (db : Db) (tenantId studentId : Id) (academicYearId : Option Id)
    (report : LessonReport) : Prop :=
  ∀ detail ∈ report.podmans.getD [],
    ∀ m ∈ attempts db tenantId studentId academicYearId report.lessonId detail.podmanNumber,
      ∃ score ∈ detail.finalScore, m.finalScore ≤ score

/-- From one report card to the next no modular lesson gets worse, and of each podman a best attempt
is kept. -/
def NeverHurts (db : Db) (tenantId : Id) (academicYearId : Option Id) (card card' : ReportCard) :
    Prop :=
  (∀ before ∈ card.lessons, before.isModular = true →
    ∃ after ∈ card'.lessons, after.lessonId = before.lessonId ∧ after.isModular = true ∧
      NoWorse before after) ∧
  ∀ after ∈ card'.lessons, after.isModular = true →
    KeepsBest db tenantId card'.studentId academicYearId after

/-- At every podman, the last attempt that is passed is the best of them. -/
def RetakesImprove (db : Db) (tenantId studentId : Id) (academicYearId : Option Id) : Prop :=
  ∀ lesson ∈ db.lessons.rows, ∀ num ∈ numbers lesson.podmans,
    LastPassedBest (attempts db tenantId studentId academicYearId lesson.id num)
deriving Decidable

section

variable {db : Db} {t s : Id} {year : Option Id} {l : Id} {num : ℤ}

theorem found_of_attempt {m : Mark} (mem : m ∈ attempts db t s year l num) :
    ∃ e, (podmanLessonsMap db t s year).get? l = some e := by
  have kept : reportMark l num (podmanLessonsMap db t s year) = _ := kept_report l num _
  cases found : (podmanLessonsMap db t s year).get? l with
  | some e => exact ⟨e, rfl⟩
  | none =>
    rw [reportMark, found] at kept
    have none : keptOf (attempts db t s year l num) = none := by
      rw [attempts, keptOf, List.foldl_map]
      exact kept.symm
    rw [keptOf_none none] at mem
    exact absurd mem List.not_mem_nil

variable {e : PodmanLesson} (found : (podmanLessonsMap db t s year).get? l = some e)
include found

/-- What is kept of a lesson is what counts of the attempts. -/
theorem markOf_attempts (num : ℤ) :
    markOf e.podmanGrades num = keptOf (attempts db t s year l num) := by
  have kept : reportMark l num (podmanLessonsMap db t s year) = _ := kept_report l num _
  rw [reportMark, found] at kept
  rw [attempts, keptOf, List.foldl_map]
  exact kept

theorem attempt_of_found :
    ∃ num m, m ∈ attempts db t s year l num := by
  obtain ⟨pg, mem, ofLesson⟩ := reported_some (Dict.get?_empty _) found
  refine ⟨pg.podman.number, pg.grade.mark, List.mem_map_of_mem ?_⟩
  rw [List.mem_filter, List.mem_filter]
  exact ⟨⟨mem, by simpa using ofLesson⟩, by simp⟩

theorem lesson_of_found :
    db.lessons.find? l = some e.lesson := by
  refine reported_lesson (fun pg mem => ?_) (by simp) found
  obtain ⟨g, -, -, isPodman⟩ := mem_seen.mp mem
  obtain ⟨rfl, isLesson⟩ := withPodman_spec isPodman
  exact isLesson

theorem mark_mem {m : Mark} (mem : m ∈ markOf e.podmanGrades num) :
    m ∈ attempts db t s year l num := by
  rw [markOf_attempts found] at mem
  exact keptOf_mem mem

/-- What is kept of attempts of which the last passed one is the best. -/
theorem kept_best (recorded : AllRecorded db)
    (best : LastPassedBest (attempts db t s year l num)) {m : Mark}
    (mem : m ∈ attempts db t s year l num) :
    ∃ k ∈ markOf e.podmanGrades num, m.finalScore ≤ k.finalScore := by
  rw [markOf_attempts found]
  cases kept : keptOf (attempts db t s year l num) with
  | none =>
    rw [keptOf_none kept] at mem
    exact absurd mem List.not_mem_nil
  | some k => exact ⟨k, rfl, (keptOf_best_iff (attempts_graded recorded)).mpr best k kept m mem⟩

theorem keepsBest_of (recorded : AllRecorded db) (improve : RetakesImprove db t s year) :
    KeepsBest db t s year (modularReport l e) := by
  intro detail listed m mem
  have isLesson := lesson_of_found found
  have inNumbers : (detail.podmanNumber, detail.finalScore) ∈
      (numbers e.lesson.podmans).map fun num =>
        (num, (markOf e.podmanGrades num).map (·.finalScore)) := by
    rw [← details_tally]
    exact List.mem_map_of_mem listed
  obtain ⟨num, inRange, same⟩ := List.mem_map.mp inNumbers
  obtain ⟨rfl, score⟩ := Prod.mk.inj same
  have best := improve e.lesson (mem_of_find? isLesson) _ inRange
  rw [show e.lesson.id = l from key_of_find? isLesson] at best
  obtain ⟨k, kept, le⟩ := kept_best found recorded best mem
  exact ⟨k.finalScore, by rw [← score]; exact Option.mem_map_of_mem _ kept, le⟩

theorem best_of_keepsBest (recorded : AllRecorded db)
    (keeps : KeepsBest db t s year (modularReport l e)) (inRange : num ∈ numbers e.lesson.podmans) :
    LastPassedBest (attempts db t s year l num) := by
  have listed : (num, (markOf e.podmanGrades num).map (·.finalScore)) ∈
      ((numbers e.lesson.podmans).foldl (reportPodman e.podmanGrades) {}).podmanDetails.map
        fun d => (d.podmanNumber, d.finalScore) := by
    rw [details_tally]
    exact List.mem_map.mpr ⟨num, inRange, rfl⟩
  obtain ⟨detail, isDetail, same⟩ := List.mem_map.mp listed
  obtain ⟨number, scores⟩ := Prod.mk.inj same
  refine (keptOf_best_iff (attempts_graded recorded)).mp fun k kept m mem => ?_
  obtain ⟨score, isScore, le⟩ := keeps detail isDetail m (number ▸ mem)
  rw [scores, markOf_attempts found, kept] at isScore
  obtain rfl : k.finalScore = score := Option.some.inj isScore
  exact le

end

section

variable {db db' : Db} {row : PodmanGrade} {t s : Id} {year : Option Id}

theorem AllRecorded.before (recorded : AllRecorded db')
    (added : db.createPodmanGrade row = .ok db') : AllRecorded db := by
  intro g mem
  refine recorded g ?_
  rw [(createPodmanGrade_ok added).1]
  exact List.mem_append_left _ mem

/-- With one more attempt, a lesson is reported again and no worse. -/
theorem noWorse_of (recorded : AllRecorded db') (added : db.createPodmanGrade row = .ok db')
    (improve : RetakesImprove db' t s year) {l : Id} {e : PodmanLesson}
    (found : (podmanLessonsMap db t s year).get? l = some e) :
    ∃ e', (podmanLessonsMap db' t s year).get? l = some e' ∧
      NoWorse (modularReport l e) (modularReport l e') := by
  obtain ⟨_, m, mem⟩ := attempt_of_found found
  obtain ⟨e', found'⟩ := found_of_attempt (attempts_added added mem)
  have isLesson := lesson_of_found found
  have isLesson' := lesson_of_found found'
  have sameLesson : e'.lesson = e.lesson := by
    have same : db'.lessons = db.lessons := by rw [(createPodmanGrade_ok added).2]
    rw [same, isLesson] at isLesson'
    exact (Option.some.inj isLesson').symm
  refine ⟨e', found', report_noWorse l sameLesson (fun num inRange => ?_) fun num _ => ⟨?_, ?_⟩⟩
  · intro m mem
    have attempt := mark_mem found mem
    have best := improve e'.lesson (mem_of_find? isLesson') num (sameLesson ▸ inRange)
    rw [show e'.lesson.id = l from key_of_find? isLesson'] at best
    obtain ⟨k, kept, le⟩ := kept_best found' recorded best (attempts_added added attempt)
    have graded := attempts_graded (recorded.before added) m attempt
    have graded' := attempts_graded recorded k (mark_mem found' kept)
    exact ⟨k, kept, le, fun pass => graded'.passed.mpr ((graded.passed.mp pass).trans le)⟩
  · exact fun m mem => attempts_graded (recorded.before added) m (mark_mem found mem)
  · exact fun m mem => attempts_graded recorded m (mark_mem found' mem)

/-- One more attempt never hurts if and only if, with it, the last passed attempt at every podman is
the best of the passed ones. -/
theorem retake_never_hurts_iff (recorded : AllRecorded db')
    (added : db.createPodmanGrade row = .ok db') {ref : StudentRef}
    {user : Option RequestingUser} {card card' : ReportCard}
    (before : getStudentReportCard db t ref year user = .ok card)
    (after : getStudentReportCard db' t ref year user = .ok card') :
    NeverHurts db' t year card card' ↔ RetakesImprove db' t card'.studentId year := by
  have sameStudent : card.studentId = card'.studentId := by
    obtain ⟨student, resolved, is⟩ := card_student before
    obtain ⟨student', resolved', is'⟩ := card_student after
    rw [resolveStudent_added added, resolved] at resolved'
    rw [is, is', Option.some.inj resolved']
  constructor
  · rintro ⟨-, keeps⟩ lesson mem num inRange
    by_cases none : attempts db' t card'.studentId year lesson.id num = []
    · rw [none]
      rintro _ ⟨⟩
    · obtain ⟨m, attempt⟩ := List.exists_mem_of_ne_nil _ none
      obtain ⟨e, found⟩ := found_of_attempt attempt
      have isLesson := lesson_of_found found
      rw [show db'.lessons.find? lesson.id = some lesson from find?_key _ mem] at isLesson
      rw [Option.some.inj isLesson] at inRange
      exact best_of_keepsBest found recorded (keeps _ (card_lists after found) rfl) inRange
  · intro improve
    refine ⟨fun entry listed modular => ?_, fun entry listed modular => ?_⟩
    · obtain ⟨e, found, isEntry⟩ := card_spec before listed modular
      rw [sameStudent] at found
      obtain ⟨e', found', noWorse⟩ := noWorse_of recorded added improve found
      refine ⟨modularReport entry.lessonId e', card_lists after found', rfl, rfl, ?_⟩
      rw [isEntry]
      exact noWorse
    · obtain ⟨e, found, isEntry⟩ := card_spec after listed modular
      rw [isEntry]
      exact keepsBest_of found recorded improve

end

/-! ### What is recorded -/

theorem AllRecorded.create {db db' : Db} (all : AllRecorded db) {row : PodmanGrade}
    (own : row.Recorded) (added : db.createPodmanGrade row = .ok db') : AllRecorded db' := by
  intro g mem
  rw [(createPodmanGrade_ok added).1] at mem
  rcases List.mem_append.mp mem with old | new
  · exact all g old
  · rw [List.mem_singleton.mp new]
    exact own

/-! ### A podman passed twice -/

namespace Bench

/-- A lesson of one podman, passed with 18. -/
def tables : Tables where
  academicYears := .of [{ id := 1 }]
  users := .of [{ id := 10 }]
  students := .of [{ id := 1, tenantId := 1, userId := 11 }]
  teachers := .of [{ id := 1, tenantId := 1, userId := 10 }]
  classrooms := .of [{ id := 1, tenantId := 1, academicYearId := 1 }]
  lessons := .of [{ id := 1, tenantId := 1, isModular := true, podmanCount := 1 }]
  podmans := .of [{ id := 1, tenantId := 1, lessonId := 1, number := 1, title := "پودمان 1" }]
  podmanGrades := .of
    [{ id := 1, tenantId := 1, academicYearId := 1, classroomId := 1, lessonId := 1, podmanId := 1,
       studentId := 1, teacherId := 1, continuousScore := 3, competencyScore := 3, finalScore := 18,
       isPassed := true, date := 0, recordedById := 10 }]

def db : Db := ⟨tables, by constructor <;> decide⟩

/-- A retake on a later day. -/
def retake (continuousScore : ℚ) (competencyScore : ℤ) (finalScore : ℚ) : PodmanGrade where
  id := 0
  tenantId := 1
  academicYearId := 1
  classroomId := 1
  lessonId := 1
  podmanId := 1
  studentId := 1
  teacherId := 1
  continuousScore
  competencyScore
  finalScore
  isPassed := true
  attemptType := "RETAKE_1"
  date := 86400000
  recordedById := 10

theorem recorded : AllRecorded db := by
  intro g mem
  rw [List.mem_singleton.mp mem]
  exact ⟨⟨1, 3, 3, none, by norm_num, by decide⟩, rfl, rfl, by decide +kernel, by decide +kernel⟩

end Bench

/-- A retake with 20. -/
theorem retake_never_hurts_better :
    ∃ db', Bench.db.createPodmanGrade (Bench.retake 5 3 20) = .ok db' ∧
      ∃ card, getStudentReportCard Bench.db 1 (.id 1) none none = .ok card ∧
        ∃ card', getStudentReportCard db' 1 (.id 1) none none = .ok card' ∧
          NeverHurts db' 1 none card card' := by
  have returns : Returns (Bench.db.createPodmanGrade (Bench.retake 5 3 20)) fun db' =>
      Returns (getStudentReportCard Bench.db 1 (.id 1) none none) fun _ =>
        Returns (getStudentReportCard db' 1 (.id 1) none none) fun card' =>
          card'.studentId = 1 ∧ RetakesImprove db' 1 1 none := by
    decide +kernel
  obtain ⟨db', added, returns⟩ := returns.exists
  obtain ⟨card, before, returns⟩ := returns.exists
  obtain ⟨card', after, ofStudent, improve⟩ := returns.exists
  have recorded : AllRecorded db' := Bench.recorded.create
    ⟨⟨1, 5, 3, none, by norm_num, by decide⟩, rfl, rfl, by decide +kernel, by decide +kernel⟩ added
  exact ⟨db', added, card, before, card', after,
    (retake_never_hurts_iff recorded added before after).mpr (ofStudent.symm ▸ improve)⟩

/-- After a retake with 13 the report card shows 13 for the podman that was passed with 18. -/
theorem not_retake_never_hurts :
    ∃ db', Bench.db.createPodmanGrade (Bench.retake 3 2 13) = .ok db' ∧ AllRecorded db' ∧
      ∃ card, getStudentReportCard Bench.db 1 (.id 1) none none = .ok card ∧
        card.lessons.map (·.lessonAverageOutOf20) = [.finite 18] ∧
        ∃ card', getStudentReportCard db' 1 (.id 1) none none = .ok card' ∧
          card'.lessons.map (·.lessonAverageOutOf20) = [.finite 13] ∧
          ¬ NeverHurts db' 1 none card card' := by
  have returns : Returns (Bench.db.createPodmanGrade (Bench.retake 3 2 13)) fun db' =>
      Returns (getStudentReportCard Bench.db 1 (.id 1) none none) fun card =>
        Returns (getStudentReportCard db' 1 (.id 1) none none) fun card' =>
          card.lessons.map (fun r => (r.isModular, r.lessonAverageOutOf20)) = [(true, .finite 18)] ∧
            card'.lessons.map (fun r => (r.isModular, r.lessonAverageOutOf20)) =
              [(true, .finite 13)] := by
    decide +kernel
  obtain ⟨db', added, returns⟩ := returns.exists
  obtain ⟨card, before, returns⟩ := returns.exists
  obtain ⟨card', after, first, second⟩ := returns.exists
  have recorded : AllRecorded db' := Bench.recorded.create
    ⟨⟨1, 3, 2, none, by norm_num, by decide⟩, rfl, rfl, by decide +kernel, by decide +kernel⟩ added
  have averages (lessons : List LessonReport) {x : Number}
      (is : lessons.map (fun r => (r.isModular, r.lessonAverageOutOf20)) = [(true, x)]) :
      ∃ r, lessons = [r] ∧ r.isModular = true ∧ r.lessonAverageOutOf20 = x := by
    obtain ⟨r, rfl, same⟩ := List.map_eq_singleton_iff.mp is
    exact ⟨r, rfl, (Prod.mk.inj same).1, (Prod.mk.inj same).2⟩
  obtain ⟨r, lessons, modular, average⟩ := averages _ first
  obtain ⟨r', lessons', -, average'⟩ := averages _ second
  refine ⟨db', added, recorded, card, before, by simp [lessons, average], card', after,
    by simp [lessons', average'], ?_⟩
  rintro ⟨noWorse, -⟩
  obtain ⟨r'', listed, -, -, worse⟩ := noWorse r (lessons ▸ List.mem_singleton.mpr rfl) modular
  rw [lessons', List.mem_singleton] at listed
  have le := worse.average
  rw [listed, average, average'] at le
  revert le
  decide

end Rokad.Gradebook
