import Rokad.Base.Doubles
import Rokad.Gradebook.Service

/-!
# A lesson in podmans, twice

The report card and the matrix keep the same attempt at every podman (`kept_report`, `kept_matrix`),
and count the same podmans passed and missing. Their averages are of the same total, but the report
card divides it by the number of podmans and the matrix by the number of those that are graded: they
agree when all are graded or none is (`report_agrees_matrix`), and not in between
(`not_report_agrees_matrix`).
-/

namespace Rokad.Gradebook

open Rokad.Base Rokad.Common

/-! ### The attempt that counts -/

/-- What both programs look at in a grade. -/
structure Mark where
  isPassed : Bool
  finalScore : ℚ

def PodmanGrade.mark (g : PodmanGrade) : Mark := ⟨g.isPassed, g.finalScore⟩

def MatrixGrade.mark (g : MatrixGrade) : Mark := ⟨g.isPassed, g.finalScore⟩

@[simp] theorem PodmanGrade.mark_shown (g : PodmanGrade) : g.shown.mark = g.mark := rfl

/-- A passed attempt replaces any, and a better one replaces one that is not passed. -/
def Mark.replaces (next m : Mark) : Bool :=
  next.isPassed || (!m.isPassed && m.finalScore < next.finalScore)

/-- The attempt that counts after one more. -/
def Mark.keep (current : Option Mark) (next : Mark) : Option Mark :=
  match current with
  | none => some next
  | some m => if next.replaces m then some next else some m

/-- Of the grades, in order, the one that counts for a podman. -/
def kept (num : ℤ) (grades : List GradedPodman) : Option Mark :=
  (grades.filter (·.podman.number = num)).foldl (fun m g => Mark.keep m g.grade.mark) none

/-- A fold seen through a view that only some elements move. -/
theorem foldl_view {σ α β : Type} {f : σ → α → σ} {V : σ → β} {g : β → α → β} {p : α → Bool}
    (moves : ∀ s x, V (f s x) = if p x then g (V s) x else V s) (xs : List α) (s : σ) :
    V (xs.foldl f s) = (xs.filter p).foldl g (V s) := by
  induction xs generalizing s with
  | nil => rfl
  | cons x xs ih =>
    rw [List.foldl_cons, ih, moves]
    by_cases hit : p x = true <;> simp [hit]

/-- The mark the report card has for a podman of a lesson. -/
def reportMark (l : Id) (num : ℤ) (map : Dict Id PodmanLesson) : Option Mark :=
  ((map.get? l).bind fun e => e.podmanGrades.get? num).map (·.grade.mark)

/-- The mark the matrix has for a podman of a student. -/
def matrixMark (s : Id) (num : ℤ) (map : Dict Id (Dict ℤ MatrixGrade)) : Option Mark :=
  ((map.get? s).bind fun grades => grades.get? num).map (·.mark)

theorem reportMark_add (l : Id) (num : ℤ) (map : Dict Id PodmanLesson) (pg : GradedPodman) :
    reportMark l num (addPodmanGrade map pg) =
      if pg.grade.lessonId = l ∧ pg.podman.number = num then
        Mark.keep (reportMark l num map) pg.grade.mark
      else reportMark l num map := by
  unfold reportMark addPodmanGrade
  dsimp only
  rw [Dict.get?_set]
  by_cases lesson : pg.grade.lessonId = l
  · subst lesson
    by_cases number : pg.podman.number = num
    · subst number
      cases entry : map.get? pg.grade.lessonId with
      | none => simp [Dict.get?_set, Mark.keep]
      | some e =>
        cases existing : e.podmanGrades.get? pg.podman.number with
        | none => simp [existing, Dict.get?_set, Mark.keep]
        | some g =>
          have same : (pg.grade.isPassed || (!g.grade.isPassed &&
              decide (g.grade.finalScore < pg.grade.finalScore))) =
            pg.grade.mark.replaces g.grade.mark := rfl
          simp only [Option.getD_some, existing, same, Mark.keep]
          cases wins : pg.grade.mark.replaces g.grade.mark <;>
          simp [existing, Dict.get?_set, wins]
    · cases entry : map.get? pg.grade.lessonId with
      | none => simp [Dict.get?_set, number]
      | some e => split_ifs <;> simp_all [Dict.get?_set]
  · simp [lesson]

theorem matrixMark_add (s : Id) (num : ℤ) (map : Dict Id (Dict ℤ MatrixGrade))
    (g : GradedPodman) :
    matrixMark s num (addMatrixGrade map g) =
      if g.grade.studentId = s ∧ g.podman.number = num then
        Mark.keep (matrixMark s num map) g.grade.mark
      else matrixMark s num map := by
  unfold matrixMark addMatrixGrade
  dsimp only
  rw [Dict.get?_set]
  by_cases student : g.grade.studentId = s
  · subst student
    by_cases number : g.podman.number = num
    · subst number
      cases entry : map.get? g.grade.studentId with
      | none => simp [Dict.get?_set, Mark.keep]
      | some grades =>
        cases existing : grades.get? g.podman.number with
        | none => simp [existing, Dict.get?_set, Mark.keep]
        | some current =>
          have same : (g.grade.isPassed || (!current.isPassed &&
              decide (current.finalScore < g.grade.finalScore))) =
            g.grade.mark.replaces current.mark := rfl
          simp only [Option.getD_some, existing, same, Mark.keep]
          cases wins : g.grade.mark.replaces current.mark <;>
          simp [existing, Dict.get?_set, wins]
    · cases entry : map.get? g.grade.studentId with
      | none => simp [Dict.get?_set, number]
      | some grades => split_ifs <;> simp_all [Dict.get?_set]
  · simp [student]

theorem kept_report (l : Id) (num : ℤ) (grades : List GradedPodman) :
    reportMark l num (grades.foldl addPodmanGrade .empty) =
      kept num (grades.filter (·.grade.lessonId = l)) := by
  have moves (map : Dict Id PodmanLesson) (pg : GradedPodman) :
      reportMark l num (addPodmanGrade map pg) =
        if decide (pg.podman.number = num) && decide (pg.grade.lessonId = l) then
          Mark.keep (reportMark l num map) pg.grade.mark
        else reportMark l num map := by
    simp only [reportMark_add, Bool.and_eq_true, decide_eq_true_eq, and_comm]
  rw [foldl_view (V := reportMark l num) (g := fun m pg => Mark.keep m pg.grade.mark) moves, kept,
    List.filter_filter]
  rfl

theorem kept_matrix (s : Id) (num : ℤ) (grades : List GradedPodman) :
    matrixMark s num (grades.foldl addMatrixGrade .empty) =
      kept num (grades.filter (·.grade.studentId = s)) := by
  have moves (map : Dict Id (Dict ℤ MatrixGrade)) (g : GradedPodman) :
      matrixMark s num (addMatrixGrade map g) =
        if decide (g.podman.number = num) && decide (g.grade.studentId = s) then
          Mark.keep (matrixMark s num map) g.grade.mark
        else matrixMark s num map := by
    simp only [matrixMark_add, Bool.and_eq_true, decide_eq_true_eq, and_comm]
  rw [foldl_view (V := matrixMark s num) (g := fun m g => Mark.keep m g.grade.mark) moves, kept,
    List.filter_filter]
  rfl

/-! ### The counts -/

/-- The scores that are shown, summed in their order. -/
def totalOf (details : List PodmanDetail) : Number :=
  (details.filterMap (·.finalScore)).foldl (fun total score => total.add (.finite score))
    (.finite 0)

/-- Over `n` podmans, the two programs have counted alike. -/
structure SameTally (n : ℕ) (r : ReportTally) (m : MatrixTally) : Prop where
  total : r.totalPodmanScore = m.totalScore
  shown : totalOf r.podmanDetails = r.totalPodmanScore
  unpassed : r.unpassedNumbers = m.unpassedPodmans
  passed_le : r.passedCount ≤ m.completedCount
  completed_le : m.completedCount ≤ n
  allPassed : m.allPassed = true ↔ r.passedCount = n
  untouched : m.completedCount = 0 → m.totalScore = .finite 0

theorem sameTally {rs : Dict ℤ GradedPodman} {ms : Dict ℤ MatrixGrade} {nums : List ℤ}
    (same : ∀ num ∈ nums, (rs.get? num).map (·.grade.mark) = (ms.get? num).map (·.mark)) :
    SameTally nums.length (nums.foldl (reportPodman rs) {}) (nums.foldl (matrixPodman ms) {}) := by
  induction nums using List.reverseRecOn with
  | nil => exact ⟨rfl, rfl, rfl, le_rfl, le_rfl, by simp, fun _ => rfl⟩
  | append_singleton rest num ih =>
    have before := ih fun n mem => same n (List.mem_append_left _ mem)
    have here := same num (List.mem_append_right _ (List.mem_singleton.mpr rfl))
    simp only [List.foldl_append, List.foldl_cons, List.foldl_nil, List.length_append,
      List.length_singleton]
    generalize rest.foldl (reportPodman rs) {} = r at before
    generalize rest.foldl (matrixPodman ms) {} = m at before
    obtain ⟨total, shown, unpassed, passed_le, completed_le, allPassed, untouched⟩ := before
    unfold totalOf at shown
    unfold reportPodman matrixPodman
    cases ofReport : rs.get? num with
    | none =>
      rw [ofReport] at here
      rw [Option.map_eq_none_iff.mp here.symm]
      exact ⟨total, by simpa [totalOf] using shown, by rw [unpassed], passed_le,
        completed_le.trans (Nat.le_succ _), by simp; omega, untouched⟩
    | some pGrade =>
      rw [ofReport] at here
      obtain ⟨pg, ofMatrix, marks⟩ := Option.map_eq_some_iff.mp here.symm
      rw [ofMatrix]
      have passed : pg.isPassed = pGrade.grade.isPassed := congrArg Mark.isPassed marks
      have score : pg.finalScore = pGrade.grade.finalScore := congrArg Mark.finalScore marks
      dsimp only
      rw [passed, score]
      refine ⟨by rw [total], by simp [totalOf, shown], by rw [unpassed], ?_,
        Nat.succ_le_succ completed_le, ?_, by simp⟩
      · dsimp only
        split <;> omega
      · cases pGrade.grade.isPassed with
        | true => simp [allPassed]
        | false => simp; omega

theorem length_numbers (n : ℤ) : (numbers n).length = n.toNat := by simp [numbers]

theorem Lesson.podmans_ne_zero (l : Lesson) : l.podmans ≠ 0 := by
  unfold Lesson.podmans
  split_ifs with zero
  · norm_num
  · exact zero

theorem round2_zero : round2 (.finite 0) = .finite 0 := by decide +kernel

theorem div_of_zero {n : ℤ} (nonzero : n ≠ 0) :
    (Number.finite 0).div (.finite (n : ℚ)) = .finite 0 := by
  have zero : toDouble 0 = .finite 0 := by decide +kernel
  simp [Number.div, nonzero, zero]

/-- What the two programs report of one student and one lesson, when they keep the same attempts. -/
theorem reports_agree {entry : PodmanLesson} {ms : Dict ℤ MatrixGrade} (l s : Id)
    (same : ∀ num, (entry.podmanGrades.get? num).map (·.grade.mark) = (ms.get? num).map (·.mark)) :
    let report := modularReport l entry
    let row := matrixRow entry.lesson.podmans s ms
    report.isPassed = row.allPodmansPassed ∧
      report.unpassedPodmanNumbers = some row.unpassedPodmanNumbers ∧
      let total := totalOf (report.podmans.getD [])
      report.lessonAverageOutOf20 = round2 (total.div (.finite entry.lesson.podmans)) ∧
        row.lessonAverageOutOf20 = (if row.completedPodmanCount = 0 then .finite 0
          else round2 (total.div (.finite row.completedPodmanCount))) ∧
        (row.completedPodmanCount = 0 → total = .finite 0) := by
  intro report row
  have nonzero := entry.lesson.podmans_ne_zero
  have tally := @sameTally entry.podmanGrades ms (numbers entry.lesson.podmans)
    fun num _ => same num
  rw [length_numbers] at tally
  have isReport : report = modularReport l entry := rfl
  have isRow : row = matrixRow entry.lesson.podmans s ms := rfl
  unfold modularReport at isReport
  unfold matrixRow at isRow
  dsimp only at isReport isRow
  generalize (numbers entry.lesson.podmans).foldl (reportPodman entry.podmanGrades) {} = r at *
  generalize (numbers entry.lesson.podmans).foldl (matrixPodman ms) {} = m at *
  obtain ⟨total, shown, unpassed, passed_le, completed_le, allPassed, untouched⟩ := tally
  rw [isReport, isRow]
  dsimp only [Option.getD_some]
  rw [shown, total]
  refine ⟨?_, by rw [unpassed], rfl, ?_, untouched⟩
  · rw [Bool.eq_iff_iff, Bool.and_eq_true, allPassed, decide_eq_true_eq, decide_eq_true_eq]
    omega
  · by_cases complete : (m.completedCount : ℤ) = entry.lesson.podmans
    · have some : m.completedCount ≠ 0 := by omega
      have positive : 0 < m.completedCount := Nat.pos_of_ne_zero some
      have cast : ((entry.lesson.podmans : ℤ) : ℚ) = (m.completedCount : ℚ) := by
        rw [← complete]
        norm_cast
      rw [if_neg some, if_pos positive, cast, ite_self]
    · simp only [complete, decide_false, Bool.false_and, Bool.false_eq_true, if_false]
      by_cases none : m.completedCount = 0
      · simp [none]
      · rw [if_neg none, if_pos (Nat.pos_of_ne_zero none)]

/-! ### The grades of one student in one lesson -/

section

variable {db db' : Db}

theorem withPodman_spec {g : PodmanGrade} {x : GradedPodman} (found : db.withPodman g = some x) :
    x.grade = g ∧ db.lessons.find? g.lessonId = some x.lesson := by
  simp only [Db.withPodman, Option.bind_eq_bind, Option.bind_eq_some_iff, Option.pure_def,
    Option.some.injEq] at found
  obtain ⟨lesson, isLesson, podman, -, rfl⟩ := found
  exact ⟨rfl, isLesson⟩

theorem filter_withPodman (q : PodmanGrade → Bool) (rows : List PodmanGrade) :
    (rows.filterMap db.withPodman).filter (fun x => q x.grade) =
      (rows.filter q).filterMap db.withPodman := by
  induction rows with
  | nil => rfl
  | cons g rows ih =>
    cases found : db.withPodman g with
    | none =>
      rw [List.filterMap_cons_none found, ih]
      by_cases hit : q g = true <;> simp [hit, found]
    | some x =>
      rw [List.filterMap_cons_some found]
      have isGrade := (withPodman_spec found).1
      by_cases hit : q g = true <;> simp [hit, found, isGrade, ih]

/-- Rows of distinct dates come in one order, whichever way they are asked for. -/
theorem sorted_eq {rows : List PodmanGrade} {p p' q q' : PodmanGrade → Bool}
    (agree : ∀ g ∈ rows, (q g && p g) = (q' g && p' g))
    (dates : ∀ g ∈ rows, ∀ g' ∈ rows, (q g && p g) = true → (q g' && p g') = true →
      g.date = g'.date → g = g') :
    ((rows.filter p).insertionSort fun a b => a.date ≤ b.date).filter q =
      ((rows.filter p').insertionSort fun a b => a.date ≤ b.date).filter q' := by
  have trans : IsTrans PodmanGrade fun a b => a.date ≤ b.date := ⟨fun _ _ _ => le_trans⟩
  have total : Std.Total fun a b : PodmanGrade => a.date ≤ b.date := ⟨fun _ _ => le_total _ _⟩
  have members {p q : PodmanGrade → Bool} {g : PodmanGrade}
      (mem : g ∈ ((rows.filter p).insertionSort fun a b => a.date ≤ b.date).filter q) :
      g ∈ rows ∧ (q g && p g) = true := by
    rw [List.mem_filter, List.mem_insertionSort, List.mem_filter] at mem
    exact ⟨mem.1.1, by rw [mem.2, mem.1.2]; rfl⟩
  refine List.Perm.eq_of_pairwise ?_
    ((List.pairwise_insertionSort _ _).filter _) ((List.pairwise_insertionSort _ _).filter _) ?_
  · intro a b ofA ofB le ge
    obtain ⟨inA, isA⟩ := members ofA
    obtain ⟨inB, isB⟩ := members ofB
    exact dates a inA b inB isA ((agree b inB).trans isB) (le_antisymm le ge)
  · refine ((List.perm_insertionSort _ _).filter q).trans
      (List.Perm.trans ?_ ((List.perm_insertionSort _ _).filter q').symm)
    rw [List.filter_filter, List.filter_filter, List.filter_congr agree]

/-- The podmans that a lesson is given change no grade. -/
theorem podmanGradesOf_ensure {t : Id} {lesson : Lesson}
    (done : ensurePodmans db t lesson = .ok db') (p : PodmanGrade → Bool) :
    db'.podmanGradesOf p = db.podmanGradesOf p ∧ db'.enrollments = db.enrollments := by
  unfold ensurePodmans at done
  split at done
  · obtain ⟨kept, same⟩ := Db.createPodmans_ok done
    have grades : db'.podmanGrades = db.podmanGrades := by rw [same]
    have lessons : db'.lessons = db.lessons := by rw [same]
    refine ⟨?_, by rw [same]⟩
    unfold Db.podmanGradesOf
    rw [grades]
    refine List.filterMap_congr fun g mem => ?_
    have inTable : g ∈ db.podmanGrades.rows :=
      (List.mem_filter.mp ((List.mem_insertionSort _).mp mem)).1
    obtain ⟨podman, found⟩ := has_some_iff.mp (db.foreignKeys.podmanGrade_podman g inTable)
    unfold Db.withPodman
    rw [lessons, found, kept _ _ found]
  · cases done
    exact ⟨rfl, rfl⟩

/-- The report card has the lesson of its grades. -/
theorem reported_lesson {grades : List GradedPodman} {map : Dict Id PodmanLesson}
    (looked : ∀ pg ∈ grades, db.lessons.find? pg.grade.lessonId = some pg.lesson)
    (start : ∀ l e, map.get? l = some e → db.lessons.find? l = some e.lesson) {l : Id}
    {e : PodmanLesson} (found : (grades.foldl addPodmanGrade map).get? l = some e) :
    db.lessons.find? l = some e.lesson := by
  induction grades generalizing map with
  | nil => exact start l e found
  | cons pg grades ih =>
    refine ih (fun x mem => looked x (List.mem_cons_of_mem _ mem)) (fun l e present => ?_) found
    unfold addPodmanGrade at present
    dsimp only at present
    rw [Dict.get?_set] at present
    split at present
    · rename_i same
      cases present
      rw [← same]
      have isLesson : db.lessons.find? pg.grade.lessonId =
          some ((map.get? pg.grade.lessonId).getD { lesson := pg.lesson }).lesson := by
        cases before : map.get? pg.grade.lessonId with
        | none => exact looked pg List.mem_cons_self
        | some entry => exact start _ _ before
      split_ifs <;> exact isLesson
    · exact start l e present

theorem reported_some {grades : List GradedPodman} {map : Dict Id PodmanLesson} {l : Id}
    {e : PodmanLesson} (absent : map.get? l = none)
    (found : (grades.foldl addPodmanGrade map).get? l = some e) :
    ∃ pg ∈ grades, pg.grade.lessonId = l := by
  by_contra none
  push Not at none
  induction grades generalizing map with
  | nil => simp [absent] at found
  | cons pg grades ih =>
    refine ih ?_ found fun x mem => none x (List.mem_cons_of_mem _ mem)
    unfold addPodmanGrade
    rw [Dict.get?_set, if_neg (none pg List.mem_cons_self), absent]

end

/-! ### Agreement -/

/-- All podman grades of the student in the lesson are of one class and one year, and no two of one
date. -/
def InOneClass (db : Db) (tenantId studentId lessonId classroomId academicYearId : Id) : Prop :=
  ∀ g ∈ db.podmanGrades.rows,
    g.tenantId = tenantId ∧ g.studentId = studentId ∧ g.lessonId = lessonId →
      g.classroomId = classroomId ∧ g.academicYearId = academicYearId ∧
        ∀ g' ∈ db.podmanGrades.rows,
          g'.tenantId = tenantId ∧ g'.studentId = studentId ∧ g'.lessonId = lessonId →
            g.date = g'.date → g = g'
deriving Decidable

/-- The two programs see the same grades of the student in the lesson. -/
theorem InOneClass.same_grades {db : Db} {t s l c y : Id} (one : InOneClass db t s l c y)
    {year : Option Id} (ofYear : year.all (y = ·) = true) :
    (db.podmanGradesOf fun g =>
        g.tenantId = t ∧ g.studentId = s ∧ year.all (g.academicYearId = ·)).filter
          (·.grade.lessonId = l) =
      (db.podmanGradesOf fun g => g.tenantId = t ∧ g.classroomId = c ∧ g.lessonId = l).filter
        (·.grade.studentId = s) := by
  unfold Db.podmanGradesOf
  rw [filter_withPodman fun g => decide (g.lessonId = l),
    filter_withPodman fun g => decide (g.studentId = s)]
  congr 1
  refine sorted_eq (fun g mem => ?_) fun g mem g' mem' is is' => ?_
  · have oneOf := one g mem
    rw [Bool.eq_iff_iff]
    simp only [Bool.and_eq_true, decide_eq_true_eq]
    constructor
    · rintro ⟨lesson, tenant, student, -⟩
      exact ⟨student, tenant, (oneOf ⟨tenant, student, lesson⟩).1, lesson⟩
    · rintro ⟨student, tenant, -, lesson⟩
      obtain ⟨-, isYear, -⟩ := oneOf ⟨tenant, student, lesson⟩
      exact ⟨lesson, tenant, student, by rw [isYear]; exact ofYear⟩
  · simp only [Bool.and_eq_true, decide_eq_true_eq] at is is'
    obtain ⟨lesson, tenant, student, -⟩ := is
    obtain ⟨lesson', tenant', student', -⟩ := is'
    exact (one g mem ⟨tenant, student, lesson⟩).2.2 g' mem' ⟨tenant', student', lesson'⟩

theorem card_spec {db : Db} {t : Id} {ref : StudentRef} {year : Option Id}
    {user : Option RequestingUser} {card : ReportCard}
    (reported : getStudentReportCard db t ref year user = .ok card) {entry : LessonReport}
    (listed : entry ∈ card.lessons) (modular : entry.isModular = true) :
    ∃ e, (((db.podmanGradesOf fun g => g.tenantId = t ∧ g.studentId = card.studentId ∧
        year.all (g.academicYearId = ·)).foldl addPodmanGrade .empty).get? entry.lessonId) =
          some e ∧ entry = modularReport entry.lessonId e := by
  simp only [getStudentReportCard, do_eq_ok] at reported
  obtain ⟨student, -, rfl⟩ := reported
  dsimp only at listed ⊢
  rcases List.mem_append.mp listed with regular | inPodmans
  · obtain ⟨e, -, is⟩ := List.mem_filterMap.mp regular
    split at is
    · cases is
    · cases is
      cases modular
  · obtain ⟨⟨l, e⟩, mem, rfl⟩ := List.mem_map.mp inPodmans
    exact ⟨e, Dict.get?_eq_some_iff.mpr mem, rfl⟩

theorem matrix_spec {db db' : Db} {t c l : Id} {matrix : PodmanMatrix}
    (shown : getClassPodmanMatrix db t c l = .ok (db', matrix)) {row : MatrixRow}
    (listed : row ∈ matrix.students) :
    db.lessons.find? l = some matrix.lesson ∧ row = matrixRow matrix.lesson.podmans row.studentId
        ((((db.podmanGradesOf fun g => g.tenantId = t ∧ g.classroomId = c ∧
          g.lessonId = l).foldl addMatrixGrade .empty).get? row.studentId).getD .empty) := by
  simp only [getClassPodmanMatrix, do_eq_ok] at shown
  obtain ⟨classroom, -, lesson, isLesson, next, ensured, ⟨⟩⟩ := shown
  obtain ⟨enrolled, -, rfl⟩ := List.mem_map.mp listed
  obtain ⟨same, -⟩ := podmanGradesOf_ensure ensured fun g =>
    g.tenantId = t ∧ g.classroomId = c ∧ g.lessonId = l
  refine ⟨(Option.filter_eq_some_iff.mp isLesson).1, ?_⟩
  rw [same]
  rfl

/-- The report card and the matrix report the same podmans, and averages of one total, of the
scores that the report card shows: the report card divides it by all podmans of the lesson, the
matrix by those that are graded. -/
theorem report_agrees_matrix {db db' : Db} {t c l s y : Id} (one : InOneClass db t s l c y)
    {ref : StudentRef} {year : Option Id} {user : Option RequestingUser} {card : ReportCard}
    (reported : getStudentReportCard db t ref year user = .ok card) (ofStudent : card.studentId = s)
    {entry : LessonReport} (listed : entry ∈ card.lessons) (ofLesson : entry.lessonId = l)
    (modular : entry.isModular = true) {matrix : PodmanMatrix}
    (shown : getClassPodmanMatrix db t c l = .ok (db', matrix)) {row : MatrixRow}
    (rowListed : row ∈ matrix.students) (rowOf : row.studentId = s) :
    entry.isPassed = row.allPodmansPassed ∧
      entry.unpassedPodmanNumbers = some row.unpassedPodmanNumbers ∧
      (let total := totalOf (entry.podmans.getD [])
       entry.lessonAverageOutOf20 = round2 (total.div (.finite matrix.lesson.podmans)) ∧
        row.lessonAverageOutOf20 =
          if row.completedPodmanCount = 0 then .finite 0
          else round2 (total.div (.finite row.completedPodmanCount))) ∧
      ((row.completedPodmanCount : ℤ) = matrix.lesson.podmans ∨ row.completedPodmanCount = 0 →
        entry.lessonAverageOutOf20 = row.lessonAverageOutOf20) := by
  subst ofStudent ofLesson
  obtain ⟨e, inMap, isEntry⟩ := card_spec reported listed modular
  obtain ⟨isLesson, isRow⟩ := matrix_spec shown rowListed
  rw [rowOf] at isRow
  -- the grades are of the year that was asked for
  have ofYear : year.all (y = ·) = true := by
    obtain ⟨pg, mem, lesson⟩ := reported_some (Dict.get?_empty _) inMap
    obtain ⟨g, inRows, found⟩ := List.mem_filterMap.mp mem
    obtain ⟨isGrade, -⟩ := withPodman_spec found
    rw [List.mem_insertionSort, List.mem_filter, decide_eq_true_eq] at inRows
    obtain ⟨inTable, tenant, student, inYear⟩ := inRows
    obtain ⟨-, isYear, -⟩ := one g inTable ⟨tenant, student, isGrade ▸ lesson⟩
    rwa [isYear] at inYear
  have same := one.same_grades ofYear
  have sameLesson : e.lesson = matrix.lesson := by
    have looked : db.lessons.find? entry.lessonId = some e.lesson := by
      refine reported_lesson (fun pg mem => ?_) (by simp) inMap
      obtain ⟨g, -, found⟩ := List.mem_filterMap.mp mem
      obtain ⟨rfl, isLesson⟩ := withPodman_spec found
      exact isLesson
    exact Option.some_inj.mp (looked.symm.trans isLesson)
  have marks (num : ℤ) := (kept_report entry.lessonId num _).trans
    ((congrArg (kept num) same).trans (kept_matrix card.studentId num _).symm)
  generalize (db.podmanGradesOf _).foldl addMatrixGrade .empty = matrixMap at marks isRow
  have agree := @reports_agree e ((matrixMap.get? card.studentId).getD .empty)
    entry.lessonId card.studentId fun num => by
      have mark := marks num
      simp only [reportMark, inMap, Option.bind_some, matrixMark] at mark
      rw [mark]
      cases matrixMap.get? card.studentId <;> rfl
  rw [sameLesson] at agree
  dsimp only at agree
  rw [← isEntry, ← isRow] at agree
  obtain ⟨passed, unpassed, ofReport, ofMatrix, empty⟩ := agree
  refine ⟨passed, unpassed, ⟨ofReport, ofMatrix⟩, ?_⟩
  rintro (complete | none)
  · have nonzero := matrix.lesson.podmans_ne_zero
    have some : row.completedPodmanCount ≠ 0 := by omega
    have cast : ((matrix.lesson.podmans : ℤ) : ℚ) = (row.completedPodmanCount : ℚ) := by
      rw [← complete]
      norm_cast
    rw [ofReport, ofMatrix, if_neg some, cast]
  · rw [ofReport, ofMatrix, if_pos none, empty none, div_of_zero matrix.lesson.podmans_ne_zero,
      round2_zero]

/-! ### A student with podmans graded -/

namespace Desk

/-- A podman passed in competency 3. -/
def grade (podmanId : Id) (continuousScore finalScore : ℚ) : PodmanGrade where
  id := podmanId
  tenantId := 1
  academicYearId := 1
  classroomId := 1
  lessonId := 1
  podmanId
  studentId := 1
  teacherId := 1
  continuousScore
  competencyScore := 3
  finalScore
  isPassed := true
  date := podmanId
  recordedById := 1

/-- One class with one student, and a lesson of `podmanCount` podmans of which two can be graded. -/
def tables (podmanCount : ℤ) (podmanGrades : Table PodmanGrade) : Tables where
  students := .of [{ id := 1, tenantId := 1, userId := 1 }]
  classrooms := .of [{ id := 1, tenantId := 1, academicYearId := 1 }]
  enrollments := .of [{ id := 1, tenantId := 1, classroomId := 1, studentId := 1 }]
  lessons := .of [{ id := 1, tenantId := 1, isModular := true, podmanCount }]
  podmans := .of
    [{ id := 1, tenantId := 1, lessonId := 1, number := 1, title := "" },
     { id := 2, tenantId := 1, lessonId := 1, number := 2, title := "" }]
  podmanGrades

def five : Db := ⟨tables 5 (.of [grade 1 3 18]), by constructor <;> decide⟩

def two : Db := ⟨tables 2 (.of [grade 1 3 18, grade 2 (7 / 2) (37 / 2)]), by constructor <;> decide⟩

end Desk

/-- A lesson of two podmans, graded with 18 and 18.5. -/
theorem report_agrees_matrix_twoPodmans :
    ∃ card, getStudentReportCard Desk.two 1 (.id 1) none none = .ok card ∧
      ∃ shown, getClassPodmanMatrix Desk.two 1 1 1 = .ok shown ∧
        ∃ entry ∈ card.lessons, ∃ row ∈ shown.2.students, entry.isPassed = row.allPodmansPassed ∧
          entry.lessonAverageOutOf20 = .finite (73 / 4) ∧
          entry.lessonAverageOutOf20 = row.lessonAverageOutOf20 := by
  have returns : Returns (getStudentReportCard Desk.two 1 (.id 1) none none) fun card =>
      Returns (getClassPodmanMatrix Desk.two 1 1 1) fun shown => card.studentId = 1 ∧
        ∃ entry ∈ card.lessons, ∃ row ∈ shown.2.students, entry.lessonId = 1 ∧
          entry.isModular = true ∧ row.studentId = 1 ∧ row.completedPodmanCount = 2 ∧
          shown.2.lesson.podmans = 2 ∧ entry.lessonAverageOutOf20 = .finite (73 / 4) := by
    decide +kernel
  obtain ⟨card, reported, returns⟩ := returns.exists
  obtain ⟨⟨db', matrix⟩, shown, ofStudent, entry, listed, row, rowListed, ofLesson, modular, rowOf,
    graded, all, average⟩ := returns.exists
  have alone : InOneClass Desk.two 1 1 1 1 1 := by decide +kernel
  obtain ⟨passed, -, -, agree⟩ := report_agrees_matrix alone reported ofStudent listed ofLesson
    modular shown rowListed rowOf
  exact ⟨card, reported, (db', matrix), shown, entry, listed, row, rowListed, passed, average,
    agree (Or.inl (by rw [graded, all]; rfl))⟩

/-- One of five podmans graded with 18: the report card has 3.6 and the matrix 18. -/
theorem not_report_agrees_matrix :
    InOneClass Desk.five 1 1 1 1 1 ∧
      ∃ card, getStudentReportCard Desk.five 1 (.id 1) none none = .ok card ∧
        ∃ shown, getClassPodmanMatrix Desk.five 1 1 1 = .ok shown ∧ card.studentId = 1 ∧
          ∃ entry ∈ card.lessons, ∃ row ∈ shown.2.students, entry.lessonId = 1 ∧
            entry.isModular = true ∧ row.studentId = 1 ∧
            entry.lessonAverageOutOf20 = toDouble (36 / 10) ∧
            row.lessonAverageOutOf20 = .finite 18 := by
  refine ⟨by decide +kernel, ?_⟩
  have returns : Returns (getStudentReportCard Desk.five 1 (.id 1) none none) fun card =>
      Returns (getClassPodmanMatrix Desk.five 1 1 1) fun shown => card.studentId = 1 ∧
        ∃ entry ∈ card.lessons, ∃ row ∈ shown.2.students, entry.lessonId = 1 ∧
          entry.isModular = true ∧ row.studentId = 1 ∧
          entry.lessonAverageOutOf20 = toDouble (36 / 10) ∧
          row.lessonAverageOutOf20 = .finite 18 := by
    decide +kernel
  obtain ⟨card, reported, returns⟩ := returns.exists
  obtain ⟨shown, isShown, found⟩ := returns.exists
  exact ⟨card, reported, shown, isShown, found⟩

end Rokad.Gradebook
