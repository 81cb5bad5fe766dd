import Rokad.Exams.Service

/-!
# The stored answers of a paper

What the statements do to them, with the sums of their awards taken exactly.

* `award_upsertAnswer`: an upsert replaces the award of one question;
* `awarded_upsertAnswer`: and moves the sum by the difference;
* `awarded_upserts`: so a list of upserts stores the sum of its awards less the awards that a later
  record of the list replaced.
-/

namespace Rokad.Exams

open Rokad.Base Rokad.Common

theorem AnswerUpdate.question (data : AnswerUpdate) (a : ExamAnswer) :
    (data.set a).questionId = a.questionId := by
  have same := data.unique a a
  simp only [Record.clash, beq_self_eq_true, Bool.and_self, Bool.and_eq_true, beq_iff_eq] at same
  exact same.2

/-- What the answers are awarded in all. -/
def awarded (answers : List ExamAnswer) : ℚ := (answers.map (·.scoreAwarded.getD 0)).sum

namespace Db

variable {db db' : Db}

/-- A paper has one answer to a question. -/
theorem answer?_eq_some_iff {p q : Id} {a : ExamAnswer} :
    db.answer? p q = some a ↔ a ∈ db.answers.rows ∧ a.participationId = p ∧ a.questionId = q := by
  constructor
  · intro found
    have hit := List.find?_some found
    exact ⟨List.mem_of_find?_eq_some found, by simpa using hit⟩
  · rintro ⟨mem, rfl, rfl⟩
    cases found : db.answer? a.participationId a.questionId with
    | none =>
      have miss := List.find?_eq_none.mp found a mem
      simp at miss
    | some b =>
      have hit := List.find?_some found
      simp only [decide_eq_true_eq] at hit
      have memB := List.mem_of_find?_eq_some found
      by_cases same : Record.key b = Record.key a
      · rw [db.answers.eq_of_key_eq memB mem same]
      · have clear := db.answers.no_clash b memB a mem same
        simp [Record.clash, hit] at clear

theorem mem_answersOf {p : Id} {a : ExamAnswer} :
    a ∈ db.answersOf p ↔ a ∈ db.answers.rows ∧ a.participationId = p := by
  simp [answersOf]

/-- The answers of a paper are to different questions. -/
theorem answersOf_nodup (db : Db) (p : Id) : ((db.answersOf p).map (·.questionId)).Nodup := by
  refine (List.nodup_map_iff_inj_on (db.answers.keys_nodup.of_map.filter _)).mpr ?_
  intro a memA b memB same
  obtain ⟨inA, ofA⟩ := mem_answersOf.mp memA
  obtain ⟨inB, ofB⟩ := mem_answersOf.mp memB
  have foundA := answer?_eq_some_iff.mpr ⟨inA, ofA, rfl⟩
  have foundB := answer?_eq_some_iff.mpr ⟨inB, ofB, same.symm⟩
  exact Option.some.inj (foundA.symm.trans foundB)

/-- What the stored answer to a question is awarded. -/
def award (db : Db) (p q : Id) : ℚ := ((db.answer? p q).bind (·.scoreAwarded)).getD 0

/-- The answers' column that the awards of a paper sum. -/
def column (p : Id) (a : ExamAnswer) : ℚ
    := if a.participationId = p then a.scoreAwarded.getD 0 else 0

theorem awarded_answersOf (db : Db) (p : Id) :
    awarded (db.answersOf p) = (db.answers.rows.map (column p)).sum := by
  unfold awarded answersOf
  induction db.answers.rows with
  | nil => rfl
  | cons a rows ih =>
    by_cases hit : a.participationId = p
    · simp [column, hit, ih]
    · simp [column, hit, ih]

section

variable {k : Id} {data : AnswerUpdate} (done : db.updateAnswer k data = .ok db')

include done

theorem mem_updateAnswer {a : ExamAnswer} :
    a ∈ db'.answers.rows ↔ (a ∈ db.answers.rows ∧ a.id ≠ k) ∨
      ∃ row, db.answers.find? k = some row ∧ a = data.set row :=
  mem_update (updateAnswer_ok done).1

theorem answer?_updateAnswer (p q : Id) :
    db'.answer? p q = (db.answer? p q).map fun a => if a.id = k then data.set a else a := by
  obtain ⟨row, -, -, rows⟩ := Table.update_spec.mp (updateAnswer_ok done).1
  unfold answer?
  rw [rows, List.find?_map]
  congr 2
  funext a
  simp only [Function.comp]
  split
  · rw [data.participation, data.question]
  · rfl

end

theorem answer?_createAnswer {row : ExamAnswer} (done : db.createAnswer row = .ok db') (p q : Id) :
    db'.answer? p q = (db.answer? p q).or
      (if row.participationId = p ∧ row.questionId = q then some { row with id := db.answers.fresh }
        else none) := by
  obtain ⟨rows, -, -⟩ := insert_spec.mp (createAnswer_ok done).1
  unfold answer?
  rw [rows, List.find?_append]
  congr 1
  simp only [List.find?_singleton, decide_eq_true_eq]

end Db

/-! ### Upserts -/

variable {db db' : Db} {record : ExamAnswer}

section

variable (done : upsertAnswer db record = .ok db')
include done

/-- An upsert leaves the papers alone and stores the record as the answer to its question. -/
theorem upsertAnswer_ok :
    db'.participations = db.participations ∧
      ∀ a ∈ db'.answers.rows, a ∈ db.answers.rows ∨
        a.participationId = record.participationId ∧ a.questionId = record.questionId ∧
          a.scoreAwarded = record.scoreAwarded := by
  unfold upsertAnswer at done
  split at done
  · rename_i stored found
    obtain ⟨mem, ofPaper, ofQuestion⟩ := Db.answer?_eq_some_iff.mp found
    refine ⟨(Db.updateAnswer_ok done).2, fun a memA => ?_⟩
    rcases (Db.mem_updateAnswer done).mp memA with ⟨kept, -⟩ | ⟨row, isRow, rfl⟩
    · exact .inl kept
    · have same : row = stored := db.answers.eq_of_key_eq (mem_of_find? isRow) mem
        (key_of_find? isRow)
      exact .inr ⟨same ▸ ofPaper, same ▸ ofQuestion, rfl⟩
  · refine ⟨(Db.createAnswer_ok done).2, fun a memA => ?_⟩
    rcases (mem_insert (Db.createAnswer_ok done).1).mp memA with kept | rfl
    · exact .inl kept
    · exact .inr ⟨rfl, rfl, rfl⟩

theorem award_upsertAnswer (q : Id) :
    db'.award record.participationId q =
      if record.questionId = q then record.scoreAwarded.getD 0
      else db.award record.participationId q := by
  unfold upsertAnswer at done
  split at done
  · rename_i stored found
    have isStored := Db.answer?_eq_some_iff.mp found
    unfold Db.award
    rw [Db.answer?_updateAnswer done]
    by_cases same : record.questionId = q
    · subst same
      simp [found]
    · rw [if_neg same]
      congr 2
      cases other : db.answer? record.participationId q with
      | none => rfl
      | some a =>
        have isA := Db.answer?_eq_some_iff.mp other
        have differ : a.id ≠ stored.id := fun one => same <| by
          have eq := db.answers.eq_of_key_eq isA.1 isStored.1 one
          rw [← isStored.2.2, ← eq, isA.2.2]
        rw [Option.map_some, if_neg differ]
  · rename_i missing
    unfold Db.award
    rw [Db.answer?_createAnswer done]
    by_cases same : record.questionId = q
    · subst same
      simp [missing]
    · simp [same]

theorem awarded_upsertAnswer :
    awarded (db'.answersOf record.participationId) + db.award record.participationId record.questionId =
      awarded (db.answersOf record.participationId) + record.scoreAwarded.getD 0 := by
  rw [Db.awarded_answersOf, Db.awarded_answersOf]
  unfold upsertAnswer at done
  unfold Db.award
  split at done
  · rename_i stored found
    obtain ⟨mem, ofPaper, -⟩ := Db.answer?_eq_some_iff.mp found
    rw [Table.sum_update (Db.updateAnswer_ok done).1 (db.answers.find?_key mem), found]
    simp only [Db.column, ofPaper, ↓reduceIte, Option.bind_some]
    ring
  · rename_i missing
    rw [Table.sum_insert (Db.createAnswer_ok done).1, missing]
    simp [Db.column]

end

/-- The awards, given or stored as `old`, that records of the list replace. -/
def superseded : (Id → ℚ) → List ExamAnswer → ℚ
  | _, [] => 0
  | old, r :: rs =>
    old r.questionId + superseded (Function.update old r.questionId (r.scoreAwarded.getD 0)) rs

/-- Nothing is replaced exactly if what a record replaces was worth nothing. -/
theorem superseded_eq_zero_iff {old : Id → ℚ} {records : List ExamAnswer} (nonneg : ∀ q, 0 ≤ old q)
    (awards : ∀ r ∈ records, 0 ≤ r.scoreAwarded.getD 0) :
    0 ≤ superseded old records ∧ (superseded old records = 0 ↔
      (∀ r ∈ records, old r.questionId = 0) ∧
        records.Pairwise fun r s => r.questionId = s.questionId → r.scoreAwarded.getD 0 = 0) := by
  induction records generalizing old with
  | nil => simp [superseded]
  | cons r rs ih =>
    have award := awards r List.mem_cons_self
    obtain ⟨rest, exact⟩ := @ih
      (Function.update old r.questionId (r.scoreAwarded.getD 0))
      (fun q => by
        by_cases same : q = r.questionId
        · subst same
          simpa using award
        · simpa [same] using nonneg q)
      fun s mem => awards s (List.mem_cons_of_mem _ mem)
    refine ⟨add_nonneg (nonneg _) rest, ?_⟩
    rw [superseded, add_eq_zero_iff_of_nonneg (nonneg _) rest, exact, List.pairwise_cons,
      List.forall_mem_cons]
    constructor
    · rintro ⟨first, later, pairwise⟩
      refine ⟨⟨first, fun s mem => ?_⟩, fun s mem same => ?_, pairwise⟩
      · by_cases same : s.questionId = r.questionId
        · rw [same]
          exact first
        · simpa [same] using later s mem
      · simpa [same] using later s mem
    · rintro ⟨⟨first, later⟩, heads, pairwise⟩
      refine ⟨first, fun s mem => ?_, pairwise⟩
      by_cases same : s.questionId = r.questionId
      · simpa [same] using heads s mem same.symm
      · simpa [same] using later s mem

variable {records : List ExamAnswer} {p : Id}

theorem upserts_ok (ofPaper : ∀ r ∈ records, r.participationId = p)
    (done : inTurn upsertAnswer db records = .ok db') :
    db'.participations = db.participations ∧
      ∀ a ∈ db'.answers.rows, a ∈ db.answers.rows ∨ a.participationId = p ∧
        ∃ r ∈ records, a.questionId = r.questionId ∧ a.scoreAwarded = r.scoreAwarded := by
  refine inTurn_keeps (I := fun x => x.participations = db.participations ∧
    ∀ a ∈ x.answers.rows, a ∈ db.answers.rows ∨ a.participationId = p ∧
      ∃ r ∈ records, a.questionId = r.questionId ∧ a.scoreAwarded = r.scoreAwarded) ?_ done
    ⟨rfl, fun _ mem => .inl mem⟩
  intro x r x' mem upserted ⟨same, from_⟩
  obtain ⟨kept, stored⟩ := upsertAnswer_ok upserted
  refine ⟨kept.trans same, fun a memA => ?_⟩
  rcases stored a memA with old | ⟨paper, question, award⟩
  · exact from_ a old
  · exact .inr ⟨paper.trans (ofPaper r mem), r, mem, question, award⟩

/-- **Upserted awards.** The stored answers sum to what was there and what was given, less what was
replaced. -/
theorem awarded_upserts (ofPaper : ∀ r ∈ records, r.participationId = p)
    (done : inTurn upsertAnswer db records = .ok db') :
    awarded (db'.answersOf p) + superseded (db.award p) records =
      awarded (db.answersOf p) + awarded records := by
  induction records generalizing db with
  | nil =>
    cases done
    simp [superseded, awarded]
  | cons r rs ih =>
    obtain ⟨next, first, rest⟩ := bind_eq_ok.mp done
    obtain rfl : r.participationId = p := ofPaper r List.mem_cons_self
    have later := ih (fun s mem => ofPaper s (List.mem_cons_of_mem _ mem)) rest
    have moved := awarded_upsertAnswer first
    have awards : next.award r.participationId =
        Function.update (db.award r.participationId) r.questionId (r.scoreAwarded.getD 0) := by
      funext q
      rw [award_upsertAnswer first, Function.update_apply]
      simp only [eq_comm]
    rw [awards] at later
    have cons : awarded (r :: rs) = r.scoreAwarded.getD 0 + awarded rs := by simp [awarded]
    rw [superseded, cons]
    linarith

end Rokad.Exams
