import Rokad.Club.Service

/-!
# Two challenges at a time

A student should have at most two challenges in progress, and none of them twice. Both entries count
before they insert, so two calls in progress can pass the same count, or find the same challenge not
yet started (`not_atMostTwo`).

In any interleaving the limit holds exactly if every submission that is stored finds room for itself
when it is (`atMostTwo_iff`). No other write matters: nothing sets a submission back to in progress.
-/

namespace Rokad.Club

open Rokad.Base Rokad.Common

/-- A submission of the student in progress on the challenge. -/
def activeOn (studentId challengeId : Id) (s : ClubChallengeSubmission) : Bool :=
  active studentId s && s.challengeId = challengeId

structure AtMostTwo (db : Db) : Prop where
  two : ∀ studentId, db.submissions.count (active studentId) ≤ 2
  one : ∀ studentId challengeId, db.submissions.count (activeOn studentId challengeId) ≤ 1

/-- A start finds fewer than two in progress, and none on its challenge. -/
def FindsRoom : Statement → Db → Prop
  | .start _ challengeId studentId, db => ∀ id ∈ challengeId,
      db.submissions.count (active studentId) < 2 ∧ db.submissions.count (activeOn studentId id) = 0
  | _, _ => True

section

variable {db : Db}

/-- An update that puts no submission back in progress. -/
theorem AtMostTwo.update (law : AtMostTwo db) {t : Table ClubChallengeSubmission} {id : Id}
    {f : ClubChallengeSubmission → ClubChallengeSubmission}
    {keep : ∀ s, Record.key (f s) = Record.key s}
    (stays : ∀ s, (f s).status = .inProgress → s.status = .inProgress ∧
      (f s).studentId = s.studentId ∧ (f s).challengeId = s.challengeId)
    (updated : db.submissions.update id f keep = some t) :
    AtMostTwo { db with submissions := t } where
  two studentId := by
    refine (Table.count_update_le updated fun s _ meets => ?_).trans (law.two studentId)
    simp only [active, Bool.and_eq_true, decide_eq_true_eq] at meets ⊢
    obtain ⟨progress, student, -⟩ := stays s meets.2
    exact ⟨student ▸ meets.1, progress⟩
  one studentId challengeId := by
    refine (Table.count_update_le updated fun s _ meets => ?_).trans (law.one studentId challengeId)
    simp only [activeOn, active, Bool.and_eq_true, decide_eq_true_eq] at meets ⊢
    obtain ⟨progress, student, challenge⟩ := stays s meets.1.2
    exact ⟨⟨student ▸ meets.1.1, progress⟩, challenge ▸ meets.2⟩

theorem AtMostTwo.start_iff (law : AtMostTwo db) {tenantId challengeId studentId id : Id}
    {t : Table ClubChallengeSubmission}
    (inserted : db.submissions.insert { id, tenantId, challengeId, studentId } = some t) :
    AtMostTwo { db with submissions := t } ↔ db.submissions.count (active studentId) < 2 ∧
        db.submissions.count (activeOn studentId challengeId) = 0 := by
  have count := Table.count_insert inserted
  have two (k : Id) : t.count (active k) =
      db.submissions.count (active k) + if studentId = k then 1 else 0 := by
    simpa [active] using count (active k)
  have one (k c : Id) : t.count (activeOn k c) =
      db.submissions.count (activeOn k c) + if studentId = k ∧ challengeId = c then 1 else 0 := by
    simpa [active, activeOn] using count (activeOn k c)
  constructor
  · intro after
    have atMost := after.two studentId
    have once := after.one studentId challengeId
    simp only [two, one, and_self, if_true] at atMost once
    omega
  · rintro ⟨below, unstarted⟩
    refine ⟨fun k => ?_, fun k c => ?_⟩
    · have before := law.two k
      rw [two]
      split
      · rename_i own
        subst own
        omega
      · omega
    · have before := law.one k c
      rw [one]
      split
      · rename_i own
        obtain ⟨rfl, rfl⟩ := own
        omega
      · omega

end

theorem findsRoom_exact (s : Statement) (db db' : Db) (made : Id) (law : AtMostTwo db)
    (done : write s db = .ok (db', made)) : AtMostTwo db' ↔ FindsRoom s db := by
  cases s <;> simp only [write, do_eq_ok, insertRow_eq_ok, updateRow_eq_ok] at done
  case createChallenge tenantId slug =>
    obtain ⟨challenges, -, ⟨⟩⟩ := done
    exact iff_of_true ⟨law.two, law.one⟩ trivial
  case start tenantId challengeId studentId =>
    obtain ⟨id, rfl, _, -, submissions, inserted, rfl, -⟩ := done
    rw [law.start_iff inserted]
    simp [FindsRoom]
  case submit id attachments reaches =>
    obtain ⟨_, -, _, -, submissions, updated, rfl, -⟩ := done
    exact iff_of_true (law.update (fun _ progress => by cases progress) updated) trivial
  case grade id awardedGrade =>
    obtain ⟨submissions, updated, rfl, -⟩ := done
    exact iff_of_true (law.update (fun _ progress => by cases progress) updated) trivial
  case attach id attachments reaches =>
    obtain ⟨_, -, submissions, updated, rfl, -⟩ := done
    refine iff_of_true (law.update ?_ updated) trivial
    exact fun _ progress => ⟨progress, rfl, rfl⟩
  case createReport report reaches =>
    obtain ⟨_, -, _, -, reports, -, rfl, -⟩ := done
    exact iff_of_true ⟨law.two, law.one⟩ trivial

/-! ### Runs -/

section

variable {ι : Type} [DecidableEq ι] {calls : ι → Call} {db : Db} {moves : List (Move ι Unit Empty)}

def FindsRoomAt (p : Threads Db (ClubCall Reply) ι) (move : Move ι Unit Empty) : Prop :=
  ∀ s ∈ Sql.committed write p move, FindsRoom s p.shared

theorem atMostTwo_iff (law : AtMostTwo db) :
    Along (Sql.moveStep write) (fun p move => AtMostTwo (Sql.moveStep write p move).shared)
        (start db calls) moves ↔
      Along (Sql.moveStep write) FindsRoomAt (start db calls) moves :=
  Sql.keeps_iff findsRoom_exact law

end

instance (s : Statement) (db : Db) : Decidable (FindsRoom s db) := by
  unfold FindsRoom
  split <;> infer_instance

instance {ι : Type} (p : Threads Db (ClubCall Reply) ι) (move : Move ι Unit Empty) :
    Decidable (FindsRoomAt p move) :=
  inferInstanceAs (Decidable (∀ s ∈ Sql.committed write p move, FindsRoom s p.shared))

namespace Desk

/-- A club with three challenges. -/
def db : Db where
  challenges := .of [{ id := 1, tenantId := 1, slug := "a" }, { id := 2, tenantId := 1, slug := "b" },
    { id := 3, tenantId := 1, slug := "c" }]

theorem atMostTwo : AtMostTwo db := ⟨fun _ => Nat.zero_le _, fun _ _ => Nat.zero_le _⟩

def begin (challengeId : Id) : Call := .startChallenge 1 7 challengeId

end Desk

open Desk in
/-- Three starts, of which one comes to nothing and one follows a submission. -/
theorem atMostTwo_turn :
    Along (Sql.moveStep write) (fun p move => AtMostTwo (Sql.moveStep write p move).shared)
      (start db ![begin 1, .startEntranceChallenge 1 7 (.text "b"), begin 3,
        .submitChallenge 1 7 1 none true, begin 3])
      (moves [0, 0, 1, 0, 0, 1, 1, 1, 2, 2, 3, 3, 4, 4, 4, 4]) :=
  (atMostTwo_iff Desk.atMostTwo).mpr (by decide +kernel)

open Desk in
/-- In step, three starts pass the same count, and two start one challenge. -/
theorem not_atMostTwo :
    AtMostTwo db ∧ (¬ AtMostTwo (run (Sql.moveStep write) (start db ![begin 1, begin 2, begin 3])
        (moves [0, 1, 2, 0, 1, 2, 0, 1, 2, 0, 1, 2])).shared) ∧
      ¬ AtMostTwo (run (Sql.moveStep write)
        (start db ![begin 1, .startEntranceChallenge 1 7 (.text "a")])
        (moves [0, 1, 0, 1, 0, 1, 0, 1])).shared := by
  refine ⟨Desk.atMostTwo, fun law => ?_, fun law => ?_⟩
  · exact absurd (law.two 7) (by decide +kernel)
  · exact absurd (law.one 7 1) (by decide +kernel)

end Rokad.Club
