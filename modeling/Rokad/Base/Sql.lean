import Rokad.Base.Process

/-!
# Calls on a database

A call reads and writes by separate statements, each of them atomic. A read takes in the database
as it is. A write goes through and answers with what it made, or fails and changes nothing; a call
that fails midway keeps what it wrote before. `Sql` is such a call, over any database and any
statements.

Calls in progress change the database only where a write goes through, and `committed` is that
write. So an invariant holds along a run exactly where every committed write is one that keeps it
(`keeps_iff`).
-/

namespace Rokad.Base

inductive SqlOp (S : Type) where
  | read
  | write (s : S)

/-- What a statement answers with. -/
abbrev SqlOp.Answer {S : Type} (Db R ε : Type) : SqlOp S → Type
  | .read => Db
  | .write _ => Except ε R

abbrev Sql (Db S R ε : Type) := Prog (SqlOp S) (SqlOp.Answer Db R ε) ε

namespace Sql

variable {Db S R ε α β : Type}

def snapshot : Sql Db S R ε Db := Prog.step .read fun db => Prog.ret (.ok db)

def perform (s : S) : Sql Db S R ε R := Prog.step (.write s) fun done => Prog.ret done

/-- A write whose failure the call takes as an answer. -/
def attempt (s : S) : Sql Db S R ε (Except ε R) :=
  Prog.step (.write s) fun done => Prog.ret (.ok done)

variable (write : S → Db → Except ε (Db × R))

def exec : (op : SqlOp S) → Db → Db × op.Answer Db R ε
  | .read, db => (db, db)
  | .write s, db =>
    match write s db with
    | .ok (next, made) => (next, .ok made)
    | .error e => (db, .error e)

/-! ### Alone -/

section

variable {write} {db : Db}

theorem run_snapshot (f : Db → Sql Db S R ε α) :
    (snapshot >>= f).run (exec write) db = (f db).run (exec write) db := rfl

theorem run_ret_bind (x : Except ε β) (f : β → Sql Db S R ε α) :
    ((Prog.ret x : Sql Db S R ε β) >>= f).run (exec write) db =
      match x with
      | .ok a => (f a).run (exec write) db
      | .error e => (db, .error e) := by
  cases x <;> rfl

theorem run_perform_bind (s : S) (f : R → Sql Db S R ε α) :
    (perform s >>= f).run (exec write) db =
      match write s db with
      | .ok (next, made) => (f made).run (exec write) next
      | .error e => (db, .error e) := by
  simp only [perform, Prog.step_bind, Prog.run_step, exec]
  cases write s db <;> rfl

theorem run_perform (s : S) :
    (perform s).run (exec write) db =
      match write s db with
      | .ok (next, made) => (next, .ok made)
      | .error e => (db, .error e) := by
  simp only [perform, Prog.run_step, exec]
  cases write s db <;> rfl

end

/-! ### In progress -/

variable {ι : Type} [DecidableEq ι]

/-- One statement of one call. -/
abbrev moveStep :
    Threads Db (Sql Db S R ε α) ι → Move ι Unit Empty → Threads Db (Sql Db S R ε α) ι :=
  Prog.moveStep (exec write) fun db _ => db

/-- The write that goes through at this move. -/
def committed (p : Threads Db (Sql Db S R ε α) ι) : Move ι Unit Empty → Option S
  | .thread i _ =>
    match p.own i with
    | .step (.write s) _ =>
      match write s p.shared with
      | .ok _ => some s
      | .error _ => none
    | _ => none
  | .world e => e.elim

/-- The write that fails at this move. -/
def refused (p : Threads Db (Sql Db S R ε α) ι) : Move ι Unit Empty → Option S
  | .thread i _ =>
    match p.own i with
    | .step (.write s) _ =>
      match write s p.shared with
      | .ok _ => none
      | .error _ => some s
    | _ => none
  | .world e => e.elim

variable {write} {p : Threads Db (Sql Db S R ε α) ι} {i : ι}

theorem moveStep_ret {r : Except ε α} (own : p.own i = .ret r) :
    moveStep write p (.thread i ()) = p := by
  rw [moveStep, Prog.moveStep_thread, own, Prog.advance, ← own, Threads.put_self]

theorem moveStep_read {next : Db → Sql Db S R ε α} (own : p.own i = .step SqlOp.read next) :
    moveStep write p (.thread i ()) = p.put i p.shared (next p.shared) := by
  rw [moveStep, Prog.moveStep_thread, own]
  rfl

theorem moveStep_ok {s : S} {next : Except ε R → Sql Db S R ε α} {db : Db} {made : R}
    (own : p.own i = .step (SqlOp.write s) next) (done : write s p.shared = .ok (db, made)) :
    moveStep write p (.thread i ()) = p.put i db (next (.ok made)) := by
  rw [moveStep, Prog.moveStep_thread, own]
  simp only [Prog.advance, exec, done]

theorem moveStep_error {s : S} {next : Except ε R → Sql Db S R ε α} {e : ε}
    (own : p.own i = .step (SqlOp.write s) next) (failed : write s p.shared = .error e) :
    moveStep write p (.thread i ()) = p.put i p.shared (next (.error e)) := by
  rw [moveStep, Prog.moveStep_thread, own]
  simp only [Prog.advance, exec, failed]

variable (write) in
/-- A move commits a write, or leaves the database alone. -/
theorem moveStep_cases (p : Threads Db (Sql Db S R ε α) ι) (i : ι) :
    (∃ s next db made, p.own i = .step (SqlOp.write s) next ∧ write s p.shared = .ok (db, made) ∧
      committed write p (.thread i ()) = some s ∧
        moveStep write p (.thread i ()) = p.put i db (next (.ok made))) ∨
    (committed write p (.thread i ()) = none ∧
      (moveStep write p (.thread i ())).shared = p.shared) := by
  cases own : p.own i with
  | ret r =>
    refine Or.inr ⟨by simp [committed, own], ?_⟩
    rw [moveStep_ret own]
  | step op next =>
    cases op with
    | read =>
      refine Or.inr ⟨by simp [committed, own], ?_⟩
      rw [moveStep_read own, Threads.shared_put]
    | write s =>
      cases done : write s p.shared with
      | ok made =>
        refine Or.inl ⟨s, next, made.1, made.2, rfl, done, ?_, moveStep_ok own done⟩
        simp [committed, own, done]
      | error e =>
        refine Or.inr ⟨by simp [committed, own, done], ?_⟩
        rw [moveStep_error own done, Threads.shared_put]

/-- **Exact-invariant rule.** Let a write that goes through keep the invariant exactly where it
`fits`. Then a run keeps the invariant at every step exactly if every committed write fits. -/
theorem keeps_iff {I : Db → Prop} {Fits : S → Db → Prop}
    (exact : ∀ s db db' made, I db → write s db = .ok (db', made) → (I db' ↔ Fits s db))
    {moves : List (Move ι Unit Empty)} (start : I p.shared) :
    Along (moveStep write) (fun p move => I (moveStep write p move).shared) p moves ↔
      Along (moveStep write) (fun p move => ∀ s ∈ committed write p move, Fits s p.shared) p
        moves := by
  refine along_iff (I := fun p => I p.shared) (D := fun _ _ => True) ?_ ?_ start
    (along_of_forall fun _ _ => trivial)
  · rintro p (⟨i, ⟨⟩⟩ | e) - holds
    · rcases moveStep_cases write p i with ⟨s, next, db, made, -, done, commits, moved⟩ |
        ⟨quiet, same⟩
      · simpa [moved, commits] using exact s p.shared db made holds done
      · simpa [quiet, same] using holds
    · exact e.elim
  · exact fun p move _ kept _ => kept

/-- What every write keeps that the calls can make, a run of them keeps. -/
theorem run_keeps_of_avoids {I : Db → Prop} {P : S → Prop}
    (keeps : ∀ s db db' made, ¬ P s → I db → write s db = .ok (db', made) → I db')
    (avoids : ∀ i, (p.own i).Avoids fun op => ∃ s, op = .write s ∧ P s) (start : I p.shared)
    (moves : List (Move ι Unit Empty)) : I (Base.run (moveStep write) p moves).shared := by
  induction moves generalizing p with
  | nil => exact start
  | cons move moves ih =>
    rcases move with ⟨i, ⟨⟩⟩ | event
    · refine ih (fun j => ?_) ?_
      · rw [moveStep, Prog.moveStep_thread]
        by_cases same : i = j
        · subst same
          rw [Threads.own_put_self]
          exact (avoids i).advance
        · rw [Threads.own_put_of_ne (Ne.symm same)]
          exact avoids j
      · rcases moveStep_cases write p i with ⟨s, next, db, made, own, done, -, moved⟩ | ⟨-, same⟩
        · rw [moved, Threads.shared_put]
          have fits := avoids i
          rw [own] at fits
          exact keeps s _ _ _ (fun meets => fits.1 ⟨s, rfl, meets⟩) start done
        · rw [same]
          exact start
    · exact event.elim

end Sql

end Rokad.Base
