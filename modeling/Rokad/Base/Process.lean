import Rokad.Base.Run

/-!
# Programs over operations

A call that is not atomic is a tree of operations: each operation is atomic, and what comes
next depends on what it answered. `Prog.run` takes a program alone; `moveStep` interleaves any
number of them over one shared state.

Four predicates say what a program can still do: `Will` (it performs such an operation
before it returns, whatever it is answered), `Avoids` (it never does), `All` (when each
answer meets a specification, so does the result), and `Meets` (so does each operation, too).
Each is kept as the program moves on.
-/

namespace Rokad.Base

inductive Prog (Op : Type) (Res : Op → Type) (ε α : Type) where
  | ret (r : Except ε α)
  | step (op : Op) (next : Res op → Prog Op Res ε α)

namespace Prog

variable {Op : Type} {Res : Op → Type} {ε α β : Type}

protected def bind : Prog Op Res ε α → (α → Prog Op Res ε β) → Prog Op Res ε β
  | ret (.ok a), f => f a
  | ret (.error e), _ => ret (.error e)
  | step op next, f => step op fun r => (next r).bind f

instance : Monad (Prog Op Res ε) where
  pure a := ret (.ok a)
  bind := Prog.bind

/-- One operation. -/
def call (op : Op) : Prog Op Res ε (Res op) := step op fun r => ret (.ok r)

def fail (e : ε) : Prog Op Res ε α := ret (.error e)

/-- The program, and after a failure what `handle` makes of it. -/
def rescue (handle : ε → Prog Op Res ε α) : Prog Op Res ε α → Prog Op Res ε α
  | ret (.ok a) => ret (.ok a)
  | ret (.error e) => handle e
  | step op next => step op fun r => (next r).rescue handle

/-- The program for each element, in order. -/
def forEach : List β → (β → Prog Op Res ε Unit) → Prog Op Res ε Unit
  | [], _ => pure ()
  | x :: xs, body => body x >>= fun _ => forEach xs body

@[simp] theorem pure_eq (a : α) : (pure a : Prog Op Res ε α) = ret (.ok a) := rfl

@[simp] theorem ret_ok_bind (a : α) (f : α → Prog Op Res ε β) : (ret (.ok a) >>= f) = f a := rfl

@[simp] theorem ret_error_bind (e : ε) (f : α → Prog Op Res ε β) :
    (ret (.error e) >>= f) = ret (.error e) := rfl

@[simp] theorem step_bind (op : Op) (next : Res op → Prog Op Res ε α) (f : α → Prog Op Res ε β) :
    (step op next >>= f) = step op fun r => next r >>= f := rfl

@[simp] theorem call_bind (op : Op) (f : Res op → Prog Op Res ε β) :
    (call op >>= f) = step op f := rfl

@[simp] theorem fail_bind (e : ε) (f : α → Prog Op Res ε β) : (fail e >>= f) = ret (.error e) := rfl

@[simp] theorem rescue_ok (handle : ε → Prog Op Res ε α) (a : α) :
    rescue handle (ret (.ok a) : Prog Op Res ε α) = ret (.ok a) := rfl

@[simp] theorem rescue_error (handle : ε → Prog Op Res ε α) (e : ε) :
    rescue handle (ret (.error e)) = handle e := rfl

@[simp] theorem rescue_step (handle : ε → Prog Op Res ε α) (op : Op)
    (next : Res op → Prog Op Res ε α) :
    rescue handle (step op next) = step op fun r => rescue handle (next r) := rfl

theorem bind_assoc {γ : Type} (p : Prog Op Res ε α) (f : α → Prog Op Res ε β)
    (g : β → Prog Op Res ε γ) : (p >>= f >>= g) = (p >>= fun a => f a >>= g) := by
  induction p with
  | ret r => cases r <;> rfl
  | step op next ih => exact congrArg (step op) (funext ih)

/-- The result of a program that has returned. -/
def returned : Prog Op Res ε α → Option (Except ε α)
  | ret r => some r
  | step _ _ => none

theorem returned_eq_some {p : Prog Op Res ε α} {r : Except ε α} :
    p.returned = some r ↔ p = ret r := by
  cases p <;> simp [returned]

/-! ### Alone -/

section

variable {σ : Type} (exec : (op : Op) → σ → σ × Res op)

def run : Prog Op Res ε α → σ → σ × Except ε α
  | ret r, s => (s, r)
  | step op next, s => (next (exec op s).2).run (exec op s).1

@[simp] theorem run_ret (r : Except ε α) (s : σ) : (ret r : Prog Op Res ε α).run exec s = (s, r) :=
  rfl

@[simp] theorem run_step (op : Op) (next : Res op → Prog Op Res ε α) (s : σ) :
    (step op next).run exec s = (next (exec op s).2).run exec (exec op s).1 := rfl

@[simp] theorem run_call (op : Op) (s : σ) :
    (call op : Prog Op Res ε (Res op)).run exec s = ((exec op s).1, .ok (exec op s).2) := rfl

/-- A program after another runs from where it returned. -/
theorem run_bind (p : Prog Op Res ε α) (f : α → Prog Op Res ε β) (s : σ) :
    (p >>= f).run exec s =
      match p.run exec s with
      | (s', .ok a) => (f a).run exec s'
      | (s', .error e) => (s', .error e) := by
  induction p generalizing s with
  | ret r => cases r <;> rfl
  | step op next ih => exact ih _ _

/-- **Invariant rule.** What every operation keeps, a program keeps. -/
theorem run_keeps {I : σ → Prop} (keeps : ∀ op s, I s → I (exec op s).1) (p : Prog Op Res ε α)
    {s : σ} (start : I s) : I (p.run exec s).1 := by
  induction p generalizing s with
  | ret r => exact start
  | step op next ih => exact ih _ (keeps op s start)

end

/-! ### What a program can still do -/

/-- Whatever it is answered, it performs an operation that meets `P` before it returns. -/
def Will (P : Op → Prop) : Prog Op Res ε α → Prop
  | ret _ => False
  | step op next => P op ∨ ∀ r, (next r).Will P

/-- It performs no operation that meets `P`. -/
def Avoids (P : Op → Prop) : Prog Op Res ε α → Prop
  | ret _ => True
  | step op next => ¬ P op ∧ ∀ r, (next r).Avoids P

/-- Answers that meet `R` lead to a result that meets `Q`. -/
def All (R : (op : Op) → Res op → Prop) (Q : Except ε α → Prop) : Prog Op Res ε α → Prop
  | ret r => Q r
  | step op next => ∀ r, R op r → (next r).All R Q

/-- Each operation is followed, with each answer that meets `R`, by a rest that meets `G`. -/
def Guarantees (R : (op : Op) → Res op → Prop)
    (G : (op : Op) → Res op → Prog Op Res ε α → Prop) : Prog Op Res ε α → Prop
  | ret _ => True
  | step op next => ∀ r, R op r → G op r (next r) ∧ (next r).Guarantees R G

/-- While the answers meet `R`, each operation meets `P`, and the result `Q`. -/
def Meets (R : (op : Op) → Res op → Prop) (P : Op → Prop) (Q : Except ε α → Prop) :
    Prog Op Res ε α → Prop
  | ret r => Q r
  | step op next => P op ∧ ∀ r, R op r → (next r).Meets R P Q

section

variable {P : Op → Prop}

/-- A program after another meets what it meets for the results the first one can have. -/
theorem Meets.bind {R : (op : Op) → Res op → Prop} {Q : Except ε α → Prop}
    {Q' : Except ε β → Prop} {p : Prog Op Res ε α} {f : α → Prog Op Res ε β}
    (first : p.Meets R P Q) (failed : ∀ e, Q' (.error e))
    (second : ∀ a, Q (.ok a) → (f a).Meets R P Q') : (p >>= f).Meets R P Q' := by
  induction p with
  | ret r =>
    cases r with
    | ok a => exact second a first
    | error e => exact failed e
  | step op next ih => exact ⟨first.1, fun r met => ih r (first.2 r met)⟩

theorem Meets.call_bind {R : (op : Op) → Res op → Prop} {Q : Except ε α → Prop} {op : Op}
    {f : Res op → Prog Op Res ε α} (performs : P op)
    (rest : ∀ r, R op r → (f r).Meets R P Q) : (call op >>= f).Meets R P Q := ⟨performs, rest⟩

/-- **Program rule.** An invariant under which the answers are as a program takes them, and which
its operations keep, holds when the program has returned. -/
theorem Meets.run_keeps {σ : Type} {exec : (op : Op) → σ → σ × Res op}
    {R : (op : Op) → Res op → Prop} {Q : Except ε α → Prop} {I : σ → Prop}
    (answers : ∀ op s, I s → R op (exec op s).2) (keeps : ∀ op s, P op → I s → I (exec op s).1)
    {p : Prog Op Res ε α} (meets : p.Meets R P Q) {s : σ} (start : I s) :
    I (p.run exec s).1 ∧ Q (p.run exec s).2 := by
  induction p generalizing s with
  | ret r => exact ⟨start, meets⟩
  | step op next ih =>
    exact ih _ (meets.2 _ (answers op s start)) (keeps op s meets.1 start)

theorem Will.bind {p : Prog Op Res ε α} (will : p.Will P) (f : α → Prog Op Res ε β) :
    (p >>= f).Will P := by
  induction p with
  | ret r => exact will.elim
  | step op next ih => exact will.imp_right fun rest r => ih r (rest r)

/-- What a program guarantees before another one, and that one on its own, both guarantee. -/
theorem Guarantees.bind {R : (op : Op) → Res op → Prop}
    {G : (op : Op) → Res op → Prog Op Res ε α → Prop}
    {G' : (op : Op) → Res op → Prog Op Res ε β → Prop} {p : Prog Op Res ε α}
    {f : α → Prog Op Res ε β} (first : p.Guarantees R G)
    (lift : ∀ op r rest, G op r rest → G' op r (rest >>= f))
    (second : ∀ a, (f a).Guarantees R G') : (p >>= f).Guarantees R G' := by
  induction p with
  | ret r =>
    cases r with
    | ok a => exact second a
    | error e => exact trivial
  | step op next ih => exact fun r met => ⟨lift op r _ (first r met).1, ih r (first r met).2⟩

/-- Going through a list, a program comes to each of its elements. -/
theorem will_forEach (op : β → Op) {xs : List β} {x : β} (mem : x ∈ xs) (meets : P (op x))
    (f : Unit → Prog Op Res ε α) : ((forEach xs fun y => call (op y) >>= fun _ => pure ()) >>=
      f).Will P := by
  induction xs with
  | nil => cases mem
  | cons y ys ih =>
    rcases List.mem_cons.mp mem with rfl | mem
    · exact Or.inl meets
    · exact Or.inr fun _ => ih mem

theorem Avoids.bind {p : Prog Op Res ε α} {f : α → Prog Op Res ε β} (first : p.Avoids P)
    (second : ∀ a, (f a).Avoids P) : (p >>= f).Avoids P := by
  induction p with
  | ret r =>
    cases r with
    | ok a => exact second a
    | error e => exact trivial
  | step op next ih => exact ⟨first.1, fun r => ih r (first.2 r)⟩

theorem Avoids.mono {Q : Op → Prop} (imp : ∀ op, Q op → P op) {p : Prog Op Res ε α}
    (avoids : p.Avoids P) : p.Avoids Q := by
  induction p with
  | ret r => exact trivial
  | step op next ih => exact ⟨fun meets => avoids.1 (imp op meets), fun r => ih r (avoids.2 r)⟩

theorem not_will_of_avoids [∀ op, Nonempty (Res op)] {p : Prog Op Res ε α} (avoids : p.Avoids P) :
    ¬ p.Will P := by
  induction p with
  | ret r => exact not_false
  | step op next ih =>
    rintro (meets | rest)
    · exact avoids.1 meets
    · obtain ⟨r⟩ := (inferInstance : Nonempty (Res op))
      exact ih r (avoids.2 r) (rest r)

end

/-! ### Interleaved -/

variable {σ ι ω : Type} (exec : (op : Op) → σ → σ × Res op)

/-- One operation of a program, if it has not returned. -/
def advance (s : σ) : Prog Op Res ε α → σ × Prog Op Res ε α
  | ret r => (s, ret r)
  | step op next => ((exec op s).1, next (exec op s).2)

/-- One operation of one program, or an event of the world. -/
abbrev moveStep [DecidableEq ι] (env : σ → ω → σ) :
    Threads σ (Prog Op Res ε α) ι → Move ι Unit ω → Threads σ (Prog Op Res ε α) ι :=
  Threads.step (fun _ s p _ => p.advance exec s) env

theorem moveStep_thread [DecidableEq ι] (env : σ → ω → σ) (p : Threads σ (Prog Op Res ε α) ι)
    (i : ι) : moveStep exec env p (.thread i ()) =
      p.put i ((p.own i).advance exec p.shared).1 ((p.own i).advance exec p.shared).2 := rfl

/-- A program that has returned stays as it is. -/
theorem run_returned [DecidableEq ι] {env : σ → ω → σ} {p : Threads σ (Prog Op Res ε α) ι} {i : ι}
    {r : Except ε α} (returned : p.own i = ret r) (moves : List (Move ι Unit ω)) :
    (Base.run (moveStep exec env) p moves).own i = ret r := by
  induction moves generalizing p with
  | nil => exact returned
  | cons move moves ih =>
    refine ih ?_
    rcases move with ⟨j, ⟨⟩⟩ | event
    · rw [moveStep_thread]
      by_cases same : i = j
      · subst same
        rw [Threads.own_put_self, returned]
        rfl
      · rw [Threads.own_put_of_ne same, returned]
    · exact returned

variable {exec} {s : σ} {p : Prog Op Res ε α}

theorem Avoids.advance {P : Op → Prop} (avoids : p.Avoids P) : (p.advance exec s).2.Avoids P := by
  cases p with
  | ret r => exact trivial
  | step op next => exact avoids.2 _

theorem Guarantees.advance {R : (op : Op) → Res op → Prop}
    {G : (op : Op) → Res op → Prog Op Res ε α → Prop} (guarantees : p.Guarantees R G)
    (answers : ∀ op, R op (exec op s).2) : (p.advance exec s).2.Guarantees R G := by
  cases p with
  | ret r => exact trivial
  | step op next => exact (guarantees _ (answers op)).2

theorem All.advance {R : (op : Op) → Res op → Prop} {Q : Except ε α → Prop} (all : p.All R Q)
    (answers : ∀ op, R op (exec op s).2) : (p.advance exec s).2.All R Q := by
  cases p with
  | ret r => exact all
  | step op next => exact all _ (answers op)

end Prog

/-!
## Calls in the order they return

A serial run beside an interleaved one: whenever a call returns, the serial run makes the whole call
at once. `run_simulates` carries a relation between the two along a run. No call returns twice, and
one that has returned did so along the run (`nodup_returnOrder`, `mem_returnOrder`), so the serial
run is of all the calls, each once.
-/

section

variable {σ ι ε β : Type} {step : σ → ι → σ}

/-- **Simulation rule.** If every admitted step keeps a relation to another state, which folds what
the step puts out, an admitted run keeps it, and the other state folds the trace. -/
theorem run_simulates {J : β → σ → Prop} {P : σ → ι → Prop} {out : σ → ι → List ε}
    {post : β → ε → β} (keeps : ∀ b s i, P s i → J b s → J ((out s i).foldl post b) (step s i))
    {b : β} {s : σ} {is : List ι} (start : J b s) (along : Along step P s is) :
    J ((trace step out s is).foldl post b) (run step s is) := by
  induction is generalizing b s with
  | nil => exact start
  | cons i is ih =>
    rw [trace, List.foldl_append, run_cons]
    exact ih (keeps b s i along.1 start) along.2

end

namespace Prog

variable {Op : Type} {Res : Op → Type} {ε α σ ι ω : Type} [DecidableEq ι]
  (exec : (op : Op) → σ → σ × Res op) (env : σ → ω → σ)

/-- The call that returns at this move. -/
def returns (p : Threads σ (Prog Op Res ε α) ι) : Move ι Unit ω → Option ι
  | .thread i _ =>
    match p.own i with
    | .ret _ => none
    | .step op next => if (next (exec op p.shared).2).returned.isSome then some i else none
  | .world _ => none

abbrev returnOrder : Threads σ (Prog Op Res ε α) ι → List (Move ι Unit ω) → List ι :=
  trace (moveStep exec env) fun p move => (returns exec p move).toList

variable {exec env} {p : Threads σ (Prog Op Res ε α) ι}

/-- A move makes one more call return, or none. -/
theorem returns_cases (p : Threads σ (Prog Op Res ε α) ι) (move : Move ι Unit ω) :
    (returns exec p move = none ∧ ∀ j,
      ((moveStep exec env p move).own j).returned.isSome = (p.own j).returned.isSome) ∨
    ∃ i, returns exec p move = some i ∧ (p.own i).returned.isSome = false ∧
      ∀ j, ((moveStep exec env p move).own j).returned.isSome =
        (decide (j = i) || (p.own j).returned.isSome) := by
  rcases move with ⟨i, ⟨⟩⟩ | event
  · rw [moveStep_thread]
    cases own : p.own i with
    | ret r =>
      refine Or.inl ⟨by simp [returns, own], fun j => ?_⟩
      by_cases same : j = i
      · subst same
        rw [Threads.own_put_self, own]
        rfl
      · rw [Threads.own_put_of_ne same]
    | step op next =>
      have here : (advance exec p.shared (step op next)).2 = next (exec op p.shared).2 := rfl
      cases done : (next (exec op p.shared).2).returned.isSome with
      | false =>
        refine Or.inl ⟨by simp [returns, own, done], fun j => ?_⟩
        by_cases same : j = i
        · subst same
          rw [Threads.own_put_self, here, done, own]
          rfl
        · rw [Threads.own_put_of_ne same]
      | true =>
        refine Or.inr ⟨i, by simp [returns, own, done], by rw [own]; rfl, fun j => ?_⟩
        by_cases same : j = i
        · subst same
          rw [Threads.own_put_self, here, done, decide_eq_true rfl, Bool.true_or]
        · rw [Threads.own_put_of_ne same, decide_eq_false same, Bool.false_or]
  · exact Or.inl ⟨rfl, fun _ => rfl⟩

/-- No call returns twice. -/
theorem nodup_returnOrder (p : Threads σ (Prog Op Res ε α) ι) (moves : List (Move ι Unit ω)) :
    (returnOrder exec env p moves).Nodup := by
  refine (trace_once (M := fun p j => (p.own j).returned.isSome = true) ?_ ?_ p moves).1
  · intro p move j done
    rcases @returns_cases _ _ _ _ _ _ _ _ exec env p move with ⟨-, same⟩ | ⟨i, -, -, same⟩
    · rw [same, done]
    · rw [same, done, Bool.or_true]
  · intro p move j one
    rcases @returns_cases _ _ _ _ _ _ _ _ exec env p move with ⟨none, -⟩ | ⟨i, some, before, same⟩
    · simp [none] at one
    · obtain rfl : i = j := by simpa [some] using one
      exact ⟨by simp [before], by rw [same, decide_eq_true rfl, Bool.true_or]⟩

/-- A call that has returned by the end of a run did so along it, if not before. -/
theorem mem_returnOrder {moves : List (Move ι Unit ω)} {j : ι}
    (before : (p.own j).returned.isSome = false)
    (after : ((Base.run (moveStep exec env) p moves).own j).returned.isSome = true) :
    j ∈ returnOrder exec env p moves := by
  induction moves generalizing p with
  | nil =>
    change (p.own j).returned.isSome = true at after
    rw [before] at after
    cases after
  | cons move moves ih =>
    rw [returnOrder, trace, List.mem_append]
    rcases @returns_cases _ _ _ _ _ _ _ _ exec env p move with ⟨-, same⟩ | ⟨i, one, -, same⟩
    · exact Or.inr (ih ((same j).trans before) after)
    · by_cases this : j = i
      · exact Or.inl (by simp [one, this])
      · refine Or.inr (ih ?_ after)
        rw [same, decide_eq_false this, before]
        rfl

end Prog

end Rokad.Base
