import Mathlib.Data.List.Basic
import Mathlib.Logic.Function.Basic
import Rokad.Base.Fallible

/-!
# Runs

A machine is a step function on its states. `run` takes a list of inputs,
`Along` says that a condition holds at every step of the run, in the state the step
is taken from, and `trace` collects what the steps put out.

Every result about a run goes through one of three rules: `run_invariant` carries an
invariant along, `run_refines` computes a view of the final state by folding the
outputs, and `trace_once` says that nothing is put out twice.

`Threads` is the machine of several calls in progress over one shared state. A
move is one atomic step of one thread, or a step of the world. `ReadCommit` is a call
that reads, and later commits what it computed from the reading. If nothing a call has
read changes before it commits, every interleaving is the serial run in commit order
(`serial_commitOrder`).
-/

namespace Rokad.Base

section

variable {σ ι ε β : Type} {step : σ → ι → σ}

/-- The state after the inputs, in order. -/
def run (step : σ → ι → σ) : σ → List ι → σ := List.foldl step

/-- Every step of the run meets `P`, in the state it is taken from. -/
def Along (step : σ → ι → σ) (P : σ → ι → Prop) : σ → List ι → Prop
  | _, [] => True
  | s, i :: is => P s i ∧ Along step P (step s i) is

/-- What the steps of the run put out, in order. -/
def trace (step : σ → ι → σ) (out : σ → ι → List ε) : σ → List ι → List ε
  | _, [] => []
  | s, i :: is => out s i ++ trace step out (step s i) is

@[simp] theorem run_nil (s : σ) : run step s [] = s := rfl

@[simp] theorem run_cons (s : σ) (i : ι) (is : List ι) :
    run step s (i :: is) = run step (step s i) is := rfl

theorem run_append (s : σ) (is js : List ι) :
    run step s (is ++ js) = run step (run step s is) js := List.foldl_append

theorem trace_append {out : σ → ι → List ε} {s : σ} {is js : List ι} :
    trace step out s (is ++ js) = trace step out s is ++ trace step out (run step s is) js := by
  induction is generalizing s with
  | nil => rfl
  | cons i is ih => rw [List.cons_append, trace, trace, ih, List.append_assoc, run_cons]

instance decidableAlong (P : σ → ι → Prop) [∀ s i, Decidable (P s i)] :
    ∀ s is, Decidable (Along step P s is)
  | _, [] => inferInstanceAs (Decidable True)
  | s, i :: is =>
    have := decidableAlong P (step s i) is
    inferInstanceAs (Decidable (P s i ∧ Along step P (step s i) is))

theorem along_append {P : σ → ι → Prop} {s : σ} {is js : List ι} :
    Along step P s (is ++ js) ↔ Along step P s is ∧ Along step P (run step s is) js := by
  induction is generalizing s with
  | nil => simp [Along]
  | cons i is ih => simp [Along, ih, and_assoc]

theorem Along.mono {P Q : σ → ι → Prop} (imp : ∀ s i, P s i → Q s i) {s : σ} {is : List ι}
    (along : Along step P s is) : Along step Q s is := by
  induction is generalizing s with
  | nil => trivial
  | cons i is ih => exact ⟨imp s i along.1, ih along.2⟩

theorem Along.and {P Q : σ → ι → Prop} {s : σ} {is : List ι} (first : Along step P s is)
    (second : Along step Q s is) : Along step (fun s i => P s i ∧ Q s i) s is := by
  induction is generalizing s with
  | nil => trivial
  | cons i is ih => exact ⟨⟨first.1, second.1⟩, ih first.2 second.2⟩

/-- A run whose inputs all meet `P` meets it at every step. -/
theorem along_of_forall {P : ι → Prop} {s : σ} {is : List ι} (all : ∀ i ∈ is, P i) :
    Along step (fun _ i => P i) s is := by
  induction is generalizing s with
  | nil => trivial
  | cons i is ih =>
    exact ⟨all i List.mem_cons_self, ih fun j mem => all j (List.mem_cons_of_mem _ mem)⟩

/-- A property holds in every state of a run when it holds at its start and after each step. -/
theorem forall_run_iff {I : σ → Prop} {s : σ} {is : List ι} :
    (∀ before, before <+: is → I (run step s before)) ↔
      I s ∧ Along step (fun s i => I (step s i)) s is := by
  induction is generalizing s with
  | nil =>
    refine ⟨fun all => ⟨all [] List.prefix_rfl, trivial⟩, fun start before pre => ?_⟩
    rw [List.prefix_nil.mp pre]
    exact start.1
  | cons i is ih =>
    constructor
    · intro all
      have rest := ih.mp fun before pre =>
        all (i :: before) (List.cons_prefix_cons.mpr ⟨rfl, pre⟩)
      exact ⟨all [] List.nil_prefix, rest⟩
    · rintro ⟨start, first, rest⟩ before pre
      cases before with
      | nil => exact start
      | cons j before =>
        obtain ⟨rfl, shorter⟩ := List.cons_prefix_cons.mp pre
        exact ih.mpr ⟨first, rest⟩ before shorter

/-- **Invariant rule.** What every admitted step keeps, every admitted run keeps. -/
theorem run_invariant {I : σ → Prop} {P : σ → ι → Prop}
    (keeps : ∀ s i, P s i → I s → I (step s i)) {s : σ} {is : List ι}
    (start : I s) (along : Along step P s is) : I (run step s is) := by
  induction is generalizing s with
  | nil => exact start
  | cons i is ih => exact ih (keeps s i along.1 start) along.2

theorem run_keeps {I : σ → Prop} (keeps : ∀ s i, I s → I (step s i)) {s : σ}
    (start : I s) (is : List ι) : I (run step s is) := by
  induction is generalizing s with
  | nil => exact start
  | cons i is ih => exact ih (keeps s i start)

/-- **Step-property rule.** If, under an invariant, every admitted step meets a property and keeps
the invariant, every step of an admitted run meets the property. -/
theorem along_of_step {I : σ → Prop} {P Q : σ → ι → Prop}
    (meets : ∀ s i, P s i → I s → Q s i ∧ I (step s i)) {s : σ} {is : List ι} (start : I s)
    (along : Along step P s is) : Along step Q s is := by
  induction is generalizing s with
  | nil => trivial
  | cons i is ih =>
    obtain ⟨met, next⟩ := meets s i along.1 start
    exact ⟨met, ih next along.2⟩

/-- **Exact-condition rule.** If, step by step and under an invariant, a property holds exactly when
a condition does, it holds along a run exactly when the condition does. -/
theorem along_iff {I : σ → Prop} {D P Q : σ → ι → Prop}
    (same : ∀ s i, D s i → I s → (P s i ↔ Q s i))
    (keeps : ∀ s i, D s i → P s i → I s → I (step s i)) {s : σ} {is : List ι} (start : I s)
    (domain : Along step D s is) : Along step P s is ↔ Along step Q s is := by
  induction is generalizing s with
  | nil => exact Iff.rfl
  | cons i is ih =>
    obtain ⟨ofI, ofIs⟩ := domain
    constructor
    · rintro ⟨meets, rest⟩
      exact ⟨(same s i ofI start).mp meets, (ih (keeps s i ofI meets start) ofIs).mp rest⟩
    · rintro ⟨meets, rest⟩
      have meetsP := (same s i ofI start).mpr meets
      exact ⟨meetsP, (ih (keeps s i ofI meetsP start) ofIs).mpr rest⟩

/-- **Refinement rule.** If each step moves a view of the state by folding its own
output, a run moves it by folding the trace. -/
theorem run_refines {I : σ → Prop} {V : σ → β} {out : σ → ι → List ε} {post : β → ε → β}
    (keeps : ∀ s i, I s → I (step s i))
    (moves : ∀ s i, I s → V (step s i) = (out s i).foldl post (V s))
    {s : σ} {is : List ι} (start : I s) :
    V (run step s is) = (trace step out s is).foldl post (V s) := by
  induction is generalizing s with
  | nil => rfl
  | cons i is ih =>
    rw [run_cons, ih (keeps s i start), moves s i start, trace, List.foldl_append]

/-- **At-most-once rule.** If what an admitted step puts out was not marked before and is
marked from then on, an admitted run puts nothing out twice, and nothing that was marked at
its start. -/
theorem trace_once_along {I : σ → Prop} {P : σ → ι → Prop} {M : σ → ε → Prop}
    {out : σ → ι → Option ε} (keeps : ∀ s i, P s i → I s → I (step s i))
    (stays : ∀ s i e, P s i → I s → M s e → M (step s i) e)
    (marks : ∀ s i e, P s i → I s → out s i = some e → ¬ M s e ∧ M (step s i) e)
    {s : σ} {is : List ι} (start : I s) (along : Along step P s is) :
    (trace step (fun s i => (out s i).toList) s is).Nodup ∧
      ∀ e ∈ trace step (fun s i => (out s i).toList) s is, ¬ M s e := by
  induction is generalizing s with
  | nil => simp [trace]
  | cons i is ih =>
    obtain ⟨nodup, unmarked⟩ := ih (keeps s i along.1 start) along.2
    have later : ∀ e ∈ trace step (fun s i => (out s i).toList) (step s i) is, ¬ M s e :=
      fun e mem before => unmarked e mem (stays s i e along.1 start before)
    rw [trace]
    cases put : out s i with
    | none => simpa using ⟨nodup, later⟩
    | some e =>
      obtain ⟨fresh, marked⟩ := marks s i e along.1 start put
      refine ⟨List.nodup_cons.mpr ⟨fun again => unmarked e again marked, nodup⟩, ?_⟩
      rintro x (_ | ⟨_, mem⟩)
      · exact fresh
      · exact later x mem

/-- **Budget rule.** Let every admitted step take from a list what it puts out, and no other step
stay within the list. Then a run never puts out more than it takes exactly if its steps are all
admitted. -/
theorem within_budget_iff [DecidableEq ε] {I : σ → Prop} {P : σ → ι → Prop} {V : σ → List ε}
    {out : σ → ι → List ε} (keeps : ∀ s i, P s i → I s → I (step s i))
    (takes : ∀ s i, P s i → I s → ∀ e, (out s i).count e + (V (step s i)).count e = (V s).count e)
    (only : ∀ s i, I s → (∀ e, (out s i).count e + (V (step s i)).count e ≤ (V s).count e) → P s i)
    {s : σ} {is : List ι} (start : I s) :
    (∀ before, before <+: is → ∀ e, (trace step out s before).count e +
      (V (run step s before)).count e ≤ (V s).count e) ↔ Along step P s is := by
  induction is generalizing s with
  | nil =>
    refine iff_of_true (fun before pre e => ?_) trivial
    rw [List.prefix_nil.mp pre]
    simp [trace]
  | cons i is ih =>
    have grow : ∀ before e, (trace step out s (i :: before)).count e =
        (out s i).count e + (trace step out (step s i) before).count e :=
      fun before e => List.count_append
    constructor
    · intro within
      have admitted : P s i := only s i start fun e => by
        have first := within [i] ⟨is, rfl⟩ e
        simpa [trace] using first
      refine ⟨admitted, (ih (keeps s i admitted start)).mp fun before pre e => ?_⟩
      have longer := within (i :: before) (List.cons_prefix_cons.mpr ⟨rfl, pre⟩) e
      have took := takes s i admitted start e
      rw [grow, run_cons] at longer
      omega
    · rintro ⟨admitted, rest⟩ before pre e
      have took := takes s i admitted start e
      cases before with
      | nil => simp [trace]
      | cons j before =>
        obtain ⟨rfl, shorter⟩ := List.cons_prefix_cons.mp pre
        have later := (ih (keeps s j admitted start)).mpr rest before shorter e
        rw [grow, run_cons]
        omega

/-- The rule when every step is admitted in every state. -/
theorem trace_once {M : σ → ε → Prop} {out : σ → ι → Option ε}
    (stays : ∀ s i e, M s e → M (step s i) e)
    (marks : ∀ s i e, out s i = some e → ¬ M s e ∧ M (step s i) e)
    (s : σ) (is : List ι) :
    (trace step (fun s i => (out s i).toList) s is).Nodup ∧
      ∀ e ∈ trace step (fun s i => (out s i).toList) s is, ¬ M s e :=
  trace_once_along (I := fun _ => True) (P := fun _ _ => True) (fun _ _ _ _ => trivial)
    (fun s i e _ _ => stays s i e)
    (fun s i e _ _ => marks s i e) trivial (along_of_forall fun _ _ => trivial)

end

/-! ### Threads over a shared state -/

/-- A shared state and the local state of each thread. -/
structure Threads (σ τ ι : Type) where
  shared : σ
  own : ι → τ

/-- One atomic step: of thread `i`, which may take an input, or of the world. -/
inductive Move (ι α ω : Type) where
  | thread (i : ι) (input : α)
  | world (event : ω)

/-- Threads without inputs, in the order of their moves. -/
def moves {ι ω : Type} (order : List ι) : List (Move ι Unit ω) := order.map (.thread · ())

namespace Threads

variable {σ τ ι α ω : Type} [DecidableEq ι]

def step (act : ι → σ → τ → α → σ × τ) (env : σ → ω → σ) (p : Threads σ τ ι) :
    Move ι α ω → Threads σ τ ι
  | .thread i input =>
    let next := act i p.shared (p.own i) input
    ⟨next.1, Function.update p.own i next.2⟩
  | .world event => ⟨env p.shared event, p.own⟩

/-- Thread `i` has moved on, and the shared state with it. -/
def put (p : Threads σ τ ι) (i : ι) (shared : σ) (own : τ) : Threads σ τ ι :=
  ⟨shared, Function.update p.own i own⟩

section

variable {p : Threads σ τ ι} {i : ι} {shared : σ} {own : τ}

@[simp] theorem shared_put : (p.put i shared own).shared = shared := rfl

@[simp] theorem own_put_self : (p.put i shared own).own i = own := Function.update_self ..

@[simp] theorem own_put_of_ne {j : ι} (differ : j ≠ i) : (p.put i shared own).own j = p.own j :=
  Function.update_of_ne differ ..

@[simp] theorem put_self : p.put i p.shared (p.own i) = p := by simp [put]

end

variable {act : ι → σ → τ → α → σ × τ} {env : σ → ω → σ}

/-- **Noninterference rule.** A shared invariant and a local assertion hold of every
interleaving if each thread's step keeps both for itself and neither it nor the
world disturbs the assertion of another thread. -/
theorem invariant {P : Threads σ τ ι → Move ι α ω → Prop} (Shared : σ → Prop)
    (Own : σ → ι → τ → Prop)
    (acts : ∀ (p : Threads σ τ ι) i input, P p (.thread i input) → Shared p.shared →
      (∀ j, Own p.shared j (p.own j)) →
      Shared (act i p.shared (p.own i) input).1 ∧
        Own (act i p.shared (p.own i) input).1 i (act i p.shared (p.own i) input).2 ∧
        ∀ j, j ≠ i → Own (act i p.shared (p.own i) input).1 j (p.own j))
    (world : ∀ (p : Threads σ τ ι) event, Shared p.shared → (∀ j, Own p.shared j (p.own j)) →
      Shared (env p.shared event) ∧ ∀ j, Own (env p.shared event) j (p.own j))
    {p : Threads σ τ ι} {moves : List (Move ι α ω)}
    (start : Shared p.shared ∧ ∀ j, Own p.shared j (p.own j))
    (along : Along (step act env) P p moves) :
    Shared (run (step act env) p moves).shared ∧
      ∀ j, Own (run (step act env) p moves).shared j ((run (step act env) p moves).own j) := by
  refine run_invariant
    (I := fun p => Shared p.shared ∧ ∀ j, Own p.shared j (p.own j)) ?_ start along
  rintro p (⟨i, input⟩ | event) meets ⟨shared, own⟩
  · obtain ⟨shared', self, others⟩ := acts p i input meets shared own
    refine ⟨shared', fun j => ?_⟩
    by_cases same : j = i
    · subst same
      simpa [step] using self
    · simpa [step, same] using others j same
  · exact world p event shared own

end Threads

/-! ### Calls that read and later commit -/

/-- A call in two atomic steps: a reading `κ` of the shared state, or an error; and a
commit computed from the reading, on whatever the state is by then. Two readings are the
`same` when they agree on what the commit uses. -/
structure ReadCommit (σ κ φ : Type) where
  read : σ → Except φ κ
  commit : κ → σ → Except φ σ
  same : κ → κ → Prop
  commit_same : ∀ r r' s, same r r' → commit r s = commit r' s

inductive Phase (κ φ : Type) where
  | waiting
  | holding (reading : κ)
  | committed
  | failed (error : φ)
deriving DecidableEq

namespace ReadCommit

variable {σ κ φ ι : Type} [DecidableEq ι]

def act (calls : ι → ReadCommit σ κ φ) (i : ι) (s : σ) (phase : Phase κ φ) (_ : Unit) :
    σ × Phase κ φ :=
  match phase with
  | .waiting =>
    match (calls i).read s with
    | .ok reading => (s, .holding reading)
    | .error e => (s, .failed e)
  | .holding reading =>
    match (calls i).commit reading s with
    | .ok s' => (s', .committed)
    | .error e => (s, .failed e)
  | .committed => (s, .committed)
  | .failed e => (s, .failed e)

/-- No step of the world: the calls are all there is. -/
abbrev moveStep (calls : ι → ReadCommit σ κ φ) :
    Threads σ (Phase κ φ) ι → Move ι Unit Empty → Threads σ (Phase κ φ) ι :=
  Threads.step (act calls) fun s _ => s

def start (s : σ) : Threads σ (Phase κ φ) ι := ⟨s, fun _ => .waiting⟩

/-- The calls one at a time, in the order of the list, each succeeding. -/
def serial (calls : ι → ReadCommit σ κ φ) : List ι → σ → Except φ σ
  | [], s => .ok s
  | i :: is, s => do
      let reading ← (calls i).read s
      let s' ← (calls i).commit reading s
      serial calls is s'

/-- The thread whose commit goes through at this move. -/
def commits (calls : ι → ReadCommit σ κ φ) (p : Threads σ (Phase κ φ) ι) :
    Move ι Unit Empty → Option ι
  | .thread i _ =>
    match p.own i with
    | .holding reading =>
      match (calls i).commit reading p.shared with
      | .ok _ => some i
      | .error _ => none
    | _ => none
  | .world e => e.elim

abbrev commitOrder (calls : ι → ReadCommit σ κ φ) :
    Threads σ (Phase κ φ) ι → List (Move ι Unit Empty) → List ι :=
  trace (moveStep calls) fun p move => (commits calls p move).toList

/-- A thread that commits at this move would read now what it holds, as far as its
commit uses it. -/
def Current (calls : ι → ReadCommit σ κ φ) (p : Threads σ (Phase κ φ) ι) : Move ι Unit Empty → Prop
  | .thread i _ =>
    match p.own i with
    | .holding reading =>
      Returns ((calls i).read p.shared) fun now => (calls i).same now reading
    | _ => True
  | .world e => e.elim

instance (calls : ι → ReadCommit σ κ φ) [∀ i, DecidableRel (calls i).same]
    (p : Threads σ (Phase κ φ) ι) (move : Move ι Unit Empty) :
    Decidable (Current calls p move) := by
  cases move with
  | thread i _ =>
    unfold Current
    dsimp only
    split <;> infer_instance
  | world e => exact e.elim

variable {calls : ι → ReadCommit σ κ φ}

/-- **Serializability.** If no reading has gone stale when it is committed, the
interleaving ends where the serial run in commit order ends. -/
theorem serial_commitOrder {p : Threads σ (Phase κ φ) ι} {moves : List (Move ι Unit Empty)}
    (current : Along (moveStep calls) (Current calls) p moves) :
    serial calls (commitOrder calls p moves) p.shared =
      .ok (run (moveStep calls) p moves).shared := by
  induction moves generalizing p with
  | nil => rfl
  | cons move moves ih =>
    obtain ⟨now, rest⟩ := current
    have tail := ih rest
    rcases move with ⟨i, ⟨⟩⟩ | e
    · rw [run_cons, ← tail, commitOrder, trace]
      cases phase : p.own i with
      | waiting =>
        cases reads : (calls i).read p.shared <;>
          simp [commits, Threads.step, act, phase, reads]
      | holding reading =>
        simp only [Current, phase] at now
        obtain ⟨again, reads, same⟩ := now.exists
        have agree := (calls i).commit_same again reading p.shared same
        cases done : (calls i).commit reading p.shared with
        | error e => simp [commits, Threads.step, act, phase, done]
        | ok s' =>
          simp only [commits, Threads.step, act, phase, done, Option.toList_some,
            List.singleton_append]
          simp only [serial, reads, agree, done, bind, Except.bind]
      | committed => simp [commits, Threads.step, act, phase]
      | failed e => simp [commits, Threads.step, act, phase]
    · exact e.elim

/-- What a move does to the committed calls: nothing, or it commits one more. -/
theorem commits_cases (calls : ι → ReadCommit σ κ φ) (p : Threads σ (Phase κ φ) ι)
    (move : Move ι Unit Empty) :
    (commits calls p move = none ∧
      ∀ j, (moveStep calls p move).own j = .committed ↔ p.own j = .committed) ∨
    ∃ i, commits calls p move = some i ∧ p.own i ≠ .committed ∧
      ∀ j, (moveStep calls p move).own j = .committed ↔ j = i ∨ p.own j = .committed := by
  rcases move with ⟨i, ⟨⟩⟩ | e
  swap
  · exact e.elim
  have own : ∀ j, (moveStep calls p (.thread i ())).own j =
      if j = i then (act calls i p.shared (p.own i) ()).2 else p.own j := by
    intro j
    simp [Threads.step, Function.update_apply]
  simp only [own]
  cases phase : p.own i with
  | waiting =>
    refine Or.inl ⟨by simp [commits, phase], fun j => ?_⟩
    by_cases same : j = i
    · subst same
      cases reads : (calls j).read p.shared <;> simp [act, reads, phase]
    · simp [same]
  | holding reading =>
    cases done : (calls i).commit reading p.shared with
    | ok s' =>
      refine Or.inr ⟨i, by simp [commits, phase, done], by simp [phase], fun j => ?_⟩
      by_cases same : j = i <;> simp [same, act, done]
    | error e =>
      refine Or.inl ⟨by simp [commits, phase, done], fun j => ?_⟩
      by_cases same : j = i
      · subst same
        simp [act, done, phase]
      · simp [same]
  | committed =>
    refine Or.inl ⟨by simp [commits, phase], fun j => ?_⟩
    by_cases same : j = i
    · subst same
      simp [act, phase]
    · simp [same]
  | failed e =>
    refine Or.inl ⟨by simp [commits, phase], fun j => ?_⟩
    by_cases same : j = i
    · subst same
      simp [act, phase]
    · simp [same]

/-- No call commits twice. -/
theorem nodup_commitOrder (calls : ι → ReadCommit σ κ φ) (p : Threads σ (Phase κ φ) ι)
    (moves : List (Move ι Unit Empty)) : (commitOrder calls p moves).Nodup := by
  refine (trace_once (M := fun p j => p.own j = .committed) ?_ ?_ p moves).1
  · intro p move j done
    rcases commits_cases calls p move with ⟨-, same⟩ | ⟨_, -, -, same⟩
    · exact (same j).mpr done
    · exact (same j).mpr (Or.inr done)
  · intro p move j one
    rcases commits_cases calls p move with ⟨none, -⟩ | ⟨i, some, before, same⟩
    · simp [none] at one
    · obtain rfl : i = j := by simpa [some] using one
      exact ⟨before, (same i).mpr (Or.inl rfl)⟩

/-- A call that has committed by the end of a run did so along it, if not before. -/
theorem mem_commitOrder {p : Threads σ (Phase κ φ) ι} {moves : List (Move ι Unit Empty)} {j : ι}
    (before : p.own j ≠ .committed) (after : (run (moveStep calls) p moves).own j = .committed) :
    j ∈ commitOrder calls p moves := by
  induction moves generalizing p with
  | nil => exact absurd after before
  | cons move moves ih =>
    rw [commitOrder, trace, List.mem_append]
    rcases commits_cases calls p move with ⟨-, same⟩ | ⟨i, one, -, same⟩
    · exact Or.inr (ih (fun done => before ((same j).mp done)) after)
    · by_cases this : j = i
      · exact Or.inl (by simp [one, this])
      · refine Or.inr (ih (fun done => ?_) after)
        exact ((same j).mp done).elim this before

/-- Calls that all start waiting and all commit, on readings that stay current, end
where some serial order of them ends. -/
theorem exists_serial_order {s : σ} {moves : List (Move ι Unit Empty)}
    (current : Along (moveStep calls) (Current calls) (start s) moves)
    (all : ∀ i, (run (moveStep calls) (start s) moves).own i = .committed) :
    ∃ order : List ι, order.Nodup ∧ (∀ i, i ∈ order) ∧
      serial calls order s = .ok (run (moveStep calls) (start s) moves).shared := by
  exact ⟨_, nodup_commitOrder calls _ _, fun i => mem_commitOrder (by simp [start]) (all i),
    serial_commitOrder current⟩

end ReadCommit

/-!
## Calls one at a time

A call that may fail takes the state it was called in to another one, or leaves it alone.
-/

variable {σ ε : Type}

/-- The state after a call: a call that failed leaves it as it was. -/
def settled (s : σ) : Except ε σ → σ
  | .ok s' => s'
  | .error _ => s

@[simp] theorem settled_ok (s s' : σ) : settled s (.ok s' : Except ε σ) = s' := rfl

@[simp] theorem settled_error (s : σ) (e : ε) : settled s (.error e) = s := rfl

/-- What holds of the state a call finds, and of the one it returns, holds of the state after it. -/
theorem settled_keeps {I : σ → Prop} {s : σ} {result : Except ε σ} (start : I s)
    (keeps : ∀ s', result = .ok s' → I s') : I (settled s result) := by
  cases result with
  | ok s' => exact keeps s' rfl
  | error e => exact start

end Rokad.Base
