import Mathlib.Tactic

/-!
# Calls that can fail

`Except` programs written with guards (`require`) and look-ups (`orFail`), and the
inversion of each: what a program that returned must have found on its way. A program
that is a sequence of fallible steps goes through `inTurn` when the list is known, and
`Steps` when only a bound on what each step is matters.
-/

namespace Rokad.Base

variable {ε α β : Type}

/-- Fails with `e` unless `cond` holds. -/
def require (cond : Prop) [Decidable cond] (e : ε) : Except ε Unit :=
  if cond then .ok () else .error e

/-- The value, or the failure `e` when there is none. -/
def orFail (value : Option α) (e : ε) : Except ε α :=
  match value with
  | some a => .ok a
  | none => .error e

@[simp] theorem bind_eq_ok {x : Except ε α} {f : α → Except ε β} {b : β} :
    (x >>= f) = .ok b ↔ ∃ a, x = .ok a ∧ f a = .ok b := by
  cases x with
  | ok a => simp [bind, Except.bind]
  | error e => simp [bind, Except.bind]

@[simp] theorem pure_eq_ok {a b : α} : (pure a : Except ε α) = .ok b ↔ a = b := by
  simp [pure, Except.pure]

@[simp] theorem require_eq_ok {cond : Prop} [Decidable cond] {e : ε} {u : Unit} :
    require cond e = .ok u ↔ cond := by
  unfold require
  split <;> simp_all

@[simp] theorem orFail_eq_ok {value : Option α} {e : ε} {a : α} :
    orFail value e = .ok a ↔ value = some a := by
  cases value <;> simp [orFail]

/-- The four of them: what a `do` block that goes through has done. -/
theorem do_eq_ok : (∀ {α β : Type} {x : Except ε α} {f : α → Except ε β} {b : β},
      (x >>= f) = .ok b ↔ ∃ a, x = .ok a ∧ f a = .ok b) ∧
    (∀ {α : Type} {a b : α}, (pure a : Except ε α) = .ok b ↔ a = b) ∧
    (∀ {cond : Prop} [Decidable cond] {e : ε} {u : Unit}, require cond e = .ok u ↔ cond) ∧
    ∀ {α : Type} {value : Option α} {e : ε} {a : α}, orFail value e = .ok a ↔ value = some a :=
  ⟨bind_eq_ok, pure_eq_ok, require_eq_ok, orFail_eq_ok⟩

@[simp] theorem map_eq_ok {x : Except ε α} {f : α → β} {b : β} :
    x.map f = .ok b ↔ ∃ a, x = .ok a ∧ f a = b := by
  cases x <;> simp [Except.map]

/-- A program with its value made into another one, which may carry that it was returned. -/
def attach : (x : Except ε α) → ((a : α) → x = .ok a → β) → Except ε β
  | .ok a, make => .ok (make a rfl)
  | .error e, _ => .error e

theorem attach_eq_ok {x : Except ε α} {make : (a : α) → x = .ok a → β} {view : β → α}
    (injective : Function.Injective view) (made : ∀ a done, view (make a done) = a) {b : β} :
    attach x make = .ok b ↔ x = .ok (view b) := by
  cases x with
  | ok a => rw [attach, Except.ok.injEq, Except.ok.injEq, ← injective.eq_iff, made]
  | error e => simp [attach]

/-- The program returns, and what it returns has the property. -/
def Returns (x : Except ε α) (P : α → Prop) : Prop :=
  match x with
  | .ok a => P a
  | .error _ => False

instance (x : Except ε α) (P : α → Prop) [DecidablePred P] : Decidable (Returns x P) := by
  unfold Returns
  split <;> infer_instance

theorem Returns.exists {x : Except ε α} {P : α → Prop} (returns : Returns x P) :
    ∃ a, x = .ok a ∧ P a := by
  cases x with
  | ok a => exact ⟨a, rfl, returns⟩
  | error e => exact returns.elim

theorem mapM_returns {f : α → Except ε β} {as : List α} :
    (∃ bs, as.mapM f = .ok bs) ↔ ∀ a ∈ as, ∃ b, f a = .ok b := by
  induction as with
  | nil => simp [pure, Except.pure]
  | cons a rest ih =>
    simp only [List.mapM_cons, bind_eq_ok, pure_eq_ok, List.forall_mem_cons, ← ih]
    exact ⟨fun ⟨_, b, one, bs, those, _⟩ => ⟨⟨b, one⟩, bs, those⟩,
      fun ⟨⟨b, one⟩, bs, those⟩ => ⟨_, b, one, bs, those, rfl⟩⟩

theorem mapM_getElem? {f : α → Except ε β} {as : List α} {bs : List β} (done : as.mapM f = .ok bs)
    {i : ℕ} {a : α} (found : as[i]? = some a) : ∃ b, bs[i]? = some b ∧ f a = .ok b := by
  induction as generalizing bs i with
  | nil => simp at found
  | cons first rest ih =>
    simp only [List.mapM_cons, bind_eq_ok, pure_eq_ok] at done
    obtain ⟨b, one, bs, those, rfl⟩ := done
    cases i with
    | zero =>
      obtain rfl : first = a := by simpa using found
      exact ⟨b, rfl, one⟩
    | succ i => exact ih those (by simpa using found)

/-- Each statement of the list in turn, from the state the one before it left. -/
def inTurn (step : β → α → Except ε β) : β → List α → Except ε β
  | b, [] => .ok b
  | b, a :: as => do
      let b ← step b a
      inTurn step b as

@[simp] theorem inTurn_nil (step : β → α → Except ε β) (b : β) : inTurn step b [] = .ok b := rfl

@[simp] theorem inTurn_cons {step : β → α → Except ε β} {b : β} {a : α} {as : List α} :
    inTurn step b (a :: as) = step b a >>= fun b => inTurn step b as := rfl

/-- What every statement keeps, a sequence of them keeps. -/
theorem inTurn_keeps {step : β → α → Except ε β} {I : β → Prop} {as : List α}
    (keeps : ∀ b a b', a ∈ as → step b a = .ok b' → I b → I b') {b b' : β}
    (done : inTurn step b as = .ok b') (start : I b) : I b' := by
  induction as generalizing b with
  | nil =>
    cases done
    exact start
  | cons a as ih =>
    obtain ⟨next, first, rest⟩ := bind_eq_ok.mp done
    exact ih (fun b a b' mem => keeps b a b' (List.mem_cons_of_mem _ mem)) rest
      (keeps b a next List.mem_cons_self first start)

/-! ### Guarded steps -/

/-- Some number of steps, each admitted by `P` in the state it is taken from. -/
def Steps (step : β → α → Except ε β) (P : β → α → Prop) : β → β → Prop :=
  Relation.ReflTransGen fun b b' => ∃ a, P b a ∧ step b a = .ok b'

namespace Steps

variable {step : β → α → Except ε β} {P Q : β → α → Prop} {b b' b'' : β}

theorem refl (b : β) : Steps step P b b := Relation.ReflTransGen.refl

theorem one {a : α} (done : step b a = .ok b') (admitted : P b a) : Steps step P b b' :=
  Relation.ReflTransGen.single ⟨a, admitted, done⟩

theorem trans (first : Steps step P b b') (second : Steps step P b' b'') : Steps step P b b'' :=
  Relation.ReflTransGen.trans first second

theorem mono (imp : ∀ b a, P b a → Q b a) (steps : Steps step P b b') : Steps step Q b b' := by
  induction steps with
  | refl => exact refl _
  | tail _ last ih =>
    obtain ⟨a, admitted, done⟩ := last
    exact ih.trans (one done (imp _ a admitted))

/-- What every admitted step keeps, they all keep. -/
theorem keeps {I : β → Prop} (keep : ∀ b a b', P b a → step b a = .ok b' → I b → I b')
    (steps : Steps step P b b') (start : I b) : I b' := by
  induction steps with
  | refl => exact start
  | tail _ last ih =>
    obtain ⟨a, admitted, done⟩ := last
    exact keep _ a _ admitted done ih

/-- A preorder that contains every admitted step contains them all. -/
theorem preorder {R : β → β → Prop} (refl : ∀ b, R b b)
    (trans : ∀ b b' b'', R b b' → R b' b'' → R b b'')
    (steps : Steps step P b b') (contains : ∀ b a b', P b a → step b a = .ok b' → R b b') :
    R b b' :=
  steps.keeps (fun _ _ _ admitted done before =>
    trans _ _ _ before (contains _ _ _ admitted done)) (refl b)

end Steps

end Rokad.Base

/-!
## What a fallible program comes to

`Mirrors R x y`: the program `x` fails exactly where the abstract one `y` does, and what it returns
is related by `R` to what `y` returns. Programs are mirrored statement by statement
(`Mirrors.bind`, `Mirrors.inTurn`), so a fact about all runs of `x` is one about those of `y`.
-/

namespace Rokad.Base

variable {ε α β γ δ β' : Type}

theorem ok_bind (b : β) (f : β → Except ε γ) : (Except.ok b >>= f) = f b := rfl

def Mirrors (R : β → γ → Prop) (x : Except ε β) (y : Option γ) : Prop :=
  match x, y with
  | .ok b, some c => R b c
  | .error _, none => True
  | _, _ => False

namespace Mirrors

variable {R : β → γ → Prop} {S : β' → δ → Prop} {x : Except ε β} {y : Option γ}

theorem ok {b : β} {c : γ} (related : R b c) : Mirrors R (Except.ok b : Except ε β) (some c) :=
  related

theorem error (e : ε) : Mirrors R (Except.error e : Except ε β) none := trivial

theorem of_ok (mirrors : Mirrors R x y) {b : β} (done : x = .ok b) : ∃ c, y = some c ∧ R b c := by
  subst done
  cases y with
  | none => exact mirrors.elim
  | some c => exact ⟨c, rfl, mirrors⟩

theorem of_some (mirrors : Mirrors R x y) {c : γ} (done : y = some c) : ∃ b, x = .ok b ∧ R b c := by
  subst done
  cases x with
  | error e => exact mirrors.elim
  | ok b => exact ⟨b, rfl, mirrors⟩

theorem bind {f : β → Except ε β'} {g : γ → Option δ} (first : Mirrors R x y)
    (next : ∀ b c, R b c → Mirrors S (f b) (g c)) : Mirrors S (x >>= f) (y >>= g) := by
  cases x with
  | ok b =>
    cases y with
    | some c => exact next b c first
    | none => exact first.elim
  | error e =>
    cases y with
    | some c => exact first.elim
    | none => trivial

/-- A value made of what is returned. -/
theorem returning {f : β → β'} {S : β' → γ → Prop} (mirrors : Mirrors R x y)
    (related : ∀ b c, R b c → S (f b) c) : Mirrors S (x >>= fun b => pure (f b)) y := by
  cases x with
  | ok b =>
    cases y with
    | some c => exact related b c mirrors
    | none => exact mirrors.elim
  | error e =>
    cases y with
    | some c => exact mirrors.elim
    | none => trivial

/-- Statements in turn are mirrored when each of them is. -/
theorem inTurn {step : β → α → Except ε β} {post : γ → α → Option γ} {as : List α}
    (each : ∀ a ∈ as, ∀ b c, R b c → Mirrors R (step b a) (post c a)) {b : β} {c : γ}
    (start : R b c) : Mirrors R (Base.inTurn step b as) (as.foldlM post c) := by
  induction as generalizing b c with
  | nil => exact start
  | cons a as ih =>
    exact (each a List.mem_cons_self b c start).bind fun b c related =>
      ih (fun a mem => each a (List.mem_cons_of_mem _ mem)) related

end Mirrors

attribute [irreducible] Mirrors

end Rokad.Base
