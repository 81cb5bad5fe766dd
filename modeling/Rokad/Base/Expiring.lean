import Mathlib.Tactic

/-!
# Values that expire

A store whose entries may carry the time they live until. A look-up sees an entry up to
and including that time; writing, deleting and counting touch one key only.
-/

namespace Rokad.Base

variable {κ β : Type}

structure Entry (β : Type) where
  value : β
  expiresAt : Option ℕ

namespace Entry

def live (now : ℕ) (e : Entry β) : Bool :=
  match e.expiresAt with
  | none => true
  | some t => now ≤ t

/-- What has run out stays so. -/
theorem live_eq_false {e : Entry β} {start now : ℕ} (ended : e.live start = false)
    (after : start ≤ now) : e.live now = false := by
  obtain ⟨value, expiresAt⟩ := e
  cases expiresAt with
  | none => simp [live] at ended
  | some t =>
    simp only [live, decide_eq_false_iff_not, not_le] at ended ⊢
    exact ended.trans_le after

end Entry

/-- Entries by key. -/
abbrev Expiring (κ β : Type) := κ → Option (Entry β)

namespace Expiring

def empty : Expiring κ β := fun _ => none

/-- What a look-up at time `now` sees. -/
def get (s : Expiring κ β) (now : ℕ) (k : κ) : Option (Entry β) := (s k).filter (Entry.live now)

section

variable {s : Expiring κ β} {k : κ} {e : Entry β} {now : ℕ}

theorem get_eq_some_iff : s.get now k = some e ↔ s k = some e ∧ e.live now = true := by
  unfold get
  exact Option.filter_eq_some_iff

theorem get_eq_none_iff : s.get now k = none ↔ ∀ e, s k = some e → e.live now = false := by
  unfold get
  simp [Option.filter_eq_none_iff]

theorem get_congr {s' : Expiring κ β} (same : s' k = s k) : s'.get now k = s.get now k := by
  unfold get
  rw [same]

end

variable [DecidableEq κ]

def set (s : Expiring κ β) (k : κ) (e : Entry β) : Expiring κ β := Function.update s k (some e)

def del (s : Expiring κ β) (k : κ) : Expiring κ β := Function.update s k none

variable {s : Expiring κ β} {k k' : κ} {e : Entry β}

@[simp] theorem set_self : s.set k e k = some e := Function.update_self ..

@[simp] theorem del_self : s.del k k = none := Function.update_self ..

theorem set_of_ne (differ : k' ≠ k) : s.set k e k' = s k' := Function.update_of_ne differ ..

theorem del_of_ne (differ : k' ≠ k) : s.del k k' = s k' := Function.update_of_ne differ ..

end Expiring

end Rokad.Base
