import Mathlib.Tactic

/-!
# Periods

A period starts at a point of a linear order and may have an end. Of two periods one has ended when
the other starts exactly when no point lies in both but for the one where one ends and the other
starts (`meetOnly_iff`). A period that is cut short stays apart from whatever it was apart from.
-/

namespace Rokad.Base

structure Period (τ : Type) where
  start : τ
  stop : Option τ

namespace Period

variable {τ : Type} [LinearOrder τ]

def Ordered (p : Period τ) : Prop := ∀ stop ∈ p.stop, p.start ≤ stop

/-- The point lies in the period, ends included. -/
def Covers (p : Period τ) (t : τ) : Prop := p.start ≤ t ∧ ∀ stop ∈ p.stop, t ≤ stop

def Inside (p : Period τ) (t : τ) : Prop := p.start < t ∧ ∀ stop ∈ p.stop, t < stop

/-- No point lies strictly inside both. -/
def Apart (p q : Period τ) : Prop := ∀ t, ¬ (p.Inside t ∧ q.Inside t)

/-- The one has ended when the other starts. -/
def Before (p q : Period τ) : Prop := ∃ stop ∈ p.stop, stop ≤ q.start
deriving Decidable

/-- A point of both is where one ends and the other starts. -/
def MeetOnly (p q : Period τ) : Prop :=
  ∀ t, p.Covers t → q.Covers t → p.stop = some t ∧ q.start = t ∨ q.stop = some t ∧ p.start = t

/-- The period, ended at a point. -/
def cut (p : Period τ) (t : τ) : Period τ := { p with stop := some t }

instance (p : Period τ) : Decidable p.Ordered := inferInstanceAs (Decidable (∀ stop ∈ p.stop, _))

variable {p q : Period τ} {t : τ}

theorem Before.apart (before : p.Before q) : p.Apart q := by
  obtain ⟨stop, isStop, ended⟩ := before
  rintro t ⟨inP, inQ⟩
  exact absurd (inP.2 stop isStop) (not_lt.mpr (ended.trans inQ.1.le))

theorem Apart.symm (apart : p.Apart q) : q.Apart p := fun t both => apart t both.symm

theorem ordered_cut_iff : (p.cut t).Ordered ↔ p.start ≤ t := by
  simp [Ordered, cut]

theorem Apart.cut (apart : p.Apart q) (later : ∀ stop ∈ p.stop, t < stop) : (p.cut t).Apart q := by
  rintro u ⟨inP, inQ⟩
  have ended : u < t := inP.2 t rfl
  exact apart u ⟨⟨inP.1, fun stop isStop => ended.trans (later stop isStop)⟩, inQ⟩

theorem before_cut (later : t ≤ q.start) : (p.cut t).Before q := ⟨t, rfl, later⟩

theorem Before.cut (before : p.Before q) (later : ∀ stop ∈ p.stop, t < stop) :
    (p.cut t).Before q := by
  obtain ⟨stop, isStop, ended⟩ := before
  exact before_cut ((later stop isStop).le.trans ended)

/-- Two periods meet at an end of one and the start of the other only, exactly when one has ended
when the other starts. -/
theorem meetOnly_iff (ordered : p.Ordered) (ordered' : q.Ordered) :
    p.MeetOnly q ↔ p.Before q ∨ q.Before p := by
  constructor
  · intro meet
    by_contra apart
    simp only [Before, not_or, not_exists, not_and, not_le] at apart
    obtain ⟨inP, inQ⟩ := apart
    -- the later of the two starts lies in both
    have covers : p.Covers (max p.start q.start) :=
      ⟨le_max_left _ _, fun stop isStop => max_le (ordered stop isStop) (inP stop isStop).le⟩
    have covers' : q.Covers (max p.start q.start) :=
      ⟨le_max_right _ _, fun stop isStop => max_le (inQ stop isStop).le (ordered' stop isStop)⟩
    rcases meet _ covers covers' with ⟨isStop, start⟩ | ⟨isStop, start⟩
    · exact absurd (inP _ isStop) (not_lt.mpr start.ge)
    · exact absurd (inQ _ isStop) (not_lt.mpr start.ge)
  · have meet {p q : Period τ} (before : p.Before q) {t : τ} (inP : p.Covers t) (inQ : q.Covers t) :
        p.stop = some t ∧ q.start = t := by
      obtain ⟨stop, isStop, ended⟩ := before
      have same : stop = t := le_antisymm (ended.trans inQ.1) (inP.2 stop isStop)
      exact ⟨same ▸ isStop, le_antisymm inQ.1 (same ▸ ended)⟩
    rintro (before | before) t inP inQ
    · exact .inl (meet before inP inQ)
    · exact .inr (meet before inQ inP)

end Period

end Rokad.Base
