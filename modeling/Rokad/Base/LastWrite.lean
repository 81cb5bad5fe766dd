import Mathlib.Tactic

/-!
# The last write

Writes to keys, one after the other: each key holds what was last written to it. The outcome is the
same in every order exactly when writes to one key agree (`lastWrite_perm_iff`).
-/

namespace Rokad.Base

variable {α κ β : Type} [DecidableEq κ] (key : α → κ) (value : α → β)

def lastWrite (writes : List α) (k : κ) : Option β :=
  (writes.reverse.find? fun a => key a = k).map value

variable {key value} {writes : List α} {a : α} {k : κ}

theorem lastWrite_cons : lastWrite key value (a :: writes) k =
    (lastWrite key value writes k).or (if key a = k then some (value a) else none) := by
  unfold lastWrite
  rw [List.reverse_cons, List.find?_append, Option.map_or]
  congr 1
  by_cases here : key a = k
  · simp [here]
  · simp [here]

theorem lastWrite_append_singleton : lastWrite key value (writes ++ [a]) k =
    if key a = k then some (value a) else lastWrite key value writes k := by
  unfold lastWrite
  rw [List.reverse_append, List.reverse_singleton, List.singleton_append, List.find?_cons]
  by_cases here : key a = k
  · simp [here]
  · simp [here]

theorem lastWrite_eq_none_iff : lastWrite key value writes k = none ↔ ∀ a ∈ writes, key a ≠ k := by
  simp [lastWrite]

theorem exists_of_lastWrite {b : β} (last : lastWrite key value writes k = some b) :
    ∃ a ∈ writes, key a = k ∧ value a = b := by
  obtain ⟨a, found, rfl⟩ := Option.map_eq_some_iff.mp last
  exact ⟨a, List.mem_reverse.mp (List.mem_of_find?_eq_some found), by
    simpa using List.find?_some found, rfl⟩

/-- Over any start, the order of the writes makes no difference exactly when those to one key
agree. -/
theorem lastWrite_perm_iff (start : κ → β) :
    (∀ others, others.Perm writes → ∀ k, (lastWrite key value others k).getD (start k) =
        (lastWrite key value writes k).getD (start k)) ↔
      ∀ a ∈ writes, ∀ b ∈ writes, key a = key b → value a = value b := by
  constructor
  · intro same a memA b memB sameKey
    have final {c : α} (mem : c ∈ writes) :
        (lastWrite key value writes (key c)).getD (start (key c)) = value c := by
      obtain ⟨before, after, rfl⟩ := List.append_of_mem mem
      have moved : (before ++ after ++ [c]).Perm (before ++ c :: after) := by
        rw [List.append_assoc]
        exact (List.perm_append_left_iff before).mpr (List.perm_append_singleton c after)
      rw [← same _ moved, lastWrite_append_singleton, if_pos rfl, Option.getD_some]
    rw [← final memA, sameKey, final memB]
  · intro agree others perm k
    congr 1
    cases last : lastWrite key value others k with
    | none =>
      rw [lastWrite_eq_none_iff] at last
      exact (lastWrite_eq_none_iff.mpr fun a mem => last a (perm.mem_iff.mpr mem)).symm
    | some b =>
      obtain ⟨a, memA, keyA, rfl⟩ := exists_of_lastWrite last
      cases here : lastWrite key value writes k with
      | none => exact absurd keyA (lastWrite_eq_none_iff.mp here a (perm.mem_iff.mp memA))
      | some b =>
        obtain ⟨a', memA', keyA', rfl⟩ := exists_of_lastWrite here
        rw [agree a (perm.mem_iff.mp memA) a' memA' (keyA.trans keyA'.symm)]

/-- Where writes to one key agree, a key that is written holds what each of them wrote. -/
theorem lastWrite_eq_some (agree : ∀ b ∈ writes, key b = key a → value b = value a)
    (mem : a ∈ writes) : lastWrite key value writes (key a) = some (value a) := by
  cases last : lastWrite key value writes (key a) with
  | none => exact absurd rfl (lastWrite_eq_none_iff.mp last a mem)
  | some b =>
    obtain ⟨a', mem', same, rfl⟩ := exists_of_lastWrite last
    rw [agree a' mem' same]

/-- Every order of what is chosen of a list comes of some order of the list. -/
theorem exists_perm_filter (p : α → Bool) {as others : List α} (perm : others.Perm (as.filter p)) :
    ∃ bs : List α, bs.Perm as ∧ bs.filter p = others := by
  have chosen : ∀ a ∈ others, p a = true := fun a mem =>
    (List.mem_filter.mp (perm.mem_iff.mp mem)).2
  refine ⟨others ++ as.filter fun a => !p a, ?_, ?_⟩
  · exact (perm.append_right _).trans (List.filter_append_perm p as)
  · rw [List.filter_append, List.filter_eq_self.mpr chosen, List.filter_filter]
    simp

end Rokad.Base
