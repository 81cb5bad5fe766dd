import Mathlib.Data.List.Nodup
import Mathlib.Data.Rat.Defs
import Mathlib.Algebra.BigOperators.Group.List.Basic
import Mathlib.Tactic

/-!
# Tables

A table is the list of its rows in the order a scan returns them, with the proof
that its unique constraints hold: no two rows share a primary key, and no two rows
`clash` on a further unique constraint of the schema. An insertion or an update
that would break a constraint has no result, as the statement would fail.

`insert_spec` and `update_spec` say all that the two statements do; what a later
proof needs about look-ups (`find?_insert`, `find?_update`) and about sums over a
column (`sum_insert`, `sum_update`) is read off them.
-/

namespace Rokad.Base

/-- A row type: its primary key and the other unique constraints of its table. -/
class Record (α : Type) where
  key : α → ℕ
  clash : α → α → Bool := fun _ _ => false
  clash_comm : ∀ a b, clash a b = clash b a := by intros; first | rfl | simp only [Bool.beq_comm]

open Record

structure Table (α : Type) [Record α] where
  rows : List α
  keys_nodup : (rows.map key).Nodup
  no_clash : ∀ a ∈ rows, ∀ b ∈ rows, key a ≠ key b → clash a b = false

namespace Table

variable {α : Type} [Record α]

@[ext] theorem ext {s t : Table α} (rows : s.rows = t.rows) : s = t := by
  cases s; cases t; cases rows; rfl

def empty : Table α := ⟨[], List.nodup_nil, by simp⟩

/-! ### Look-up -/

def find? (t : Table α) (k : ℕ) : Option α := t.rows.find? fun row => key row = k

/-- Two rows with one key are one row. -/
theorem eq_of_key_eq (t : Table α) {a b : α} (ha : a ∈ t.rows) (hb : b ∈ t.rows)
    (same : key a = key b) : a = b :=
  List.inj_on_of_nodup_map t.keys_nodup ha hb same

theorem find?_eq_none_iff (t : Table α) {k : ℕ} :
    t.find? k = none ↔ ∀ row ∈ t.rows, key row ≠ k := by
  simp [find?]

theorem find?_eq_some_iff (t : Table α) {k : ℕ} {row : α} :
    t.find? k = some row ↔ row ∈ t.rows ∧ key row = k := by
  constructor
  · intro found
    exact ⟨List.mem_of_find?_eq_some found, by simpa using List.find?_some found⟩
  · rintro ⟨mem, rfl⟩
    cases found : t.find? (key row) with
    | none => exact absurd rfl ((t.find?_eq_none_iff.mp found) row mem)
    | some other =>
      have memOther := List.mem_of_find?_eq_some found
      have same : key other = key row := by simpa using List.find?_some found
      rw [t.eq_of_key_eq memOther mem same]

theorem mem_of_find? {t : Table α} {k : ℕ} {row : α} (found : t.find? k = some row) :
    row ∈ t.rows := (t.find?_eq_some_iff.mp found).1

theorem key_of_find? {t : Table α} {k : ℕ} {row : α} (found : t.find? k = some row) :
    key row = k := (t.find?_eq_some_iff.mp found).2

theorem find?_key (t : Table α) {row : α} (mem : row ∈ t.rows) : t.find? (key row) = some row :=
  t.find?_eq_some_iff.mpr ⟨mem, rfl⟩

/-! ### Insertion -/

/-- A key above every key in use. -/
def fresh (t : Table α) : ℕ := (t.rows.map key).foldr max 0 + 1

theorem key_lt_fresh (t : Table α) {row : α} (mem : row ∈ t.rows) : key row < t.fresh := by
  have bound : ∀ keys : List ℕ, ∀ k ∈ keys, k ≤ keys.foldr max 0 := by
    intro keys
    induction keys with
    | nil => simp
    | cons first rest ih =>
      intro k hk
      rcases List.mem_cons.mp hk with rfl | hk
      · exact le_max_left _ _
      · exact (ih k hk).trans (le_max_right _ _)
  exact Nat.lt_succ_of_le (bound _ _ (List.mem_map_of_mem mem))

theorem find?_fresh (t : Table α) : t.find? t.fresh = none :=
  t.find?_eq_none_iff.mpr fun _ mem same => absurd (t.key_lt_fresh mem) (by omega)

def insert (t : Table α) (row : α) : Option (Table α) :=
  if h : (∀ x ∈ t.rows, key x ≠ key row) ∧ ∀ x ∈ t.rows, clash x row = false then
    some
      { rows := t.rows ++ [row]
        keys_nodup := by
          rw [List.map_append, List.nodup_append]
          refine ⟨t.keys_nodup, by simp, ?_⟩
          rintro a ha b hb rfl
          obtain ⟨x, hx, rfl⟩ := List.mem_map.mp ha
          exact h.1 x hx (by simpa using hb)
        no_clash := by
          intro a ha b hb differ
          rcases List.mem_append.mp ha with ha | ha <;> rcases List.mem_append.mp hb with hb | hb
          · exact t.no_clash a ha b hb differ
          · rw [List.mem_singleton.mp hb]
            exact h.2 a ha
          · rw [List.mem_singleton.mp ha, clash_comm]
            exact h.2 b hb
          · rw [List.mem_singleton.mp ha, List.mem_singleton.mp hb] at differ
            exact absurd rfl differ }
  else none

/-- The rows, inserted one after another. -/
def of (rows : List α) : Table α := rows.foldl (fun t row => (t.insert row).getD t) .empty

theorem insert_spec {t t' : Table α} {row : α} :
    t.insert row = some t' ↔ t'.rows = t.rows ++ [row] ∧ (∀ x ∈ t.rows, key x ≠ key row) ∧
        ∀ x ∈ t.rows, clash x row = false := by
  unfold insert
  split
  · rename_i h
    simp only [Option.some.injEq]
    exact ⟨fun same => same ▸ ⟨rfl, h⟩, fun ⟨rows, _⟩ => Table.ext rows.symm⟩
  · rename_i h
    simp only [reduceCtorEq, false_iff, not_and]
    exact fun _ fresh clear => h ⟨fresh, clear⟩

/-- A row with a fresh key is inserted when it clashes with none. -/
theorem insert_of_fresh (t : Table α) (row : α) (fresh : key row = t.fresh)
    (clear : ∀ x ∈ t.rows, clash x row = false) : ∃ t', t.insert row = some t' := by
  have new : ∀ x ∈ t.rows, key x ≠ key row := fun x mem same =>
    absurd (t.key_lt_fresh mem) (by omega)
  unfold insert
  rw [dif_pos ⟨new, clear⟩]
  exact ⟨_, rfl⟩

section

variable {t t' : Table α} {row x : α} (inserted : t.insert row = some t')
include inserted

theorem find?_insert (k : ℕ) : t'.find? k = if key row = k then some row else t.find? k := by
  obtain ⟨rows, fresh, -⟩ := insert_spec.mp inserted
  unfold find?
  rw [rows, List.find?_append]
  by_cases same : key row = k
  · subst same
    have none : t.find? (key row) = none := t.find?_eq_none_iff.mpr fresh
    unfold find? at none
    simp [none]
  · simp [same]

theorem find?_insert_of_found {k : ℕ} (found : t.find? k = some x) : t'.find? k = some x := by
  have fresh := (insert_spec.mp inserted).2.1
  have differ : key row ≠ k := fun same =>
    fresh x (mem_of_find? found) ((key_of_find? found).trans same.symm)
  rw [find?_insert inserted, if_neg differ]
  exact found

theorem sum_insert (g : α → ℚ) : (t'.rows.map g).sum = (t.rows.map g).sum + g row := by
  rw [(insert_spec.mp inserted).1]
  simp

theorem mem_insert : x ∈ t'.rows ↔ x ∈ t.rows ∨ x = row := by
  rw [(insert_spec.mp inserted).1]
  simp

end

/-! ### Update by key -/

/-- `UPDATE … WHERE key = k`, of columns other than the key. -/
def update (t : Table α) (k : ℕ) (f : α → α) (keep : ∀ a, key (f a) = key a) : Option (Table α) :=
  match found : t.find? k with
  | none => none
  | some row =>
    if h : ∀ x ∈ t.rows, key x ≠ k → clash (f row) x = false then
      some
        { rows := t.rows.map fun x => if key x = k then f x else x
          keys_nodup := by
            have same : (t.rows.map fun x => if key x = k then f x else x).map key =
                t.rows.map key := by
              rw [List.map_map]
              refine List.map_congr_left fun x _ => ?_
              simp only [Function.comp]
              split
              · exact keep x
              · rfl
            rw [same]
            exact t.keys_nodup
          no_clash := by
            have only : ∀ x ∈ t.rows, key x = k → x = row := fun x hx hk =>
              t.eq_of_key_eq hx (mem_of_find? found) (hk.trans (key_of_find? found).symm)
            intro a ha b hb differ
            obtain ⟨x, hx, rfl⟩ := List.mem_map.mp ha
            obtain ⟨y, hy, rfl⟩ := List.mem_map.mp hb
            by_cases hxk : key x = k <;> by_cases hyk : key y = k
            · simp only [hxk, hyk, if_true, keep, ne_eq, not_true_eq_false] at differ
            · simp only [hxk, hyk, if_true, if_false]
              rw [only x hx hxk]
              exact h y hy hyk
            · simp only [hxk, hyk, if_true, if_false]
              rw [only y hy hyk, clash_comm]
              exact h x hx hxk
            · simp only [hxk, hyk, if_false] at differ ⊢
              exact t.no_clash x hx y hy differ }
    else none

/-- Replacing the one row with key `k` moves a sum over the rows by the difference
that row makes. -/
theorem sum_map_replace (g : α → ℚ) (f : α → α) {row : α} {k : ℕ} :
    ∀ {rows : List α}, (rows.map key).Nodup → row ∈ rows → key row = k →
      ((rows.map fun x => if key x = k then f x else x).map g).sum =
        (rows.map g).sum - g row + g (f row)
  | [], _, mem, _ => by simp at mem
  | first :: rest, nodup, mem, hk => by
      rw [List.map_cons, List.nodup_cons] at nodup
      simp only [List.map_cons, List.sum_cons]
      by_cases same : key first = k
      · have rowFirst : row = first := by
          rcases List.mem_cons.mp mem with rfl | mem
          · rfl
          · exact absurd (List.mem_map.mpr ⟨row, mem, hk.trans same.symm⟩) nodup.1
        have untouched : (rest.map fun x => if key x = k then f x else x) = rest := by
          refine (List.map_congr_left fun x hx => ?_).trans (List.map_id rest)
          exact if_neg fun hxk => nodup.1 (List.mem_map.mpr ⟨x, hx, hxk.trans same.symm⟩)
        rw [untouched, if_pos same, rowFirst]
        ring
      · have memRest : row ∈ rest := (List.mem_cons.mp mem).resolve_left fun h => same (h ▸ hk)
        rw [if_neg same, sum_map_replace g f nodup.2 memRest hk]
        ring

section

variable {t t' : Table α} {k : ℕ} {f : α → α} {keep : ∀ a, key (f a) = key a} {row x : α}

theorem update_spec : t.update k f keep = some t' ↔
      ∃ row, t.find? k = some row ∧ (∀ x ∈ t.rows, key x ≠ k → clash (f row) x = false) ∧
        t'.rows = t.rows.map fun x => if key x = k then f x else x := by
  unfold update
  split
  · rename_i missing
    simp [missing]
  · rename_i row found
    split
    · rename_i h
      simp only [Option.some.injEq, found, exists_eq_left']
      exact ⟨fun same => ⟨h, same ▸ rfl⟩, fun ⟨_, rows⟩ => Table.ext rows.symm⟩
    · rename_i h
      simp only [reduceCtorEq, found, Option.some.injEq, exists_eq_left', false_iff, not_and]
      exact fun clear => absurd clear h

/-- An update goes through when its row exists and clashes with no other. -/
theorem update_of_clear (found : t.find? k = some row)
    (clear : ∀ x ∈ t.rows, key x ≠ k → clash (f row) x = false) : ∃ t', t.update k f keep = some t' := by
  unfold update
  split
  · rename_i missing
    rw [missing] at found
    cases found
  · rename_i other found'
    rw [found] at found'
    cases found'
    rw [dif_pos clear]
    exact ⟨_, rfl⟩

/-- An update that leaves the unique columns alone cannot clash. -/
theorem update_isSome (found : t.find? k = some row) (unique : ∀ a b, clash (f a) b = clash a b) :
    ∃ t', t.update k f keep = some t' := by
  have ⟨mem, hk⟩ := t.find?_eq_some_iff.mp found
  refine update_of_clear found fun x hx hxk => ?_
  rw [unique]
  exact t.no_clash row mem x hx fun same => hxk (same ▸ hk)

variable (updated : t.update k f keep = some t')
include updated

theorem find?_of_update : ∃ row, t.find? k = some row :=
  let ⟨row, found, _⟩ := update_spec.mp updated
  ⟨row, found⟩

theorem find?_update (j : ℕ) : t'.find? j = (t.find? j).map fun x => if j = k then f x else x := by
  obtain ⟨row, -, -, rows⟩ := update_spec.mp updated
  unfold find?
  rw [rows, List.find?_map]
  have same : ((fun x => decide (key x = j)) ∘ fun x => if key x = k then f x else x) =
      fun x => decide (key x = j) := by
    funext x
    simp only [Function.comp]
    split <;> simp [keep]
  rw [same]
  cases found : t.rows.find? fun x => decide (key x = j) with
  | none => rfl
  | some x =>
    have hx : key x = j := by simpa using List.find?_some found
    simp [hx]

theorem find?_update_self (found : t.find? k = some row) : t'.find? k = some (f row) := by
  simp [find?_update updated, found]

theorem find?_update_of_ne {j : ℕ} (differ : j ≠ k) : t'.find? j = t.find? j := by
  simp [find?_update updated, differ]

theorem mem_update : x ∈ t'.rows ↔ (x ∈ t.rows ∧ key x ≠ k) ∨ ∃ row, t.find? k = some row ∧ x = f row := by
  obtain ⟨row, found, -, rows⟩ := update_spec.mp updated
  have ⟨mem, hk⟩ := t.find?_eq_some_iff.mp found
  rw [rows, List.mem_map, found]
  constructor
  · rintro ⟨y, hy, rfl⟩
    by_cases hyk : key y = k
    · right
      exact ⟨row, rfl, by rw [if_pos hyk, t.eq_of_key_eq hy mem (hyk.trans hk.symm)]⟩
    · left
      rw [if_neg hyk]
      exact ⟨hy, hyk⟩
  · rintro (⟨hx, hxk⟩ | ⟨y, same, rfl⟩)
    · exact ⟨x, hx, if_neg hxk⟩
    · cases same
      exact ⟨row, mem, if_pos hk⟩

theorem map_key_update : t'.rows.map key = t.rows.map key := by
  obtain ⟨_, -, -, rows⟩ := update_spec.mp updated
  rw [rows, List.map_map]
  refine List.map_congr_left fun x _ => ?_
  by_cases hit : key x = k <;> simp [hit, keep]

/-- An update moves a column's sum by the difference the one row makes. -/
theorem sum_update (found : t.find? k = some row) (g : α → ℚ) :
    (t'.rows.map g).sum = (t.rows.map g).sum - g row + g (f row) := by
  obtain ⟨_, -, -, rows⟩ := update_spec.mp updated
  have ⟨mem, hk⟩ := t.find?_eq_some_iff.mp found
  rw [rows]
  exact sum_map_replace g f t.keys_nodup mem hk

end

/-! ### Update and removal of many rows -/

/-- `UPDATE … WHERE p`, of columns that no unique constraint is about. -/
def updateMany (t : Table α) (p : α → Bool) (f : α → α) (keep : ∀ a, key (f a) = key a)
    (unique : ∀ a b, clash (f a) b = clash a b) : Table α where
  rows := t.rows.map fun x => if p x then f x else x
  keys_nodup := by
    rw [List.map_map]
    refine (congrArg List.Nodup (List.map_congr_left fun x _ => ?_)).mpr t.keys_nodup
    simp only [Function.comp]
    split
    · exact keep x
    · rfl
  no_clash := by
    have key' : ∀ x : α, key (if p x then f x else x) = key x := fun x => by
      split
      · exact keep x
      · rfl
    have clash' : ∀ x b : α, clash (if p x then f x else x) b = clash x b := fun x b => by
      split
      · exact unique x b
      · rfl
    intro a ha b hb differ
    obtain ⟨x, hx, rfl⟩ := List.mem_map.mp ha
    obtain ⟨y, hy, rfl⟩ := List.mem_map.mp hb
    rw [key', key'] at differ
    rw [clash', clash_comm, clash', clash_comm]
    exact t.no_clash x hx y hy differ

/-- `DELETE … WHERE p` -/
def deleteMany (t : Table α) (p : α → Bool) : Table α where
  rows := t.rows.filter fun x => !p x
  keys_nodup := t.keys_nodup.sublist (List.filter_sublist.map key)
  no_clash := fun a ha b hb =>
    t.no_clash a (List.mem_of_mem_filter ha) b (List.mem_of_mem_filter hb)

section

variable {t : Table α} {p : α → Bool} {f : α → α} {keep : ∀ a, key (f a) = key a}
  {unique : ∀ a b, clash (f a) b = clash a b}

theorem find?_updateMany (k : ℕ) : (t.updateMany p f keep unique).find? k =
    (t.find? k).map fun x => if p x then f x else x := by
  unfold find? updateMany
  rw [List.find?_map]
  congr 2
  funext x
  simp only [Function.comp]
  split
  · rw [keep]
  · rfl

theorem mem_deleteMany {x : α} : x ∈ (t.deleteMany p).rows ↔ x ∈ t.rows ∧ p x = false := by
  simp [deleteMany]

theorem find?_deleteMany {k : ℕ} {row : α} :
    (t.deleteMany p).find? k = some row ↔ t.find? k = some row ∧ p row = false := by
  rw [find?_eq_some_iff, find?_eq_some_iff, mem_deleteMany]
  exact ⟨fun ⟨⟨mem, kept⟩, same⟩ => ⟨⟨mem, same⟩, kept⟩,
    fun ⟨⟨mem, same⟩, kept⟩ => ⟨⟨mem, kept⟩, same⟩⟩

/-- An update of no row. -/
theorem updateMany_of_none (none : ∀ x ∈ t.rows, p x = false) :
    t.updateMany p f keep unique = t := by
  refine Table.ext ((List.map_congr_left fun x mem => ?_).trans (List.map_id _))
  rw [none x mem]
  rfl

/-- Keys in use stay in use. -/
theorem fresh_updateMany : (t.updateMany p f keep unique).fresh = t.fresh := by
  have keys : (t.updateMany p f keep unique).rows.map key = t.rows.map key := by
    unfold updateMany
    rw [List.map_map]
    refine List.map_congr_left fun x _ => ?_
    simp only [Function.comp]
    split
    · exact keep x
    · rfl
  unfold fresh
  rw [keys]

/-- Rows may be updated after an insertion as well as before it. -/
theorem insert_updateMany {row row' : α} (same : (if p row then f row else row) = row') :
    (t.updateMany p f keep unique).insert row' =
      (t.insert row).map fun t' => t'.updateMany p f keep unique := by
  have key' : key row' = key row := by
    rw [← same]
    split
    · exact keep row
    · rfl
  have left (a b : α) : clash (if p a then f a else a) b = clash a b := by
    split
    · exact unique a b
    · rfl
  have clash' (x : α) : clash (if p x then f x else x) row' = clash x row := by
    rw [left, ← same, clash_comm, left, clash_comm]
  have keys (x : α) : key (if p x then f x else x) = key x := by
    split
    · exact keep x
    · rfl
  unfold insert
  by_cases free : (∀ x ∈ t.rows, key x ≠ key row) ∧ ∀ x ∈ t.rows, clash x row = false
  · have free' : (∀ x ∈ (t.updateMany p f keep unique).rows, key x ≠ key row') ∧
        ∀ x ∈ (t.updateMany p f keep unique).rows, clash x row' = false := by
      unfold updateMany
      simp only [List.forall_mem_map, keys, key', clash']
      exact free
    rw [dif_pos free, dif_pos free', Option.map_some]
    refine congrArg some (Table.ext ?_)
    simp [updateMany, same]
  · have free' : ¬ ((∀ x ∈ (t.updateMany p f keep unique).rows, key x ≠ key row') ∧
        ∀ x ∈ (t.updateMany p f keep unique).rows, clash x row' = false) := by
      unfold updateMany
      simp only [List.forall_mem_map, keys, key', clash']
      exact free
    rw [dif_neg free, dif_neg free', Option.map_none]

end

/-! ### Numbers of rows -/

section

variable {t t' : Table α}

/-- How many rows meet `p`. -/
def count (t : Table α) (p : α → Bool) : ℕ := t.rows.countP p

theorem count_insert {row : α} (inserted : t.insert row = some t') (p : α → Bool) :
    t'.count p = t.count p + if p row then 1 else 0 := by
  simp [count, (insert_spec.mp inserted).1, List.countP_singleton]

/-- An update moves the number by the difference the one row makes. -/
theorem count_update {k : ℕ} {f : α → α} {keep : ∀ a, key (f a) = key a} {row : α}
    (updated : t.update k f keep = some t') (found : t.find? k = some row) (p : α → Bool) :
    (t'.count p + if p row then 1 else 0) = t.count p + if p (f row) then 1 else 0 := by
  have sums (s : Table α) :
      (s.count p : ℚ) = (s.rows.map fun a => if p a then (1 : ℚ) else 0).sum := by
    unfold count
    induction s.rows with
    | nil => simp
    | cons a rows ih => by_cases meets : p a <;> simp [meets, ih, add_comm]
  have moved := sum_update updated found fun a => if p a then (1 : ℚ) else 0
  rw [← sums, ← sums] at moved
  have : (t'.count p : ℚ) + (if p row then 1 else 0) =
      t.count p + if p (f row) then 1 else 0 := by linarith
  exact_mod_cast this

/-- What leaves the set of rows that meet `p` makes them no more. -/
theorem count_update_le {k : ℕ} {f : α → α} {keep : ∀ a, key (f a) = key a}
    (updated : t.update k f keep = some t') {p : α → Bool}
    (leaves : ∀ row, t.find? k = some row → p (f row) = true → p row = true) :
    t'.count p ≤ t.count p := by
  obtain ⟨row, found⟩ := find?_of_update updated
  have moved := count_update updated found p
  by_cases after : p (f row) = true
  · simp only [leaves row found after, after, if_true] at moved
    omega
  · simp only [after, Bool.false_eq_true, if_false] at moved
    omega

theorem count_deleteMany (p q : α → Bool) : (t.deleteMany q).count p ≤ t.count p :=
  List.filter_sublist.countP_le

theorem count_eq_zero_iff {p : α → Bool} : t.count p = 0 ↔ ∀ a ∈ t.rows, p a = false := by
  simp [count, List.countP_eq_zero]

end

/-! ### What a table keeps -/

/-- Every row of `t` is still there in `t'`, changed as `R` allows. -/
def Grows (R : α → α → Prop) (t t' : Table α) : Prop :=
  ∀ k row, t.find? k = some row → ∃ row', t'.find? k = some row' ∧ R row row'

namespace Grows

variable {R : α → α → Prop} {t t' t'' : Table α}

theorem refl (same : ∀ a, R a a) (t : Table α) : Grows R t t :=
  fun _ row found => ⟨row, found, same row⟩

theorem trans (chain : ∀ a b c, R a b → R b c → R a c) (first : Grows R t t')
    (second : Grows R t' t'') : Grows R t t'' := by
  intro k row found
  obtain ⟨mid, foundMid, toMid⟩ := first k row found
  obtain ⟨last, foundLast, toLast⟩ := second k mid foundMid
  exact ⟨last, foundLast, chain _ _ _ toMid toLast⟩

theorem insert (same : ∀ a, R a a) {row : α} (inserted : t.insert row = some t') : Grows R t t' :=
  fun _ x found => ⟨x, find?_insert_of_found inserted found, same x⟩

theorem update (same : ∀ a, R a a) {k : ℕ} {f : α → α} {keep : ∀ a, key (f a) = key a}
    (updated : t.update k f keep = some t') (changed : ∀ a, R a (f a)) : Grows R t t' := by
  intro j x found
  refine ⟨_, (find?_update updated j).trans (congrArg _ found), ?_⟩
  dsimp only
  split
  · exact changed x
  · exact same x

theorem updateMany (same : ∀ a, R a a) {p : α → Bool} {f : α → α}
    (keep : ∀ a, key (f a) = key a) (unique : ∀ a b, clash (f a) b = clash a b)
    (changed : ∀ a, R a (f a)) : Grows R t (t.updateMany p f keep unique) := by
  intro j x found
  refine ⟨_, (find?_updateMany j).trans (congrArg _ found), ?_⟩
  dsimp only
  split
  · exact changed x
  · exact same x

end Grows

/-! ### Foreign keys -/

/-- A nullable key is null or the key of a row. -/
def has (t : Table α) : Option ℕ → Bool
  | none => true
  | some k => (t.find? k).isSome

theorem has_some_iff {t : Table α} {k : ℕ} :
    t.has (some k) = true ↔ ∃ row, t.find? k = some row := by
  simp [has, Option.isSome_iff_exists]

theorem has_insert {t t' : Table α} {row : α} (inserted : t.insert row = some t') {k : Option ℕ}
    (present : t.has k = true) : t'.has k = true := by
  cases k with
  | none => rfl
  | some k =>
    simp only [has, find?_insert inserted] at present ⊢
    split <;> simp_all

theorem has_update {t t' : Table α} {k : ℕ} {f : α → α} {keep : ∀ a, key (f a) = key a}
    (updated : t.update k f keep = some t') (j : Option ℕ) : t'.has j = t.has j := by
  cases j with
  | none => rfl
  | some j => simp [has, find?_update updated]

theorem has_updateMany {t : Table α} {p : α → Bool} {f : α → α} {keep : ∀ a, key (f a) = key a}
    {unique : ∀ a b, clash (f a) b = clash a b} (j : Option ℕ) :
    (t.updateMany p f keep unique).has j = t.has j := by
  cases j with
  | none => rfl
  | some j => simp [has, find?_updateMany]

variable {β : Type} [Record β]

/-- The row refers to a parent that meets `p`. -/
def orphaned (fk : α → Option ℕ) (parent : Table β) (p : β → Bool) (row : α) : Bool :=
  (fk row).any fun k => (parent.find? k).any p

/-- The foreign key `fk` of every child row is null or a row of the parent table. -/
def References (fk : α → Option ℕ) (child : Table α) (parent : Table β) : Prop :=
  ∀ row ∈ child.rows, parent.has (fk row) = true
deriving Decidable

namespace References

variable {fk : α → Option ℕ} {child child' : Table α} {parent parent' : Table β}
  (refs : References fk child parent)
include refs

theorem insert_parent {row : β}
    (inserted : parent.insert row = some parent') : References fk child parent' :=
  fun x mem => has_insert inserted (refs x mem)

theorem update_parent {k : ℕ} {f : β → β}
    {keep : ∀ b, key (f b) = key b} (updated : parent.update k f keep = some parent') :
    References fk child parent' :=
  fun x mem => (has_update updated _).trans (refs x mem)

theorem insert_child {row : α}
    (inserted : child.insert row = some child') (present : parent.has (fk row) = true) :
    References fk child' parent := by
  intro x mem
  rcases (mem_insert inserted).mp mem with mem | rfl
  · exact refs x mem
  · exact present

theorem update_child {k : ℕ} {f : α → α}
    {keep : ∀ a, key (f a) = key a} (updated : child.update k f keep = some child')
    (present : ∀ row, parent.has (fk row) = true → parent.has (fk (f row)) = true) :
    References fk child' parent := by
  intro x mem
  rcases (mem_update updated).mp mem with ⟨mem, -⟩ | ⟨row, found, rfl⟩
  · exact refs x mem
  · exact present row (refs row (mem_of_find? found))

theorem updateMany_parent {p : β → Bool} {f : β → β}
    (keep : ∀ b, key (f b) = key b) (unique : ∀ a b, clash (f a) b = clash a b) :
    References fk child (parent.updateMany p f keep unique) :=
  fun x mem => (has_updateMany _).trans (refs x mem)

theorem updateMany_child {p : α → Bool} {f : α → α}
    (keep : ∀ a, key (f a) = key a) (unique : ∀ a b, clash (f a) b = clash a b)
    (present : ∀ row, parent.has (fk row) = true → parent.has (fk (f row)) = true) :
    References fk (child.updateMany p f keep unique) parent := by
  intro x mem
  obtain ⟨row, own, rfl⟩ := List.mem_map.mp mem
  split
  · exact present row (refs row own)
  · exact refs row own

theorem deleteMany_child (p : α → Bool) : References fk (child.deleteMany p) parent :=
  fun x mem => refs x (mem_deleteMany.mp mem).1

/-- `ON DELETE CASCADE`: the children of the parents deleted go with them. -/
theorem cascade (p : β → Bool) :
    References fk (child.deleteMany (orphaned fk parent p)) (parent.deleteMany p) := by
  intro x mem
  obtain ⟨own, kept⟩ := mem_deleteMany.mp mem
  have present := refs x own
  unfold orphaned at kept
  cases referred : fk x with
  | none => rfl
  | some k =>
    rw [referred] at present kept
    obtain ⟨row, found⟩ := has_some_iff.mp present
    have stays : p row = false := by simpa [found] using kept
    exact has_some_iff.mpr ⟨row, find?_deleteMany.mpr ⟨found, stays⟩⟩

end References

/-! ### Rows in slots -/

variable {κ : Type} {slot : α → κ} {t t' : Table α} {k : ℕ} {f : α → α}
  {keep : ∀ a, key (f a) = key a}

/-- No two rows are in one slot. -/
def OneEach (slot : α → κ) (t : Table α) : Prop :=
  ∀ a ∈ t.rows, ∀ b ∈ t.rows, slot a = slot b → a = b

theorem OneEach.insert (one : OneEach slot t) {row : α} (inserted : t.insert row = some t')
    (free : ∀ x ∈ t.rows, slot x ≠ slot row) : OneEach slot t' := by
  intro a ha b hb same
  rcases (mem_insert inserted).mp ha with ha | rfl <;>
    rcases (mem_insert inserted).mp hb with hb | rfl
  · exact one a ha b hb same
  · exact absurd same (free a ha)
  · exact absurd same.symm (free b hb)
  · rfl

/-- An update that moves no row to another slot. -/
theorem OneEach.update (one : OneEach slot t) (updated : t.update k f keep = some t')
    (stays : ∀ a, slot (f a) = slot a) : OneEach slot t' := by
  obtain ⟨_, -, -, rows⟩ := update_spec.mp updated
  have slot' (x : α) : slot (if key x = k then f x else x) = slot x := by
    split
    · exact stays x
    · rfl
  intro a ha b hb same
  rw [rows] at ha hb
  obtain ⟨x, hx, rfl⟩ := List.mem_map.mp ha
  obtain ⟨y, hy, rfl⟩ := List.mem_map.mp hb
  rw [slot', slot'] at same
  rw [one x hx y hy same]

variable [DecidableEq κ]

instance [DecidableEq α] : Decidable (OneEach slot t) :=
  inferInstanceAs (Decidable (∀ a ∈ t.rows, ∀ b ∈ t.rows, slot a = slot b → a = b))

/-- The first row in the slot. -/
def inSlot (slot : α → κ) (t : Table α) (j : κ) : Option α := t.rows.find? fun row => slot row = j

theorem inSlot_eq_none {j : κ} : t.inSlot slot j = none ↔ ∀ row ∈ t.rows, slot row ≠ j := by
  simp [inSlot]

theorem inSlot_eq_some (one : OneEach slot t) {row : α} {j : κ} :
    t.inSlot slot j = some row ↔ row ∈ t.rows ∧ slot row = j := by
  constructor
  · intro found
    exact ⟨List.mem_of_find?_eq_some found, by simpa using List.find?_some found⟩
  · rintro ⟨mem, rfl⟩
    cases found : t.inSlot slot (slot row) with
    | none => exact absurd rfl (inSlot_eq_none.mp found row mem)
    | some other =>
      have same : slot other = slot row := by simpa using List.find?_some found
      rw [one other (List.mem_of_find?_eq_some found) row mem same]

theorem inSlot_insert {row : α} (inserted : t.insert row = some t')
    (free : ∀ x ∈ t.rows, slot x ≠ slot row) (j : κ) :
    t'.inSlot slot j = if j = slot row then some row else t.inSlot slot j := by
  have before : t.inSlot slot (slot row) = none := inSlot_eq_none.mpr free
  unfold inSlot at before ⊢
  rw [(insert_spec.mp inserted).1, List.find?_append]
  by_cases here : j = slot row
  · rw [here, before]
    simp
  · simp [here, Ne.symm here]

theorem inSlot_update (updated : t.update k f keep = some t') (stays : ∀ a, slot (f a) = slot a)
    (j : κ) : t'.inSlot slot j = (t.inSlot slot j).map fun x => if key x = k then f x else x := by
  obtain ⟨_, -, -, rows⟩ := update_spec.mp updated
  unfold inSlot
  rw [rows, List.find?_map]
  have same : ((fun x => decide (slot x = j)) ∘ fun x => if key x = k then f x else x) =
      fun x => decide (slot x = j) := by
    funext x
    simp only [Function.comp]
    split <;> simp [stays]
  rw [same]

end Table

export Table (mem_of_find? key_of_find? find?_key find?_fresh insert_spec mem_insert update_isSome
  mem_update find?_update_self has_some_iff)

end Rokad.Base
