import Mathlib.Data.List.Nodup
import Mathlib.Tactic

/-!
# Maps in order of insertion

A `Dict` lists its entries in the order their keys first came in, no key twice. `get?_set` says
what one write does; `get?_foldl_set` says what a whole list of writes does: of each key, the
last one counts.
-/

namespace Rokad.Base

structure Dict (κ ν : Type) where
  entries : List (κ × ν)
  keys_nodup : (entries.map (·.1)).Nodup

namespace Dict

variable {κ ν : Type} [DecidableEq κ]

def empty : Dict κ ν := ⟨[], List.nodup_nil⟩

def get? (d : Dict κ ν) (k : κ) : Option ν := (d.entries.find? fun e => e.1 = k).map (·.2)

/-- The entry of a key is replaced where it stands; a new key comes last. -/
def set (d : Dict κ ν) (k : κ) (v : ν) : Dict κ ν :=
  if found : k ∈ d.entries.map (·.1) then
    { entries := d.entries.map fun e => if e.1 = k then (k, v) else e
      keys_nodup := by
        have same : (d.entries.map fun e => if e.1 = k then (k, v) else e).map (·.1) =
            d.entries.map (·.1) := by
          rw [List.map_map]
          refine List.map_congr_left fun e _ => ?_
          by_cases this : e.1 = k <;> simp [this]
        rw [same]
        exact d.keys_nodup }
  else
    { entries := d.entries ++ [(k, v)]
      keys_nodup := by
        rw [List.map_append]
        refine List.nodup_append.mpr ⟨d.keys_nodup, by simp, ?_⟩
        rintro a mem b last rfl
        obtain rfl : a = k := by simpa using last
        exact found mem }

@[simp] theorem get?_empty (k : κ) : (empty : Dict κ ν).get? k = none := rfl

theorem get?_eq_none_iff {d : Dict κ ν} {k : κ} : d.get? k = none ↔ k ∉ d.entries.map (·.1) := by
  simp only [get?, Option.map_eq_none_iff, List.find?_eq_none, List.mem_map, decide_eq_true_eq]
  exact ⟨fun absent ⟨e, mem, same⟩ => absent e mem same,
    fun absent e mem same => absent ⟨e, mem, same⟩⟩

theorem get?_eq_some_iff {d : Dict κ ν} {k : κ} {v : ν} :
    d.get? k = some v ↔ (k, v) ∈ d.entries := by
  unfold get?
  constructor
  · intro found
    obtain ⟨e, first, rfl⟩ := Option.map_eq_some_iff.mp found
    obtain rfl : e.1 = k := by simpa using List.find?_some first
    exact List.mem_of_find?_eq_some first
  · intro mem
    cases first : d.entries.find? fun e => decide (e.1 = k) with
    | none =>
      have differ := List.find?_eq_none.mp first _ mem
      simp at differ
    | some e =>
      have key : e.1 = k := by simpa using List.find?_some first
      have same := List.inj_on_of_nodup_map d.keys_nodup (List.mem_of_find?_eq_some first) mem key
      rw [Option.map_some, same]

theorem get?_set (d : Dict κ ν) (k : κ) (v : ν) (k' : κ) :
    (d.set k v).get? k' = if k = k' then some v else d.get? k' := by
  unfold set
  split
  · rename_i found
    by_cases same : k = k'
    · subst same
      rw [if_pos rfl]
      obtain ⟨e, mem, key⟩ := List.mem_map.mp found
      exact get?_eq_some_iff.mpr (List.mem_map.mpr ⟨e, mem, if_pos key⟩)
    · rw [if_neg same]
      ext w
      simp only [get?_eq_some_iff, List.mem_map]
      constructor
      · rintro ⟨e, mem, is⟩
        by_cases key : e.1 = k
        · rw [if_pos key] at is
          exact absurd (congrArg Prod.fst is) same
        · rw [if_neg key] at is
          exact is ▸ mem
      · exact fun mem => ⟨_, mem, if_neg (Ne.symm same)⟩
  · rename_i absent
    by_cases same : k = k'
    · subst same
      rw [if_pos rfl]
      exact get?_eq_some_iff.mpr (List.mem_append.mpr (Or.inr (List.mem_singleton.mpr rfl)))
    · simp [get?, List.find?_append, same]

/-- **Last writer wins.** -/
theorem get?_foldl_set {α : Type} (key : α → κ) (value : α → ν) (xs : List α) (d : Dict κ ν)
    (k : κ) : (xs.foldl (fun d x => d.set (key x) (value x)) d).get? k =
      ((xs.filter fun x => key x = k).getLast?.map value).or (d.get? k) := by
  induction xs using List.reverseRecOn with
  | nil => simp
  | append_singleton rest last ih =>
    rw [List.foldl_append, List.foldl_cons, List.foldl_nil, get?_set, ih, List.filter_append]
    by_cases same : key last = k <;> simp [same]

end Dict

/-!
## Counting in a plain object

`counts[key] = (counts[key] || 0) + 1`, on an object that starts as `{}` and for keys that may be
any texts. A name that every object inherits is never counted: what is read there at first is a
function or the prototype, and one more than that is a text (`read_tally_inherited`); the prototype
itself cannot be replaced by a text at all. Every other key is counted as often as it came
(`read_tally`).
-/

/-- The names that an object has without being given them. -/
def inheritedNames : List String :=
  ["constructor", "__defineGetter__", "__defineSetter__", "hasOwnProperty", "__lookupGetter__",
    "__lookupSetter__", "isPrototypeOf", "propertyIsEnumerable", "toString", "valueOf",
    "__proto__", "toLocaleString"]

/-- What is read under a key: a number, a text, or what is inherited under a name. -/
inductive Count where
  | number (n : ℕ)
  | text (s : String)
  | inherited (name : String)

namespace Count

/-- An inherited function or the prototype, as a text. -/
def inheritedText (name : String) : String :=
  if name = "__proto__" then "[object Object]"
  else if name = "constructor" then "function Object() \x7b [native code] \x7d"
  else "function " ++ name ++ "() \x7b [native code] \x7d"

/-- `count + 1` -/
def succ : Count → Count
  | .number n => .number (n + 1)
  | .text s => .text (s ++ "1")
  | .inherited name => .text (inheritedText name ++ "1")

end Count

abbrev Counts := Dict String Count

namespace Counts

/-- `counts[key] || 0` -/
def read (counts : Counts) (key : String) : Count :=
  match counts.get? key with
  | some count => count
  | none => if key ∈ inheritedNames then .inherited key else .number 0

/-- `counts[key] = (counts[key] || 0) + 1`; the prototype is only replaced by an object. -/
def increment (counts : Counts) (key : String) : Counts :=
  if key = "__proto__" then counts else counts.set key (counts.read key).succ

def tally (keys : List String) : Counts := keys.foldl increment Dict.empty

/-! ### Its entries -/

/-- The number that a key is an index with. -/
def arrayIndex (key : String) : Option ℕ :=
  key.toNat?.filter fun n => toString n = key ∧ n < 2 ^ 32 - 1

/-- `Object.entries(counts)`: the indices by size, then the other keys as they came in. -/
def ordered (counts : Counts) : List (String × Count) :=
  ((counts.entries.filter fun e => (arrayIndex e.1).isSome).insertionSort fun a b =>
      (arrayIndex a.1).getD 0 ≤ (arrayIndex b.1).getD 0) ++
    counts.entries.filter fun e => !(arrayIndex e.1).isSome

theorem ordered_perm (counts : Counts) : counts.ordered.Perm counts.entries :=
  ((List.perm_insertionSort _ _).append_right _).trans (List.filter_append_perm _ _)

/-! ### What is counted -/

variable {keys : List String} {key : String}

theorem get?_increment (counts : Counts) (key k : String) : (counts.increment key).get? k =
    if key = k ∧ key ≠ "__proto__" then some (counts.read key).succ else counts.get? k := by
  unfold increment
  by_cases prototype : key = "__proto__"
  · simp [prototype]
  · simp [prototype, Dict.get?_set]

theorem tally_append_singleton (keys : List String) (key : String) :
    tally (keys ++ [key]) = (tally keys).increment key := by
  simp [tally]

theorem get?_tally (plain : key ∉ inheritedNames) : (tally keys).get? key =
    if key ∈ keys then some (.number (keys.count key)) else none := by
  have notPrototype : key ≠ "__proto__" := by
    rintro rfl
    exact plain (by decide)
  induction keys using List.reverseRecOn with
  | nil => rfl
  | append_singleton rest last ih =>
    rw [tally_append_singleton, get?_increment]
    by_cases same : last = key
    · subst same
      have before : (tally rest).read last = .number (rest.count last) := by
        unfold read
        rw [ih]
        by_cases mem : last ∈ rest
        · simp [mem]
        · simp [mem, plain, List.count_eq_zero.mpr mem]
      simp [notPrototype, before, Count.succ]
    · simp [same, Ne.symm same, ih]

/-- A key that is not inherited is counted as often as it comes. -/
theorem read_tally (plain : key ∉ inheritedNames) :
    (tally keys).read key = .number (keys.count key) := by
  unfold read
  rw [get?_tally plain]
  by_cases mem : key ∈ keys
  · simp [mem]
  · simp [mem, plain, List.count_eq_zero.mpr mem]

/-- An inherited name is not. -/
theorem read_tally_inherited (inherited : key ∈ inheritedNames) (n : ℕ) :
    (tally keys).read key ≠ .number n := by
  have noNumber : ∀ n, (tally keys).get? key ≠ some (.number n) := by
    induction keys using List.reverseRecOn with
    | nil => simp [tally]
    | append_singleton rest last ih =>
      intro n
      rw [tally_append_singleton, get?_increment]
      split
      · rename_i same
        obtain ⟨rfl, -⟩ := same
        cases found : (tally rest).get? last with
        | none => simp [read, found, inherited, Count.succ]
        | some count =>
          cases count with
          | number m => exact absurd found (ih m)
          | text _ | inherited _ => simp [read, found, Count.succ]
      · exact ih n
  unfold read
  split
  · rename_i count found
    intro isNumber
    exact noNumber n (isNumber ▸ found)
  · simp [inherited]

theorem read_tally_number : (∃ n, (tally keys).read key = .number n) ↔ key ∉ inheritedNames := by
  constructor
  · rintro ⟨n, isNumber⟩ inherited
    exact read_tally_inherited inherited n isNumber
  · exact fun plain => ⟨_, read_tally plain⟩

theorem mem_keys_tally : key ∈ (tally keys).entries.map (·.1) ↔ key ∈ keys ∧ key ≠ "__proto__" := by
  have found : (tally keys).get? key = none ↔ ¬ (key ∈ keys ∧ key ≠ "__proto__") := by
    induction keys using List.reverseRecOn with
    | nil => simp [tally]
    | append_singleton rest last ih =>
      rw [tally_append_singleton, get?_increment]
      by_cases same : last = key
      · subst same
        by_cases prototype : last = "__proto__"
        · simp [prototype] at ih ⊢
          exact ih
        · simp [prototype]
      · simp [same, Ne.symm same, ih]
  rw [Dict.get?_eq_none_iff] at found
  exact not_iff_not.mp found

/-- An entry has what is read under its key. -/
theorem read_of_mem {counts : Counts} {e : String × Count} (mem : e ∈ counts.entries) :
    counts.read e.1 = e.2 := by
  unfold read
  rw [Dict.get?_eq_some_iff.mpr mem]

end Counts

end Rokad.Base
