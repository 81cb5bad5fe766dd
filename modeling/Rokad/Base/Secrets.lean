import Rokad.Base.Json

/-!
# Secrets within a JSON value

A string is secret if it stands under a secret name. Two values are alike if they differ in secret
strings only; what holds no secret is alike to itself only (`alike_only_iff`). For a value within
another, `hidden` tells whether it stands under a secret name.
-/

namespace Rokad.Base.Json

variable (secret : String → Bool)

mutual

/-- The values are the same but for the secret strings. -/
def Alike (hidden : Bool) : Json → Json → Prop
  | .str s, .str t => hidden = true ∨ s = t
  | .arr items, .arr items' => AlikeItems items items'
  | .obj entries, .obj entries' => AlikeEntries entries entries'
  | a, b => a = b

/-- What stands in a list stands under no name. -/
def AlikeItems : List Json → List Json → Prop
  | [], [] => True
  | a :: as, b :: bs => Alike false a b ∧ AlikeItems as bs
  | _, _ => False

def AlikeEntries : List (String × Json) → List (String × Json) → Prop
  | [], [] => True
  | (key, a) :: as, (key', b) :: bs => key = key' ∧ Alike (secret key) a b ∧ AlikeEntries as bs
  | _, _ => False

end

mutual

def holdsSecret (hidden : Bool) : Json → Bool
  | .str _ => hidden
  | .arr items => itemsHoldSecret items
  | .obj entries => entriesHoldSecret entries
  | _ => false

def itemsHoldSecret : List Json → Bool
  | [] => false
  | item :: items => holdsSecret false item || itemsHoldSecret items

def entriesHoldSecret : List (String × Json) → Bool
  | [] => false
  | (key, value) :: entries => holdsSecret (secret key) value || entriesHoldSecret entries

end

mutual

/-- The value with other secrets. -/
def reset (f : String → String) (hidden : Bool) : Json → Json
  | .str s => .str (if hidden then f s else s)
  | .arr items => .arr (resetItems f items)
  | .obj entries => .obj (resetEntries f entries)
  | value => value

def resetItems (f : String → String) : List Json → List Json
  | [] => []
  | item :: items => reset f false item :: resetItems f items

def resetEntries (f : String → String) : List (String × Json) → List (String × Json)
  | [] => []
  | (key, value) :: entries => (key, reset f (secret key) value) :: resetEntries f entries

end

variable {secret} {hidden : Bool} {f : String → String}

mutual

theorem alike_reset (f : String → String) :
    ∀ (hidden : Bool) (value : Json), Alike secret hidden value (reset secret f hidden value)
  | hidden, .str s => by cases hidden <;> simp [reset, Alike]
  | _, .arr items => by simpa [reset, Alike] using alikeItems_reset f items
  | _, .obj entries => by simpa [reset, Alike] using alikeEntries_reset f entries
  | _, .null | _, .bool _ | _, .num _ => by simp [reset, Alike]

theorem alikeItems_reset (f : String → String) :
    ∀ items : List Json, AlikeItems secret items (resetItems secret f items)
  | [] => by simp [resetItems, AlikeItems]
  | item :: items => by
      simp only [resetItems, AlikeItems]
      exact ⟨alike_reset f false item, alikeItems_reset f items⟩

theorem alikeEntries_reset (f : String → String) :
    ∀ entries : List (String × Json), AlikeEntries secret entries (resetEntries secret f entries)
  | [] => by simp [resetEntries, AlikeEntries]
  | (key, value) :: entries => by
      simp only [resetEntries, AlikeEntries, true_and]
      exact ⟨alike_reset f (secret key) value, alikeEntries_reset f entries⟩

end

mutual

theorem eq_of_alike : ∀ {hidden : Bool} {a b : Json}, holdsSecret secret hidden a = false →
    Alike secret hidden a b → a = b
  | hidden, .str s, b, plain, alike => by
      cases b with
      | str t => simpa [Alike, show hidden = false from plain] using alike
      | _ => exact alike
  | _, .arr items, b, plain, alike => by
      cases b with
      | arr items' => rw [eq_of_alikeItems plain alike]
      | _ => exact alike
  | _, .obj entries, b, plain, alike => by
      cases b with
      | obj entries' => rw [eq_of_alikeEntries plain alike]
      | _ => exact alike
  | _, .null, b, _, alike | _, .bool _, b, _, alike | _, .num _, b, _, alike => by
      cases b <;> exact alike

theorem eq_of_alikeItems : ∀ {as bs : List Json}, itemsHoldSecret secret as = false →
    AlikeItems secret as bs → as = bs
  | [], [], _, _ => rfl
  | a :: as, b :: bs, plain, alike => by
      obtain ⟨first, rest⟩ := Bool.or_eq_false_iff.mp plain
      rw [eq_of_alike first alike.1, eq_of_alikeItems rest alike.2]

theorem eq_of_alikeEntries : ∀ {as bs : List (String × Json)},
    entriesHoldSecret secret as = false → AlikeEntries secret as bs → as = bs
  | [], [], _, _ => rfl
  | (key, a) :: as, (key', b) :: bs, plain, alike => by
      obtain ⟨first, rest⟩ := Bool.or_eq_false_iff.mp plain
      obtain ⟨rfl, alike, tail⟩ := alike
      rw [eq_of_alike first alike, eq_of_alikeEntries rest tail]

end

mutual

theorem holdsSecret_of_reset_eq (other : ∀ s, f s ≠ s) :
    ∀ {hidden : Bool} {value : Json}, reset secret f hidden value = value →
      holdsSecret secret hidden value = false
  | hidden, .str s, same => by
      cases hidden with
      | false => rfl
      | true => exact absurd (Json.str.inj same) (other s)
  | _, .arr _, same => itemsHoldSecret_of_reset_eq other (Json.arr.inj same)
  | _, .obj _, same => entriesHoldSecret_of_reset_eq other (Json.obj.inj same)
  | _, .null, _ | _, .bool _, _ | _, .num _, _ => rfl

theorem itemsHoldSecret_of_reset_eq (other : ∀ s, f s ≠ s) :
    ∀ {items : List Json}, resetItems secret f items = items → itemsHoldSecret secret items = false
  | [], _ => rfl
  | item :: items, same => by
      obtain ⟨first, rest⟩ := List.cons.inj same
      exact Bool.or_eq_false_iff.mpr
        ⟨holdsSecret_of_reset_eq other first, itemsHoldSecret_of_reset_eq other rest⟩

theorem entriesHoldSecret_of_reset_eq (other : ∀ s, f s ≠ s) :
    ∀ {entries : List (String × Json)}, resetEntries secret f entries = entries →
      entriesHoldSecret secret entries = false
  | [], _ => rfl
  | (key, value) :: entries, same => by
      obtain ⟨first, rest⟩ := List.cons.inj same
      exact Bool.or_eq_false_iff.mpr
        ⟨holdsSecret_of_reset_eq other (Prod.mk.inj first).2,
          entriesHoldSecret_of_reset_eq other rest⟩

end

/-- A value is alike to itself only if it holds no secret. -/
theorem alike_only_iff {value : Json} :
    (∀ value', Alike secret hidden value value' → value' = value) ↔
      holdsSecret secret hidden value = false := by
  constructor
  · intro only
    refine holdsSecret_of_reset_eq (f := (· ++ "x")) (fun s same => ?_)
      (only _ (alike_reset _ hidden value))
    simpa using congrArg String.length same
  · intro plain value' alike
    exact (eq_of_alike plain alike).symm

/-! ### Reflexivity -/

mutual

@[simp] theorem alike_refl :
    ∀ (hidden : Bool) (value : Json), Alike secret hidden value value
  | _, .str _ => .inr rfl
  | _, .arr items => alikeItems_refl items
  | _, .obj entries => alikeEntries_refl entries
  | _, .null | _, .bool _ | _, .num _ => rfl

theorem alikeItems_refl : ∀ items : List Json, AlikeItems secret items items
  | [] => trivial
  | item :: items => ⟨alike_refl false item, alikeItems_refl items⟩

theorem alikeEntries_refl : ∀ entries : List (String × Json), AlikeEntries secret entries entries
  | [] => trivial
  | (key, value) :: entries => ⟨rfl, alike_refl (secret key) value, alikeEntries_refl entries⟩

end

/-! ### What is seen of an object -/

theorem forall_alike_obj_iff {P : Json → Prop} {entries : List (String × Json)} :
    (∀ value, Alike secret hidden (.obj entries) value → P value) ↔
      ∀ entries', AlikeEntries secret entries entries' → P (.obj entries') := by
  constructor
  · intro all entries' alike
    exact all _ alike
  · intro all value alike
    cases value with
    | obj entries' => exact all entries' alike
    | _ => cases alike

theorem forall_alike_arr_iff {P : Json → Prop} {items : List Json} :
    (∀ value, Alike secret hidden (.arr items) value → P value) ↔
      ∀ items', AlikeItems secret items items' → P (.arr items') := by
  constructor
  · intro all items' alike
    exact all _ alike
  · intro all value alike
    cases value with
    | arr items' => exact all items' alike
    | _ => cases alike

/-- Seen entry by entry, alike objects look the same exactly if each of their entries does. -/
theorem map_alikeEntries_iff {α : Type} {see : String × Json → α}
    {entries : List (String × Json)} :
    (∀ entries', AlikeEntries secret entries entries' → entries'.map see = entries.map see) ↔
      ∀ entry ∈ entries, ∀ value, Alike secret (secret entry.1) entry.2 value →
        see (entry.1, value) = see entry := by
  induction entries with
  | nil =>
    refine iff_of_true (fun entries' alike => ?_) (List.forall_mem_nil _)
    cases entries' with
    | nil => rfl
    | cons entry entries' => exact absurd alike id
  | cons entry entries ih =>
    obtain ⟨key, value⟩ := entry
    rw [List.forall_mem_cons, ← ih]
    constructor
    · intro same
      refine ⟨fun value' alike => ?_, fun entries' alike => ?_⟩
      · exact (List.cons.inj (same ((key, value') :: entries)
          ⟨rfl, alike, alikeEntries_refl entries⟩)).1
      · exact (List.cons.inj (same ((key, value) :: entries')
          ⟨rfl, alike_refl (secret key) value, alike⟩)).2
    · rintro ⟨head, tail⟩ entries' alike
      cases entries' with
      | nil => exact absurd alike id
      | cons entry' entries' =>
        obtain ⟨key', value'⟩ := entry'
        obtain ⟨rfl, alike, rest⟩ := alike
        rw [List.map_cons, List.map_cons, head value' alike, tail entries' rest]

end Rokad.Base.Json
