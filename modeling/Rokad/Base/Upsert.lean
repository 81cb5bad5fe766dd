import Rokad.Base.Table

/-!
# Writes to slots

A `Put` goes to one slot of a table: the row there is changed, and where there is none a row is
made. A table with one row at most in each slot keeps to that. A sequence of puts done again changes
nothing, when each leaves the row it makes as it is, and covers up what the others of its slot do to
a row that has settled under them (`putAll_again`).
-/

namespace Rokad.Base.Table

open Record (key clash)

variable {α κ : Type} [Record α]

/-- An update looks only at what it makes of its row. -/
theorem update_congr {t : Table α} {k : ℕ} {f g : α → α} {keep : ∀ a, key (f a) = key a}
    {keep' : ∀ a, key (g a) = key a} {row : α} (mem : row ∈ t.rows) (at' : key row = k)
    (same : f row = g row) : t.update k f keep = t.update k g keep' := by
  have found : t.find? k = some row := t.find?_eq_some_iff.mpr ⟨mem, at'⟩
  have rows : (t.rows.map fun x => if key x = k then f x else x) =
      t.rows.map fun x => if key x = k then g x else x := by
    refine List.map_congr_left fun x hx => ?_
    split
    · rename_i own
      rw [t.eq_of_key_eq hx mem (own.trans at'.symm), same]
    · rfl
  refine Option.ext fun t' => ?_
  rw [update_spec, update_spec, found, rows]
  simp [same]

structure Put (slot : α → κ) where
  target : κ
  make : ℕ → α
  change : α → α
  key_make : ∀ k, key (make k) = k
  key_change : ∀ a, key (change a) = key a
  clash_change : ∀ a b, clash (change a) b = clash a b
  slot_make : ∀ k, slot (make k) = target
  slot_change : ∀ a, slot (change a) = slot a

variable {slot : α → κ} [DecidableEq κ]

def put (t : Table α) (w : Put slot) : Option (Table α) :=
  match t.inSlot slot w.target with
  | some row => t.update (key row) w.change w.key_change
  | none => t.insert (w.make t.fresh)

def putAll (t : Table α) (ws : List (Put slot)) : Option (Table α) := ws.foldlM put t

/-- What a put does to the row that is there. -/
def Put.effect (w : Put slot) (x : α) : α := if slot x = w.target then w.change x else x

def effects (ws : List (Put slot)) (x : α) : α := ws.foldl (fun x w => w.effect x) x

@[simp] theorem effects_nil (x : α) : effects ([] : List (Put slot)) x = x := rfl

@[simp] theorem effects_cons (w : Put slot) (ws : List (Put slot)) (x : α) :
    effects (w :: ws) x = effects ws (w.effect x) := rfl

/-- What every effect keeps, all of them keep. -/
theorem effects_keep {β : Type} (f : α → β) (ws : List (Put slot))
    (keep : ∀ w ∈ ws, ∀ x, f (w.effect x) = f x) (x : α) : f (effects ws x) = f x := by
  induction ws generalizing x with
  | nil => rfl
  | cons w ws ih =>
    obtain ⟨here, rest⟩ := List.forall_mem_cons.mp keep
    rw [effects_cons, ih rest, here]

theorem effects_append (ws : List (Put slot)) (w : Put slot) (x : α) :
    effects (ws ++ [w]) x = w.effect (effects ws x) := by
  simp [effects]

theorem Put.slot_effect (w : Put slot) (x : α) : slot (w.effect x) = slot x := by
  unfold Put.effect
  split
  · exact w.slot_change x
  · rfl

theorem slot_effects (ws : List (Put slot)) (x : α) : slot (effects ws x) = slot x :=
  effects_keep slot ws (fun w _ => w.slot_effect) x

/-- A put to another slot has no effect. -/
theorem effects_of_other {ws : List (Put slot)} {x : α} (other : ∀ w ∈ ws, slot x ≠ w.target) :
    effects ws x = x := by
  induction ws with
  | nil => rfl
  | cons w ws ih =>
    obtain ⟨first, rest⟩ := List.forall_mem_cons.mp other
    rw [effects_cons, Put.effect, if_neg first]
    exact ih rest

/-! ### One put -/

section

variable {t t' : Table α} {w : Put slot}

/-- Where a row is in the slot, the put is its effect on every row. -/
theorem put_found (one : OneEach slot t) (found : ∃ row ∈ t.rows, slot row = w.target)
    (done : t.put w = some t') : t'.rows = t.rows.map w.effect := by
  obtain ⟨row, mem, at'⟩ := found
  have there := (inSlot_eq_some one).mpr ⟨mem, at'⟩
  unfold put at done
  rw [there] at done
  obtain ⟨_, -, -, rows⟩ := update_spec.mp done
  rw [rows]
  refine List.map_congr_left fun x hx => ?_
  have same : key x = key row ↔ slot x = w.target := by
    constructor
    · intro same
      rw [t.eq_of_key_eq hx mem same, at']
    · intro same
      rw [one x hx row mem (same.trans at'.symm)]
  unfold Put.effect
  split <;> split <;> simp_all

theorem put_missing (missing : ∀ x ∈ t.rows, slot x ≠ w.target) (done : t.put w = some t') :
    t'.rows = t.rows ++ [w.make t.fresh] := by
  unfold put at done
  rw [inSlot_eq_none.mpr missing] at done
  exact (insert_spec.mp done).1

theorem OneEach.put (one : OneEach slot t) (done : t.put w = some t') : OneEach slot t' := by
  unfold Table.put at done
  split at done
  · exact one.update done w.slot_change
  · rename_i missing
    refine one.insert done ?_
    rw [w.slot_make]
    exact inSlot_eq_none.mp missing

/-- A row after a put was there before, is changed by it, or is made by it. -/
theorem mem_put (one : OneEach slot t) (done : t.put w = some t') {x : α} (mem : x ∈ t'.rows) :
    x ∈ t.rows ∨ (∃ y ∈ t.rows, slot y = w.target ∧ x = w.change y) ∨ ∃ k, x = w.make k := by
  by_cases there : ∃ row ∈ t.rows, slot row = w.target
  · rw [put_found one there done] at mem
    obtain ⟨y, hy, rfl⟩ := List.mem_map.mp mem
    unfold Put.effect
    split
    · rename_i own
      exact .inr (.inl ⟨y, hy, own, rfl⟩)
    · exact .inl hy
  · push Not at there
    rw [put_missing there done] at mem
    rcases List.mem_append.mp mem with mem | mem
    · exact .inl mem
    · exact .inr (.inr ⟨_, List.mem_singleton.mp mem⟩)

/-- A put to a row that is there goes through. -/
theorem put_isSome (one : OneEach slot t) (found : ∃ row ∈ t.rows, slot row = w.target) :
    ∃ t', t.put w = some t' := by
  obtain ⟨row, mem, at'⟩ := found
  unfold put
  rw [(inSlot_eq_some one).mpr ⟨mem, at'⟩]
  exact update_isSome (t.find?_key mem) w.clash_change

end

/-! ### Sequences -/

/-- Done again, a put covers up what the puts to its slot have done in between. -/
structure Settles (ws : List (Put slot)) : Prop where
  make : ∀ w ∈ ws, ∀ k, w.change (w.make k) = w.make k
  change : ∀ w ∈ ws, ∀ vs, (∀ v ∈ vs, v ∈ ws) → ∀ x, slot x = w.target → effects vs x = x →
    w.change (effects vs (w.change x)) = w.change x

/-- Each put has its row, and together they change none. -/
structure Settled (ws : List (Put slot)) (t : Table α) : Prop where
  found : ∀ w ∈ ws, ∃ row ∈ t.rows, slot row = w.target
  still : ∀ x ∈ t.rows, effects ws x = x

theorem Settled.put {vs ws : List (Put slot)} (settles : Settles ws) {w : Put slot} (mem : w ∈ ws)
    (sub : ∀ v ∈ vs, v ∈ ws) {t t' : Table α} (one : OneEach slot t) (settled : Settled vs t)
    (done : t.put w = some t') : Settled (vs ++ [w]) t' := by
  by_cases there : ∃ row ∈ t.rows, slot row = w.target
  · have rows := put_found one there done
    have found (v : Put slot) (h : ∃ row ∈ t.rows, slot row = v.target) :
        ∃ row ∈ t'.rows, slot row = v.target := by
      obtain ⟨row, inRows, at'⟩ := h
      exact ⟨w.effect row, rows ▸ List.mem_map_of_mem inRows, by rw [w.slot_effect, at']⟩
    constructor
    · intro v hv
      rcases List.mem_append.mp hv with hv | hv
      · exact found v (settled.found v hv)
      · rw [List.mem_singleton.mp hv]
        exact found w there
    · intro x hx
      rw [rows] at hx
      obtain ⟨y, hy, rfl⟩ := List.mem_map.mp hx
      have still := settled.still y hy
      rw [effects_append]
      by_cases own : slot y = w.target
      · have now : w.effect y = w.change y := if_pos own
        have own' : slot (effects vs (w.change y)) = w.target := by
          rw [slot_effects vs, w.slot_change, own]
        rw [now, Put.effect, if_pos own']
        exact settles.change w mem vs sub y own still
      · have now : w.effect y = y := if_neg own
        rw [now, still, now]
  · push Not at there
    have rows := put_missing there done
    constructor
    · intro v hv
      rw [rows]
      rcases List.mem_append.mp hv with hv | hv
      · obtain ⟨row, inRows, at'⟩ := settled.found v hv
        exact ⟨row, List.mem_append_left _ inRows, at'⟩
      · rw [List.mem_singleton.mp hv]
        exact ⟨_, List.mem_append_right _ (List.mem_singleton.mpr rfl), w.slot_make _⟩
    · intro x hx
      rw [rows] at hx
      rw [effects_append]
      rcases List.mem_append.mp hx with hx | hx
      · rw [settled.still x hx]
        exact if_neg (there x hx)
      · -- no put before was to this slot
        have other : ∀ v ∈ vs, slot x ≠ v.target := by
          intro v hv same
          obtain ⟨row, inRows, at'⟩ := settled.found v hv
          rw [List.mem_singleton.mp hx, w.slot_make] at same
          exact there row inRows (at'.trans same.symm)
        rw [effects_of_other other, List.mem_singleton.mp hx, Put.effect, if_pos (w.slot_make _)]
        exact settles.make w mem _

theorem settled_putAll {vs ws us : List (Put slot)} (settles : Settles us)
    (sub : ∀ v ∈ vs ++ ws, v ∈ us) {t t' : Table α} (one : OneEach slot t)
    (settled : Settled vs t) (done : t.putAll ws = some t') :
    Settled (vs ++ ws) t' ∧ OneEach slot t' := by
  induction ws generalizing vs t with
  | nil =>
    cases done
    exact ⟨(List.append_nil vs).symm ▸ settled, one⟩
  | cons w ws ih =>
    obtain ⟨next, first, rest⟩ := Option.bind_eq_some_iff.mp done
    have settled' := settled.put settles (sub w (by simp))
      (fun v hv => sub v (List.mem_append_left _ hv)) one first
    have result := ih (fun v hv => sub v (by simp_all)) (one.put first) settled' rest
    rwa [List.append_assoc, List.singleton_append] at result

/-- Where each put has its row, a sequence of them is their effects on every row. -/
theorem putAll_found {ws : List (Put slot)} {t : Table α} (one : OneEach slot t)
    (found : ∀ w ∈ ws, ∃ row ∈ t.rows, slot row = w.target) :
    ∃ t', t.putAll ws = some t' ∧ t'.rows = t.rows.map (effects ws) := by
  induction ws generalizing t with
  | nil => exact ⟨t, rfl, (List.map_id t.rows).symm⟩
  | cons w ws ih =>
    obtain ⟨first, rest⟩ := List.forall_mem_cons.mp found
    obtain ⟨next, done⟩ := put_isSome one first
    have rows := put_found one first done
    have found' : ∀ v ∈ ws, ∃ row ∈ next.rows, slot row = v.target := by
      intro v hv
      obtain ⟨row, mem, at'⟩ := rest v hv
      exact ⟨w.effect row, rows ▸ List.mem_map_of_mem mem, by rw [w.slot_effect, at']⟩
    obtain ⟨t', all, rows'⟩ := ih (one.put done) found'
    refine ⟨t', Option.bind_eq_some_iff.mpr ⟨next, done, all⟩, ?_⟩
    rw [rows', rows, List.map_map]
    rfl

/-- **Idempotence.** Puts that settle, done again at once, change nothing. -/
theorem putAll_again {ws : List (Put slot)} (settles : Settles ws) {t t' : Table α}
    (one : OneEach slot t) (done : t.putAll ws = some t') : t'.putAll ws = some t' := by
  have start : Settled ([] : List (Put slot)) t := ⟨by simp, by simp⟩
  obtain ⟨settled, one'⟩ := settled_putAll settles (fun _ mem => mem) one start done
  rw [List.nil_append] at settled
  obtain ⟨again, all, rows⟩ := putAll_found one' settled.found
  have same : again = t' := by
    refine Table.ext ?_
    rw [rows]
    exact (List.map_congr_left settled.still).trans (List.map_id _)
  rw [all, same]

end Rokad.Base.Table
