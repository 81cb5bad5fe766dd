import Rokad.Tenants.Settings

/-!
# Sections of the settings

When several calls on the settings of a school have returned, each section should be what some
serial order of the calls on it makes, and a category that was deleted should not be listed again.

Every call writes back the whole column as it read it before, so a call on one section undoes what
another has stored meanwhile; and whoever lists the categories puts back the one of startup weekends
(`not_sections_kept`). The calls are as in the order they return if each write stores what the call
makes of the column at that moment, and then a category stays deleted exactly if it is not that one
(`sections_kept`).
-/

namespace Rokad.Tenants

open Rokad.Base Rokad.Common

/-! ### What a call does -/

def Settings.withCategories (s : Settings) (categories : List Json) : Settings :=
  { s with eventCategories := some (.arr categories) }

/-- What is listed. -/
def Settings.seeded (s : Settings) : List Json :=
  match getEventCategoriesFromSettings s with
  | some existing => if hasStartup existing then existing else startupDefault :: existing
  | none => defaultEventCategories

def Settings.listed (s : Settings) : Settings := s.withCategories s.seeded

def Settings.changed (s : Settings) (change : List Json → Result (List Json)) : Settings :=
  match change s.seeded with
  | .ok next => s.withCategories next
  | .error _ => s.listed

def Call.effect (s : Settings) : Call → Settings
  | .updateEventTypes eventTypes =>
    match sanitizeEventTypes eventTypes with
    | .ok sanitized => { s with eventTypes := some (.arr sanitized) }
    | .error _ => s
  | .listEventCategories => s.listed
  | .createEventCategory category => s.changed (addCategory category)
  | .updateEventCategory key dto => s.changed (editCategory key dto)
  | .deleteEventCategory key => s.changed (removeCategory key)
  | .updateBanners data => { s with homeBanners := some (data.merge s.homeBanners) }
  | .updateTenantBranding dto => { s with branding := some (dto.merge s.branding) }

inductive SettingsSection where
  | eventTypes | eventCategories | homeBanners | branding
deriving DecidableEq

def Call.touches : Call → SettingsSection
  | .updateEventTypes _ => .eventTypes
  | .listEventCategories | .createEventCategory _ | .updateEventCategory _ _
  | .deleteEventCategory _ => .eventCategories
  | .updateBanners _ => .homeBanners
  | .updateTenantBranding _ => .branding

def Settings.get (s : Settings) : SettingsSection → Option Json
  | .eventTypes => s.eventTypes
  | .eventCategories => s.eventCategories
  | .homeBanners => s.homeBanners
  | .branding => s.branding

section

variable {s s' : Settings}

theorem get_categories (existing : List Json) :
    getEventCategoriesFromSettings (s.withCategories existing) = some existing := rfl

theorem getEventCategories_eq {existing : List Json}
    (found : getEventCategoriesFromSettings s = some existing) :
    s.eventCategories = some (.arr existing) := by
  unfold getEventCategoriesFromSettings at found
  split at found
  · rename_i categories stored
    cases found
    exact stored
  · cases found

theorem hasStartup_seeded (s : Settings) : hasStartup s.seeded = true := by
  unfold Settings.seeded
  split
  · split
    · assumption
    · rfl
  · rfl

theorem seeded_listed (s : Settings) : s.listed.seeded = s.seeded := by
  change Settings.seeded (s.withCategories s.seeded) = _
  conv_lhs => unfold Settings.seeded
  rw [get_categories]
  exact if_pos (hasStartup_seeded s)

theorem listed_listed (s : Settings) : s.listed.listed = s.listed := by
  unfold Settings.listed
  rw [show Settings.seeded (s.withCategories s.seeded) = s.seeded from seeded_listed s]
  rfl

theorem changed_listed (change : List Json → Result (List Json)) :
    s.listed.changed change = s.changed change := by
  unfold Settings.changed
  rw [seeded_listed]
  cases change s.seeded with
  | ok next => rfl
  | error e => exact listed_listed s

theorem listed_of_seeded {existing : List Json}
    (found : getEventCategoriesFromSettings s = some existing)
    (startup : hasStartup existing = true) : s.seeded = existing ∧ s.listed = s := by
  have same : s.seeded = existing := by
    unfold Settings.seeded
    rw [found]
    exact if_pos startup
  refine ⟨same, ?_⟩
  unfold Settings.listed Settings.withCategories
  rw [same, ← getEventCategories_eq found]

/-- Listing first makes no difference to a call on categories. -/
theorem effect_listed {call : Call} (touches : call.touches = .eventCategories) :
    call.effect s.listed = call.effect s := by
  cases call with
  | listEventCategories => exact listed_listed s
  | createEventCategory category => exact changed_listed _
  | updateEventCategory key dto => exact changed_listed _
  | deleteEventCategory key => exact changed_listed _
  | updateEventTypes eventTypes => cases touches
  | updateBanners data => cases touches
  | updateTenantBranding dto => cases touches

/-- A call on another section leaves the categories to be listed as they are. -/
theorem listed_effect {call : Call} (touches : call.touches ≠ .eventCategories) :
    (call.effect s).listed = call.effect s.listed := by
  cases call with
  | updateEventTypes eventTypes =>
    unfold Call.effect
    dsimp only
    cases sanitizeEventTypes eventTypes <;> rfl
  | updateBanners data => rfl
  | updateTenantBranding dto => rfl
  | listEventCategories => exact absurd rfl touches
  | createEventCategory category => exact absurd rfl touches
  | updateEventCategory key dto => exact absurd rfl touches
  | deleteEventCategory key => exact absurd rfl touches

theorem get_changed {k : SettingsSection} (other : k ≠ .eventCategories)
    (change : List Json → Result (List Json)) : (s.changed change).get k = s.get k := by
  unfold Settings.changed
  cases change s.seeded <;> cases k <;> first | rfl | exact absurd rfl other

/-- A call leaves the other sections alone. -/
theorem get_effect {call : Call} {k : SettingsSection} (other : call.touches ≠ k) :
    (call.effect s).get k = s.get k := by
  cases call with
  | updateEventTypes eventTypes =>
    unfold Call.effect
    dsimp only
    cases sanitizeEventTypes eventTypes <;> cases k <;> first | rfl | exact absurd rfl other
  | listEventCategories => cases k <;> first | rfl | exact absurd rfl other
  | createEventCategory category => exact get_changed other.symm _
  | updateEventCategory key dto => exact get_changed other.symm _
  | deleteEventCategory key => exact get_changed other.symm _
  | updateBanners data => cases k <;> first | rfl | exact absurd rfl other
  | updateTenantBranding dto => cases k <;> first | rfl | exact absurd rfl other

theorem seeded_congr (same : s.eventCategories = s'.eventCategories) : s.seeded = s'.seeded := by
  unfold Settings.seeded getEventCategoriesFromSettings
  rw [same]

theorem changed_congr (same : s.eventCategories = s'.eventCategories)
    (change : List Json → Result (List Json)) :
    (s.changed change).eventCategories = (s'.changed change).eventCategories := by
  unfold Settings.changed Settings.listed
  rw [seeded_congr same]
  cases change s'.seeded <;> rfl

/-- What a call makes of its section depends on that section alone. -/
theorem get_effect_congr {call : Call} (same : s.get call.touches = s'.get call.touches) :
    (call.effect s).get call.touches = (call.effect s').get call.touches := by
  cases call with
  | updateEventTypes eventTypes =>
    unfold Call.effect
    dsimp only
    cases sanitizeEventTypes eventTypes with
    | ok sanitized => rfl
    | error e => exact same
  | listEventCategories => exact congrArg (fun l => some (Json.arr l)) (seeded_congr same)
  | createEventCategory category => exact changed_congr same _
  | updateEventCategory key dto => exact changed_congr same _
  | deleteEventCategory key => exact changed_congr same _
  | updateBanners data =>
    exact congrArg (fun homeBanners => some (data.merge homeBanners)) same
  | updateTenantBranding dto => exact congrArg (fun branding => some (dto.merge branding)) same

end

/-! ### Calls alone -/

section

variable {s : Settings}

theorem run_saveEventCategories (categories : List Json) :
    (saveEventCategories categories).run (Sql.exec write) s =
      (s.withCategories categories, .ok categories) := rfl

/-- What is left of a listing that has read the column. -/
def listFrom (s : Settings) : SettingsCall (List Json) :=
  match getEventCategoriesFromSettings s with
  | some existing =>
    if hasStartup existing then pure existing
    else saveEventCategories (startupDefault :: existing)
  | none => saveEventCategories defaultEventCategories

theorem listEventCategories_bind {β : Type} (f : List Json → SettingsCall β) :
    (listEventCategories >>= f) = Prog.step SqlOp.read fun s => listFrom s >>= f := rfl

theorem listFrom_cases (s : Settings) : (listFrom s = pure s.seeded ∧ s.listed = s) ∨
    listFrom s = saveEventCategories s.seeded := by
  unfold listFrom
  cases found : getEventCategoriesFromSettings s with
  | none =>
    have same : s.seeded = defaultEventCategories := by
      unfold Settings.seeded
      rw [found]
    exact Or.inr (by rw [same])
  | some existing =>
    cases startup : hasStartup existing with
    | true =>
      obtain ⟨same, listed⟩ := listed_of_seeded found startup
      exact Or.inl ⟨by rw [same]; exact if_pos startup, listed⟩
    | false =>
      have same : s.seeded = startupDefault :: existing := by
        unfold Settings.seeded
        rw [found]
        exact if_neg (by simp [startup])
      exact Or.inr (by rw [same]; exact if_neg (by simp [startup]))

theorem run_listEventCategories :
    listEventCategories.run (Sql.exec write) s = (s.listed, .ok s.seeded) := by
  change (listFrom s).run (Sql.exec write) s = _
  rcases listFrom_cases s with ⟨quiet, listed⟩ | saves
  · rw [quiet, listed]
    rfl
  · rw [saves, run_saveEventCategories]
    rfl

theorem run_changeEventCategories {β : Type} (change : List Json → Result (List Json))
    (answer : List Json → β) :
    ((changeEventCategories change >>= fun next => pure (answer next)).run
      (Sql.exec write) s).1 = s.changed change := by
  unfold changeEventCategories Settings.changed
  rw [Prog.run_bind, Prog.run_bind, run_listEventCategories]
  dsimp only
  cases change s.seeded <;> rfl

theorem alone_eq (call : Call) : alone s call = call.effect s := by
  unfold alone
  cases call with
  | updateEventTypes eventTypes =>
    unfold Call.program updateEventTypes Call.effect
    dsimp only
    rw [Sql.run_snapshot]
    cases sanitizeEventTypes eventTypes <;> rfl
  | listEventCategories =>
    unfold Call.program
    dsimp only
    rw [Prog.run_bind, run_listEventCategories]
    rfl
  | createEventCategory category => exact run_changeEventCategories _ _
  | updateEventCategory key dto => exact run_changeEventCategories _ _
  | deleteEventCategory key => exact run_changeEventCategories _ _
  | updateBanners data => rfl
  | updateTenantBranding dto => rfl

end

/-! ### Calls in progress -/

/-- A call that returns after a read has nothing to do, and only a call on categories goes on after
a write. -/
def Ends (call : Call) : (op : SqlOp Settings) → op.Answer Settings Unit Failure →
    SettingsCall Json → Prop
  | .read, s, rest => rest.returned.isSome = true →
      call.effect s = s ∧ (call.touches = .eventCategories → s.listed = s)
  | .write _, _, rest => rest.returned.isSome = false → call.touches = .eventCategories

section

variable {call : Call}

section

variable (touches : call.touches = .eventCategories)
include touches

theorem ends_save (categories : List Json)
    {f : List Json → SettingsCall Json}
    (rest : ∀ next, (f next).Guarantees (fun _ _ => True) (Ends call)) :
    (saveEventCategories categories >>= f).Guarantees (fun _ _ => True) (Ends call) := by
  intro s _
  refine ⟨nofun, fun r _ => ⟨fun _ => touches, ?_⟩⟩
  cases r with
  | error e => exact trivial
  | ok done => exact rest categories

theorem ends_list {f : List Json → SettingsCall Json}
    (rest : ∀ existing, (f existing).Guarantees (fun _ _ => True) (Ends call))
    (quiet : ∀ s : Settings, (f s.seeded).returned.isSome = true → s.listed = s →
      call.effect s = s) :
    (listEventCategories >>= f).Guarantees (fun _ _ => True) (Ends call) := by
  rw [listEventCategories_bind]
  intro s _
  dsimp only
  rcases listFrom_cases s with ⟨seeded, listed⟩ | saves
  · rw [seeded, Prog.pure_eq, Prog.ret_ok_bind]
    exact ⟨fun returned => ⟨quiet s returned listed, fun _ => listed⟩, rest s.seeded⟩
  · rw [saves]
    exact ⟨nofun, ends_save touches _ rest⟩

theorem ends_change
    {change : List Json → Result (List Json)}
    (effect : ∀ s : Settings, call.effect s = s.changed change) (answer : List Json → Json) :
    (changeEventCategories change >>= fun next => pure (answer next)).Guarantees (fun _ _ => True)
      (Ends call) := by
  unfold changeEventCategories
  rw [Prog.bind_assoc]
  refine ends_list touches (fun existing => ?_) fun s returned listed => ?_
  · rw [Prog.bind_assoc]
    cases change existing with
    | error e => exact trivial
    | ok next => exact ends_save touches next fun _ => trivial
  · rw [effect]
    unfold Settings.changed
    rw [Prog.bind_assoc] at returned
    cases done : change s.seeded with
    | error e => exact listed
    | ok next =>
      rw [done] at returned
      cases returned

end

theorem ends_program (call : Call) : call.program.Guarantees (fun _ _ => True) (Ends call) := by
  cases call with
  | updateEventTypes eventTypes =>
    unfold Call.program updateEventTypes
    dsimp only
    cases sane : sanitizeEventTypes eventTypes with
    | error e =>
      refine fun s _ => ⟨fun _ => ⟨?_, nofun⟩, trivial⟩
      unfold Call.effect
      dsimp only
      rw [sane]
    | ok sanitized =>
      refine fun s _ => ⟨nofun, fun r _ => ?_⟩
      cases r <;> exact ⟨nofun, trivial⟩
  | listEventCategories =>
    exact ends_list rfl (fun _ => trivial) fun s _ listed => listed
  | createEventCategory category => exact ends_change rfl (fun _ => rfl) _
  | updateEventCategory key dto => exact ends_change rfl (fun _ => rfl) _
  | deleteEventCategory key => exact ends_change rfl (fun _ => rfl) _
  | updateBanners data =>
    intro s _
    refine ⟨nofun, fun r _ => ?_⟩
    cases r <;> exact ⟨nofun, trivial⟩
  | updateTenantBranding dto =>
    intro s _
    refine ⟨nofun, fun r _ => ?_⟩
    cases r <;> exact ⟨nofun, trivial⟩

end

/-! ### Runs -/

section

variable {ι : Type} [DecidableEq ι] {calls : ι → Call} {p : Threads Settings (SettingsCall Json) ι}
  {i : ι}

/-- What is written is what the call makes of the column at that moment or, when the call goes on,
the column with the categories as they are listed. -/
def FitsAt (calls : ι → Call) (p : Threads Settings (SettingsCall Json) ι) :
    Move ι Unit Empty → Prop
  | .thread i _ =>
    match p.own i with
    | .step (.write new) next =>
      new = if (next (.ok ())).returned.isSome then (calls i).effect p.shared
        else p.shared.listed
    | _ => True
  | .world e => e.elim

/-- The calls one after the other. -/
def serial (calls : ι → Call) (order : List ι) (s : Settings) : Settings :=
  order.foldl (fun s i => alone s (calls i)) s

/-- The serial run has come as far, or a call has stored the categories as they are listed and has
not returned yet. -/
def Beside (calls : ι → Call) (s : Settings) (p : Threads Settings (SettingsCall Json) ι) : Prop :=
  s = p.shared ∨ (s.listed = p.shared ∧
    ∃ i, (calls i).touches = .eventCategories ∧ (p.own i).returned.isSome = false)

structure Sim (calls : ι → Call) (s : Settings) (p : Threads Settings (SettingsCall Json) ι) :
    Prop where
  beside : Beside calls s p
  ends : ∀ i, (p.own i).Guarantees (fun _ _ => True) (Ends (calls i))

theorem ends_put (ends : ∀ i, (p.own i).Guarantees (fun _ _ => True) (Ends (calls i)))
    {shared : Settings} {rest : SettingsCall Json}
    (own : rest.Guarantees (fun _ _ => True) (Ends (calls i))) (j : ι) :
    ((p.put i shared rest).own j).Guarantees (fun _ _ => True) (Ends (calls j)) := by
  by_cases same : j = i
  · subst same
    rw [Threads.own_put_self]
    exact own
  · rw [Threads.own_put_of_ne same]
    exact ends j

/-- A call returns that makes of the column what is stored then. -/
theorem Beside.returns {s new : Settings} {rest : SettingsCall Json} (beside : Beside calls s p)
    (makes : (calls i).effect p.shared = new) :
    Beside calls ((calls i).effect s) (p.put i new rest) := by
  rcases beside with rfl | ⟨listed, j, touches, open'⟩
  · exact Or.inl makes
  · by_cases own : (calls i).touches = .eventCategories
    · refine Or.inl ?_
      rw [← effect_listed own, listed]
      exact makes
    · refine Or.inr ⟨?_, j, touches, ?_⟩
      · rw [listed_effect own, listed]
        exact makes
      · have apart : j ≠ i := by
          rintro rfl
          exact own touches
        rw [Threads.own_put_of_ne apart]
        exact open'

theorem Sim.step {s : Settings} (sim : Sim calls s p) (move : Move ι Unit Empty)
    (fits : FitsAt calls p move) :
    Sim calls (((Prog.returns (Sql.exec write) p move).toList).foldl
      (fun s i => alone s (calls i)) s) (Sql.moveStep write p move) := by
  rcases move with ⟨i, ⟨⟩⟩ | e
  swap
  · exact e.elim
  have ends := sim.ends i
  cases own : p.own i with
  | ret r =>
    rw [Sql.moveStep_ret own]
    simpa [Prog.returns, own] using sim
  | step op next =>
    rw [own] at ends
    cases op with
    | read =>
      obtain ⟨quiet, rest⟩ := ends p.shared trivial
      rw [Sql.moveStep_read own]
      refine ⟨?_, ends_put sim.ends rest⟩
      have answer : (Sql.exec write SqlOp.read p.shared).2 = p.shared := rfl
      cases done : (next p.shared).returned.isSome with
      | true =>
        simp only [Prog.returns, own, answer, done, if_true, Option.toList_some,
          List.foldl_cons, List.foldl_nil, alone_eq]
        exact sim.beside.returns (quiet done).1
      | false =>
        simp only [Prog.returns, own, answer, done, Bool.false_eq_true, if_false,
          Option.toList_none, List.foldl_nil]
        rcases sim.beside with same | ⟨listed, j, touches, open'⟩
        · exact Or.inl same
        · refine Or.inr ⟨listed, j, touches, ?_⟩
          by_cases this : j = i
          · subst this
            rw [Threads.own_put_self]
            exact done
          · rw [Threads.own_put_of_ne this]
            exact open'
    | write new =>
      obtain ⟨goesOn, rest⟩ := ends (.ok ()) trivial
      rw [Sql.moveStep_ok own rfl]
      refine ⟨?_, ends_put sim.ends rest⟩
      have answer : (Sql.exec write (SqlOp.write new) p.shared).2 = .ok () := rfl
      simp only [FitsAt, own] at fits
      cases done : (next (.ok ())).returned.isSome with
      | true =>
        simp only [Prog.returns, own, answer, done, if_true, Option.toList_some,
          List.foldl_cons, List.foldl_nil, alone_eq]
        rw [done, if_pos rfl] at fits
        exact sim.beside.returns fits.symm
      | false =>
        simp only [Prog.returns, own, answer, done, Bool.false_eq_true, if_false,
          Option.toList_none, List.foldl_nil]
        rw [done, if_neg Bool.false_ne_true] at fits
        refine Or.inr ⟨?_, i, goesOn done, ?_⟩
        · rw [Threads.shared_put, fits]
          rcases sim.beside with same | ⟨listed, -⟩
          · rw [same]
          · rw [← listed, listed_listed]
        · rw [Threads.own_put_self]
          exact done

/-- **Serial order.** When all calls have returned, the column is what the calls make of it in the
order they returned. -/
theorem serial_returnOrder {s : Settings} {moves : List (Move ι Unit Empty)}
    (fits : Along (Sql.moveStep write) (FitsAt calls) (start s calls) moves)
    (all : ∀ i, ((run (Sql.moveStep write) (start s calls) moves).own i).returned.isSome = true) :
    (run (Sql.moveStep write) (start s calls) moves).shared =
      serial calls (Prog.returnOrder (Sql.exec write) (fun db _ => db) (start s calls) moves)
        s := by
  have sim := run_simulates (J := Sim calls) (fun _ _ move fits sim => sim.step move fits)
    (s := start s calls) ⟨Or.inl rfl, fun i => ends_program (calls i)⟩ fits
  rcases sim.beside with same | ⟨-, i, -, open'⟩
  · exact same.symm
  · rw [all i] at open'
    cases open'

end

/-! ### One section -/

section

variable {ι : Type} {calls : ι → Call}

/-- A section is as the calls on it alone leave it. -/
theorem get_serial (k : SettingsSection) (order : List ι) {s s' : Settings}
    (same : s.get k = s'.get k) : (serial calls order s).get k =
      (serial calls (order.filter fun i => (calls i).touches = k) s').get k := by
  induction order generalizing s s' with
  | nil => exact same
  | cons i order ih =>
    by_cases touches : (calls i).touches = k
    · rw [List.filter_cons_of_pos (by simpa using touches)]
      refine ih ?_
      dsimp only
      rw [alone_eq, alone_eq]
      subst touches
      exact get_effect_congr same
    · rw [List.filter_cons_of_neg (by simpa using touches)]
      refine ih ?_
      dsimp only
      rw [alone_eq, get_effect touches]
      exact same

end

/-! ### Categories that are deleted -/

section

theorem toString_ne_key (n : ℕ) : toString n ≠ "key" := by
  intro same
  have mem : 'k' ∈ (toString n).toList := by
    rw [same]
    decide
  rw [show toString n = Nat.repr n from rfl, Nat.toList_repr] at mem
  exact absurd (Nat.isDigit_of_mem_toDigits (by decide) (by decide) mem) (by decide)

/-- No index is the name `key`. -/
theorem lookup_spread (value : Json) : value.spread.lookup "key" = value.property "key" := by
  have none_of {entries : List (String × Json)} (index : ∀ e ∈ entries, ∃ n : ℕ, e.1 = toString n) :
      entries.lookup "key" = none := by
    refine List.lookup_eq_none_iff.mpr fun e mem => ?_
    obtain ⟨n, named⟩ := index e mem
    rw [named]
    exact bne_iff_ne.mpr (toString_ne_key n).symm
  cases value with
  | arr items =>
    refine none_of fun e mem => ?_
    obtain ⟨i, -, rfl⟩ := List.mem_mapIdx.mp mem
    exact ⟨i, rfl⟩
  | str text =>
    refine none_of fun e mem => ?_
    obtain ⟨i, -, rfl⟩ := List.mem_mapIdx.mp mem
    exact ⟨i, rfl⟩
  | obj entries => rfl
  | null => rfl
  | bool b => rfl
  | num n => rfl

theorem lookup_filter {name other : String} (apart : other ≠ name)
    (entries : List (String × Json)) :
    (entries.filter (·.1 ≠ name)).lookup other = entries.lookup other := by
  induction entries with
  | nil => rfl
  | cons e entries ih =>
    by_cases here : e.1 = name
    · rw [List.filter_cons_of_neg (by simpa using here), ih, List.lookup_cons, here,
        beq_false_of_ne apart]
    · rw [List.filter_cons_of_pos (by simpa using here), List.lookup_cons, List.lookup_cons, ih]

theorem key_withGiven {name : String} (apart : "key" ≠ name) (given : Option Json) (value : Json) :
    (withGiven name given value).property "key" = value.property "key" := by
  cases given with
  | none => rfl
  | some v =>
    change ((name, v) :: value.spread.filter (·.1 ≠ name)).lookup "key" = _
    rw [List.lookup_cons, beq_false_of_ne apart, ← lookup_spread]
    exact lookup_filter apart _

theorem key_newCategory (category : Json) :
    (newCategory category).property "key" = category.property "key" := by
  unfold newCategory
  split
  · exact lookup_spread category
  · exact lookup_spread category

theorem key_apply (dto : CategoryDto) (c : Json) :
    (dto.apply c).property "key" = c.property "key" := by
  unfold CategoryDto.apply
  rw [key_withGiven (by decide), key_withGiven (by decide), key_withGiven (by decide)]
  exact lookup_spread c

end

section

variable {s : Settings} {key : String} {l next : List Json}

def NoneOf (key : String) (l : List Json) : Prop := ∀ c ∈ l, c.property "key" ≠ some (.str key)

/-- A category with the key is among those that are listed. -/
def Listed (key : String) (s : Settings) : Prop := ¬ NoneOf key s.seeded

/-- The categories are stored, and none has the key. -/
def Gone (key : String) (s : Settings) : Prop :=
  ∃ existing, getEventCategoriesFromSettings s = some existing ∧ NoneOf key existing

theorem noneOf_iff : NoneOf key l ↔ l.any (hasKey (some (.str key))) = false := by
  simp [NoneOf, hasKey]

theorem NoneOf.add (none : NoneOf key l) {category : Json}
    (other : category.property "key" ≠ some (.str key)) (done : addCategory category l = .ok next) :
    NoneOf key next := by
  simp only [addCategory, do_eq_ok] at done
  obtain ⟨_, -, rfl⟩ := done
  intro c mem
  rcases List.mem_append.mp mem with mem | mem
  · exact none c mem
  · rw [List.mem_singleton.mp mem, key_newCategory]
    exact other

theorem NoneOf.edit (none : NoneOf key l) {key' : String} {dto : CategoryDto}
    (done : editCategory key' dto l = .ok next) : NoneOf key next := by
  simp only [editCategory, do_eq_ok] at done
  obtain ⟨idx, -, rfl⟩ := done
  intro c mem
  obtain ⟨i, bound, rfl⟩ := List.mem_iff_getElem.mp mem
  rw [List.getElem_modify]
  split
  · rw [key_apply]
    exact none _ (List.getElem_mem _)
  · exact none _ (List.getElem_mem _)

theorem NoneOf.remove (none : NoneOf key l) {key' : String}
    (done : removeCategory key' l = .ok next) : NoneOf key next := by
  simp only [removeCategory, do_eq_ok] at done
  obtain ⟨_, -, rfl⟩ := done
  exact fun c mem => none c (List.mem_filter.mp mem).1

theorem noneOf_removed (done : removeCategory key l = .ok next) : NoneOf key next := by
  simp only [removeCategory, do_eq_ok] at done
  obtain ⟨_, -, rfl⟩ := done
  intro c mem same
  have kept := (List.mem_filter.mp mem).2
  have here : hasKey (some (.str key)) c = true := Json.strictEq_str.mpr same
  rw [here] at kept
  cases kept

theorem Gone.seeded (gone : Gone key s) (other : key ≠ "STARTUP_WEEKEND") :
    NoneOf key s.seeded := by
  obtain ⟨existing, found, none⟩ := gone
  unfold Settings.seeded
  rw [found]
  dsimp only
  split
  · exact none
  · intro c mem
    rcases List.mem_cons.mp mem with rfl | mem
    · intro same
      have keys : some (Json.str "STARTUP_WEEKEND") = some (.str key) := same
      simp only [Option.some.injEq, Json.str.injEq] at keys
      exact other keys.symm
    · exact none c mem

theorem gone_changed {change : List Json → Result (List Json)}
    (seeded : NoneOf key s.seeded)
    (changes : ∀ next, change s.seeded = .ok next → NoneOf key next) :
    Gone key (s.changed change) := by
  unfold Settings.changed
  cases done : change s.seeded with
  | ok next => exact ⟨next, rfl, changes next done⟩
  | error e => exact ⟨s.seeded, rfl, seeded⟩

/-- What is gone stays so, unless it is created. -/
theorem Gone.effect (gone : Gone key s) (other : key ≠ "STARTUP_WEEKEND") {call : Call}
    (created : ∀ c, call = .createEventCategory c → c.property "key" ≠ some (.str key)) :
    Gone key (call.effect s) := by
  have seeded := gone.seeded other
  cases call with
  | updateEventTypes eventTypes =>
    unfold Call.effect
    dsimp only
    cases sanitizeEventTypes eventTypes <;> exact gone
  | listEventCategories => exact ⟨s.seeded, rfl, seeded⟩
  | createEventCategory category =>
    exact gone_changed seeded fun _ done => seeded.add (created category rfl) done
  | updateEventCategory key' dto => exact gone_changed seeded fun _ done => seeded.edit done
  | deleteEventCategory key' => exact gone_changed seeded fun _ done => seeded.remove done
  | updateBanners data => exact gone
  | updateTenantBranding dto => exact gone

theorem gone_delete (s : Settings) (key : String) :
    Gone key ((Call.deleteEventCategory key).effect s) := by
  change Gone key (s.changed (removeCategory key))
  cases done : removeCategory key s.seeded with
  | ok next =>
    unfold Settings.changed
    rw [done]
    exact ⟨next, rfl, noneOf_removed done⟩
  | error e =>
    refine gone_changed (noneOf_iff.mpr ?_) fun _ done => noneOf_removed done
    by_contra there
    simp [removeCategory, require, bind, Except.bind, pure, Except.pure,
      eq_true_of_ne_false there] at done

theorem gone_serial {ι : Type} {calls : ι → Call} (gone : Gone key s)
    (other : key ≠ "STARTUP_WEEKEND") {order : List ι}
    (created : ∀ j ∈ order, ∀ c, calls j = .createEventCategory c →
      c.property "key" ≠ some (.str key)) : Gone key (serial calls order s) := by
  induction order generalizing s with
  | nil => exact gone
  | cons i order ih =>
    refine ih ?_ fun j mem => created j (List.mem_cons_of_mem _ mem)
    dsimp only
    rw [alone_eq]
    exact gone.effect other (created i List.mem_cons_self)

theorem listed_startup (s : Settings) : Listed "STARTUP_WEEKEND" s := by
  intro none
  have there := hasStartup_seeded s
  unfold hasStartup at there
  rw [noneOf_iff.mp none] at there
  cases there

end

/-! ### What is kept -/

section

variable {ι : Type} [DecidableEq ι] {calls : ι → Call} {s : Settings}
  {moves : List (Move ι Unit Empty)}

/-- What is listed at any moment is what the calls make of it that have returned. -/
theorem seeded_returnOrder
    (fits : Along (Sql.moveStep write) (FitsAt calls) (start s calls) moves) :
    (run (Sql.moveStep write) (start s calls) moves).shared.seeded =
      (serial calls (Prog.returnOrder (Sql.exec write) (fun db _ => db) (start s calls) moves)
        s).seeded := by
  have sim := run_simulates (J := Sim calls) (fun _ _ move fits sim => sim.step move fits)
    (s := start s calls) ⟨Or.inl rfl, fun i => ends_program (calls i)⟩ fits
  rcases sim.beside with same | ⟨listed, -⟩
  · rw [← same]
    rfl
  · rw [← listed, seeded_listed]
    rfl

/-- **Sections.** In a run that fits, each section is, once all calls have returned, as the calls on
it leave it in the order they returned; and a category that was deleted, and not created since, is
not listed, exactly if it is not the one of startup weekends. -/
theorem sections_kept (calls : ι → Call) (s : Settings) (moves : List (Move ι Unit Empty))
    (fits : Along (Sql.moveStep write) (FitsAt calls) (start s calls) moves) :
    let p := run (Sql.moveStep write) (start s calls) moves
    let order := Prog.returnOrder (Sql.exec write) (fun db _ => db) (start s calls) moves
    ((∀ i, (p.own i).returned.isSome = true) → order.Nodup ∧ (∀ i, i ∈ order) ∧
      ∀ k, p.shared.get k = (serial calls (order.filter fun i => (calls i).touches = k) s).get k) ∧
    ∀ i key before after, calls i = .deleteEventCategory key → order = before ++ i :: after →
      (∀ j ∈ after, ∀ c, calls j = .createEventCategory c → c.property "key" ≠ some (.str key)) →
      (¬ Listed key p.shared ↔ key ≠ "STARTUP_WEEKEND") := by
  refine ⟨fun all => ⟨Prog.nodup_returnOrder _ _, fun i => ?_, fun k => ?_⟩,
    fun i key before after deletes order created => ⟨?_, fun other => ?_⟩⟩
  · refine Prog.mem_returnOrder ?_ (all i)
    change ((calls i).program).returned.isSome = false
    cases calls i <;> rfl
  · rw [serial_returnOrder fits all]
    exact get_serial k _ rfl
  · rintro unlisted rfl
    exact unlisted (listed_startup _)
  · unfold Listed
    rw [not_not, seeded_returnOrder fits, order]
    refine Gone.seeded ?_ other
    unfold serial
    rw [List.foldl_append, List.foldl_cons]
    refine gone_serial ?_ other created
    rw [alone_eq, deletes]
    exact gone_delete _ _

end

instance {ι : Type} (calls : ι → Call) (p : Threads Settings (SettingsCall Json) ι)
    (move : Move ι Unit Empty) : Decidable (FitsAt calls p move) := by
  unfold FitsAt
  rcases move with ⟨i, ⟨⟩⟩ | e
  · dsimp only
    rcases p.own i with r | ⟨_ | new, next⟩ <;> dsimp only <;> infer_instance
  · exact e.elim

/-! ### A school that decorates -/

namespace Decorating

def exam : Json := .obj [("code", .str "EXAM"), ("titleFa", .str "آزمون")]

def calls : Fin 3 → Call :=
  ![.updateEventTypes [exam], .updateBanners { slides := some [] }, .deleteEventCategory "SPORTS"]

/-- The events and the banners, and a deletion. -/
def others : Fin 3 → Call :=
  ![.updateEventTypes [exam], .updateBanners { slides := some [] },
    .deleteEventCategory "STARTUP_WEEKEND"]

end Decorating

open Decorating

theorem sections_kept_decorating :
    let p := run (Sql.moveStep write) (start {} Decorating.calls)
      (moves [0, 0, 1, 1, 2, 2, 2, 2, 2])
    (∀ k, p.shared.get k = (serial Decorating.calls
      ([0, 1, 2].filter fun i => (Decorating.calls i).touches = k) {}).get k) ∧
        ¬ Listed "SPORTS" p.shared := by
  have order : Prog.returnOrder (ω := Empty) (Sql.exec write) (fun db _ => db)
      (start {} Decorating.calls) (moves [0, 0, 1, 1, 2, 2, 2, 2, 2]) = [0, 1, 2] := by decide +kernel
  have kept := sections_kept Decorating.calls {} (moves [0, 0, 1, 1, 2, 2, 2, 2, 2])
    (by decide +kernel)
  dsimp only at kept
  rw [order] at kept
  exact ⟨(kept.1 (by decide +kernel)).2.2,
    (kept.2 2 "SPORTS" [0, 1] [] rfl rfl (fun j mem => by cases mem)).mpr (by decide)⟩

/-- The banners are read before the events are stored, and written after: in no order of the calls
are there no events. And the category of startup weekends is deleted, and listed again. -/
theorem not_sections_kept :
    (let p := run (Sql.moveStep write) (start {} others)
      (moves [1, 0, 0, 1, 2, 2, 2, 2, 2])
     (∀ i, (p.own i).returned.isSome = true) ∧
      ¬ ∃ order : List (Fin 3), order.Nodup ∧ (∀ i, i ∈ order) ∧
        p.shared.get .eventTypes = (serial others
          (order.filter fun i => (others i).touches = .eventTypes) {}).get .eventTypes) ∧
    (let p := run (Sql.moveStep write) (start {} others) (moves [2, 2, 2, 2, 2])
     (p.own 2).returned = some (.ok (.obj [("message", .str "دسته‌بندی با موفقیت حذف شد")])) ∧
      Listed "STARTUP_WEEKEND" p.shared) := by
  refine ⟨⟨by decide +kernel, ?_⟩, by decide +kernel, listed_startup _⟩
  rintro ⟨order, nodup, all, same⟩
  have perm : order.Perm [0, 1, 2] :=
    (List.perm_ext_iff_of_nodup nodup (by decide)).mpr fun i =>
      iff_of_true (all i) (by fin_cases i <;> decide)
  have none : ∀ order ∈ ([0, 1, 2] : List (Fin 3)).permutations',
      (run (Sql.moveStep write) (start {} others)
        (moves [1, 0, 0, 1, 2, 2, 2, 2, 2])).shared.get .eventTypes ≠ (serial others
          (order.filter fun i => (others i).touches = .eventTypes) {}).get .eventTypes := by
    decide +kernel
  exact none order (List.mem_permutations'.mpr perm) same

end Rokad.Tenants
