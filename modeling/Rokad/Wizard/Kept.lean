import Rokad.Base.Doubles
import Rokad.Wizard.Service

/-!
# No edit of a wizard is lost

Each call stores the whole document as it read it, so what is stored in between is lost. Where the
column is still what the call has read, and no call takes away what it does not mean to, every
interleaving is a serial run of the calls that return; the ideas that are submitted and not deleted
are there, those that are deleted are not, and no number is given twice (`edits_kept`).
-/

namespace Rokad.Wizard

open Rokad.Base Rokad.Common

/-! ### Numbers -/

section

theorem le_maxNumber (ideas : List Idea) : 0 ≤ maxNumber ideas ∧
    ∀ idea ∈ ideas, idea.ideaNumber.getD 0 ≤ maxNumber ideas := by
  have along : ∀ (ideas : List Idea) (n : ℚ),
      n ≤ ideas.foldl (fun max idea => Max.max max (idea.ideaNumber.getD 0)) n ∧
        ∀ idea ∈ ideas, idea.ideaNumber.getD 0 ≤
          ideas.foldl (fun max idea => Max.max max (idea.ideaNumber.getD 0)) n := by
    intro ideas
    induction ideas with
    | nil => exact fun n => ⟨le_rfl, List.forall_mem_nil _⟩
    | cons first rest ih =>
      intro n
      obtain ⟨least, others⟩ := ih (Max.max n (first.ideaNumber.getD 0))
      refine ⟨(le_max_left _ _).trans least, fun idea mem => ?_⟩
      rcases List.mem_cons.mp mem with rfl | mem
      · exact (le_max_right _ _).trans least
      · exact others idea mem
  exact along ideas 0

theorem ulp_le_one {x : ℚ} (pos : 0 < x) (small : x < 2 ^ 53) : ulp x ≤ 1 := by
  have log : Int.log 2 x < 53 :=
    (Int.lt_zpow_iff_log_lt (by norm_num) pos).mp (by exact_mod_cast small)
  have exponent : max (Int.log 2 x - 52) (-1074) ≤ 0 := by omega
  calc ulp x = 2 ^ max (Int.log 2 x - 52) (-1074) := by rw [ulp, abs_of_pos pos]
    _ ≤ 2 ^ (0 : ℤ) := zpow_le_zpow_right₀ (by norm_num) exponent
    _ = 1 := zpow_zero _

/-- Below `2 ^ 53` the next number is a greater one. -/
theorem lt_nextNumber {n : ℚ} (nonneg : 0 ≤ n) (small : n + 1 < 2 ^ 53) : n < nextNumber n := by
  have pos : 0 < n + 1 := by linarith
  have unit := ulp_le_one pos small
  have above : n < rounded (n + 1) := by
    have ulpPos := ulp_pos (n + 1)
    have floor : (⌊(n + 1) / ulp (n + 1)⌋ : ℚ) ≤ halfEven ((n + 1) / ulp (n + 1)) :=
      Int.cast_le.mpr (floor_le_halfEven _)
    have below := Int.sub_one_lt_floor ((n + 1) / ulp (n + 1))
    calc n ≤ (n + 1) - ulp (n + 1) := by linarith
      _ = ((n + 1) / ulp (n + 1) - 1) * ulp (n + 1) := by
          rw [sub_mul, div_mul_cancel₀ _ ulpPos.ne', one_mul]
      _ < (halfEven ((n + 1) / ulp (n + 1)) : ℚ) * ulp (n + 1) :=
          mul_lt_mul_of_pos_right (below.trans_le floor) ulpPos
  have finite : toDouble (n + 1) = .finite (rounded (n + 1)) := by
    have ulpPos := ulp_pos (n + 1)
    have ceiling : (halfEven ((n + 1) / ulp (n + 1)) : ℚ) ≤ ⌊(n + 1) / ulp (n + 1)⌋ + 1 := by
      exact_mod_cast halfEven_le_floor_add_one ((n + 1) / ulp (n + 1))
    have close : rounded (n + 1) ≤ n + 1 + ulp (n + 1) :=
      calc rounded (n + 1) ≤ ((n + 1) / ulp (n + 1) + 1) * ulp (n + 1) :=
            mul_le_mul_of_nonneg_right
              (ceiling.trans (by linarith [Int.floor_le ((n + 1) / ulp (n + 1))])) ulpPos.le
        _ = n + 1 + ulp (n + 1) := by rw [add_mul, div_mul_cancel₀ _ ulpPos.ne', one_mul]
    have below : n + 1 + ulp (n + 1) < 2 ^ 54 := by linarith
    have large : (2 : ℚ) ^ 54 ≤ 2 ^ 1024 := pow_le_pow_right₀ (by norm_num) (by norm_num)
    refine if_neg (not_le.mpr ?_)
    change |rounded (n + 1)| < 2 ^ 1024
    rw [abs_of_nonneg (rounded_nonneg pos.le)]
    exact (close.trans_lt below).trans_le large
  rw [nextNumber, finite]
  exact above

end

/-! ### What an edit does to the ideas -/

/-- The ideas of the document that a call reads. -/
def ideasOf (event : Event) (s : Store) : List Idea := (parseWorkflowModules event s).2.ideas

namespace Request

/-- The idea that the call adds, with the identifier it draws. -/
def submits (r : Request) : Option String :=
  match r.call with
  | .submitEventIdea _ _ _ drawn => some drawn
  | _ => none

def deletes (r : Request) : Option String :=
  match r.call with
  | .deleteEventIdea _ ideaId => some ideaId
  | _ => none

/-- The idea whose number a manager assigns. -/
def renumbers (r : Request) : Option String :=
  match r.call with
  | .updateEventIdea user ideaId dto =>
    if user.isManager ∧ dto.ideaNumber.isSome then some ideaId else none
  | _ => none

/-- A submission counts below `2 ^ 53`, an edit is not of an initial idea in memory, a deletion does
not bring the initial ideas back, and the modules of a request do not replace a wizard's data. -/
def Careful (event : Event) (r : Request) (s : Store) : Prop :=
  match r.call with
  | .submitEventIdea .. => maxNumber (ideasOf event s) + 1 < 2 ^ 53
  | .updateEventIdea .. => ¬ (event.isSeeded = true ∧ sharesInitialIdeas s = true)
  | .deleteEventIdea _ ideaId => getInitialBackendIdeas event s = [] ∨
      ∃ idea ∈ ideasOf event s, idea.id ≠ ideaId
  | .updateEvent dto _ => dto.workflowModules = none ∨ s.column.wizardData = none
  | _ => True

instance (event : Event) (r : Request) (s : Store) : Decidable (r.Careful event s) := by
  unfold Careful
  split <;> infer_instance

end Request

/-- What an edit does to the ideas. -/
structure Effect (event : Event) (r : Request) (s next : Store) : Prop where
  back : ∀ a ∈ ideasOf event next,
    (r.submits = some a.id ∧ ∀ b ∈ ideasOf event s, b.ideaNumber ≠ a.ideaNumber) ∨
      ∃ b ∈ ideasOf event s, b.id = a.id ∧ (r.renumbers ≠ some a.id → a.ideaNumber = b.ideaNumber)
  forth : ∀ b ∈ ideasOf event s, r.deletes = some b.id ∨ ∃ a ∈ ideasOf event next, a.id = b.id
  adds : ∀ id, r.submits = some id → ∃ a ∈ ideasOf event next, a.id = id
  removes : ∀ id, r.deletes = some id →
    (∃ b ∈ ideasOf event s, b.id = id) ∧ ∀ a ∈ ideasOf event next, a.id ≠ id

section

variable {event : Event} {r : Request} {s : Store} {e : Edit}

/-- The ideas of a document that was stored with some. -/
theorem ideasOf_stored {data : WizardData} {list : List WorkflowModule} :
    ideasOf event (s.put (some (.wizard list (some data)))) =
      if data.ideas = [] then getInitialBackendIdeas event s else data.ideas := rfl

/-- Edits that leave the ideas as they are. -/
theorem effect_of_same {next : Store} (same : ideasOf event next = ideasOf event s)
    (submits : r.submits = none) (deletes : r.deletes = none) : Effect event r s next where
  back a mem := .inr ⟨a, same ▸ mem, rfl, fun _ => rfl⟩
  forth b mem := .inr ⟨b, same ▸ mem, rfl⟩
  adds id isId := by simp [submits] at isId
  removes id isId := by simp [deletes] at isId

theorem initial_of_ideasOf_eq_nil (empty : ideasOf event s = []) :
    getInitialBackendIdeas event s = [] := by
  unfold ideasOf parseWorkflowModules at empty
  cases column : s.column.wizardData with
  | none => simpa only [column] using empty
  | some data =>
    simp only [column] at empty
    split at empty
    · exact empty
    · contradiction

theorem ideasOf_put_stored (data : WizardData) (list : List WorkflowModule)
    (same : data.ideas = ideasOf event s) :
    ideasOf event (s.put (some (.wizard list (some data)))) = ideasOf event s := by
  rw [ideasOf_stored, same]
  split
  · rename_i empty
    rw [initial_of_ideasOf_eq_nil empty, empty]
  · rfl

theorem ideasOf_of_no_wizard (noWizard : s.column.wizardData = none) :
    ideasOf event s = getInitialBackendIdeas event s := by
  simp only [ideasOf, parseWorkflowModules, noWizard]

/-- Modules are stored where there is no wizard's data, or given by the request. -/
theorem ideasOf_put_updateEvent (dto : UpdateEventDto) (customTypes : List EventType)
    (careful : dto.workflowModules = none ∨ s.column.wizardData = none) :
    ideasOf event (s.put (updateEvent s dto customTypes).write) = ideasOf event s := by
  unfold updateEvent
  dsimp only
  split
  · rename_i defaults
    simp only [Bool.and_eq_true, Bool.or_eq_true, decide_eq_true_eq] at defaults
    have noWizard : s.column.wizardData = none := by
      rcases defaults.1.2 with column | column <;> rw [column] <;> rfl
    rw [ideasOf_of_no_wizard noWizard]
    rfl
  · cases given : dto.workflowModules with
    | none => rfl
    | some list =>
      have noWizard := careful.resolve_left (by simp [given])
      rw [ideasOf_of_no_wizard noWizard]
      rfl

theorem submitEventIdea_spec {user : User} {dto : SubmitEventIdeaDto} {now : ℤ} {drawn : String}
    (done : submitEventIdea event s user dto now drawn = .ok e) : ∃ idea : Idea, idea.id = drawn ∧
      idea.ideaNumber = some (nextNumber (maxNumber (ideasOf event s))) ∧
      ideasOf event (s.put e.write) = idea :: ideasOf event s := by
  simp only [submitEventIdea, do_eq_ok, exists_const] at done
  obtain ⟨-, rfl⟩ := done
  exact ⟨_, rfl, rfl, rfl⟩

/-- The number of a submission is a new one. -/
theorem ideaNumber_ne_of_next {ideas : List Idea} (small : maxNumber ideas + 1 < 2 ^ 53)
    {old new : Idea} (mem : old ∈ ideas)
    (number : new.ideaNumber = some (nextNumber (maxNumber ideas))) :
    old.ideaNumber ≠ new.ideaNumber := by
  intro same
  obtain ⟨nonneg, least⟩ := le_maxNumber ideas
  have atMost := least old mem
  rw [same, number] at atMost
  exact absurd atMost (not_le.mpr (lt_nextNumber nonneg small))

theorem updateEventIdea_spec {user : User} {ideaId : String} {dto : UpdateEventIdeaDto}
    (done : updateEventIdea event s user ideaId dto = .ok e) : ∃ (i : ℕ) (old new : Idea),
      (ideasOf event s)[i]? = some old ∧ old.id = ideaId ∧ new.id = old.id ∧
      (¬ (user.isManager = true ∧ dto.ideaNumber.isSome = true) → new.ideaNumber = old.ideaNumber) ∧
      ideasOf event (s.put e.write) = (ideasOf event s).set i new := by
  simp only [updateEventIdea, do_eq_ok, exists_const] at done
  obtain ⟨old, found, -, title, -, description, -, authorName, -, rfl⟩ := done
  obtain ⟨lt, isOld⟩ := List.getElem?_eq_some_iff.mp found
  have named : old.id = ideaId := by
    rw [← isOld]
    simpa using List.findIdx_getElem (w := lt)
  refine ⟨_, old, _, found, named, ?id, ?number, ideasOf_stored.trans (if_neg ?some)⟩
  case id => rfl
  case number =>
    intro given
    dsimp only
    split
    · rename_i manager
      cases number : dto.ideaNumber with
      | none => rfl
      | some number => exact absurd ⟨manager, by simp [number]⟩ given
    · rfl
  case some =>
    intro empty
    have nothing : (parseWorkflowModules event s).2.ideas = [] := by
      simpa only [List.set_eq_nil_iff] using empty
    rw [nothing] at lt
    exact absurd lt (Nat.not_lt_zero _)

theorem deleteEventIdea_spec {user : User} {ideaId : String}
    (done : deleteEventIdea event s user ideaId = .ok e) :
    (∃ idea ∈ ideasOf event s, idea.id = ideaId) ∧ ∃ rest,
      rest = (ideasOf event s).filter (fun i => i.id ≠ ideaId) ∧
      ideasOf event (s.put e.write) =
        if rest = [] then getInitialBackendIdeas event s else rest := by
  simp only [deleteEventIdea, do_eq_ok, exists_const] at done
  obtain ⟨old, found, -, rfl⟩ := done
  exact ⟨⟨old, List.mem_of_find?_eq_some found, by simpa using List.find?_some found⟩, _, rfl, rfl⟩

theorem effect_of_updated {i : ℕ} {old new : Idea} {next : Store}
    (found : (ideasOf event s)[i]? = some old) (id : new.id = old.id)
    (number : r.renumbers ≠ some old.id → new.ideaNumber = old.ideaNumber)
    (ideas : ideasOf event next = (ideasOf event s).set i new)
    (submits : r.submits = none) (deletes : r.deletes = none) : Effect event r s next where
  back a mem := by
    rw [ideas] at mem
    rcases List.mem_or_eq_of_mem_set mem with mem | rfl
    · exact .inr ⟨a, mem, rfl, fun _ => rfl⟩
    · exact .inr ⟨old, List.mem_of_getElem? found, id.symm, id ▸ number⟩
  forth b mem := by
    refine .inr ?_
    obtain ⟨lt, isOld⟩ := List.getElem?_eq_some_iff.mp found
    obtain ⟨j, ltJ, isB⟩ := List.mem_iff_getElem.mp mem
    rw [ideas]
    by_cases same : i = j
    · subst same
      exact ⟨new, List.mem_iff_getElem.mpr ⟨i, by simpa using lt, by simp⟩,
        id.trans (congrArg Idea.id (isOld.symm.trans isB))⟩
    · exact ⟨b, List.mem_iff_getElem.mpr ⟨j, by simpa using ltJ, by simp [same, isB]⟩, rfl⟩
  adds id isId := by simp [submits] at isId
  removes id isId := by simp [deletes] at isId

/-- **One edit.** -/
theorem effect_of_edit (done : r.edit event s = .ok e) (careful : r.Careful event s) :
    Effect event r s (s.put e.write) := by
  obtain ⟨tenantId, call⟩ := r
  unfold Request.edit at done
  cases call with
  | submitEventIdea user dto now drawn =>
    simp only [do_eq_ok, exists_const] at done
    obtain ⟨-, done⟩ := done
    obtain ⟨idea, rfl, number, ideas⟩ := submitEventIdea_spec done
    refine ⟨fun a mem => ?_, fun b mem => ?_, fun id isId => ?_, fun _ is => by cases is⟩
    · rw [ideas] at mem
      rcases List.mem_cons.mp mem with rfl | mem
      · exact .inl ⟨rfl, fun b old => ideaNumber_ne_of_next careful old number⟩
      · exact .inr ⟨a, mem, rfl, fun _ => rfl⟩
    · exact .inr ⟨b, ideas ▸ List.mem_cons_of_mem _ mem, rfl⟩
    · exact ⟨idea, ideas ▸ List.mem_cons_self, Option.some.inj isId⟩
  | updateEventIdea user ideaId dto =>
    simp only [do_eq_ok, exists_const] at done
    obtain ⟨-, done⟩ := done
    obtain ⟨i, old, new, found, rfl, id, number, ideas⟩ := updateEventIdea_spec done
    refine effect_of_updated found id (fun given => number fun both => given ?_) ideas rfl rfl
    exact if_pos both
  | deleteEventIdea user ideaId =>
    simp only [do_eq_ok, exists_const] at done
    obtain ⟨-, done⟩ := done
    obtain ⟨existing, rest, rfl, ideas⟩ := deleteEventIdea_spec done
    have left : ideasOf event (s.put e.write) =
        (ideasOf event s).filter (fun i => i.id ≠ ideaId) := by
      rw [ideas]
      split
      · rename_i empty
        rcases careful with initial | ⟨idea, mem, other⟩
        · rw [initial, empty]
        · have kept : idea ∈ (ideasOf event s).filter fun i => i.id ≠ ideaId :=
            List.mem_filter.mpr ⟨mem, decide_eq_true other⟩
          rw [empty] at kept
          cases kept
      · rfl
    refine ⟨fun a mem => ?_, fun b mem => ?_, (fun _ is => by cases is), fun id isId => ?_⟩
    · rw [left] at mem
      exact .inr ⟨a, List.mem_of_mem_filter mem, rfl, fun _ => rfl⟩
    · by_cases deleted : b.id = ideaId
      · exact .inl (congrArg some deleted.symm)
      · exact .inr ⟨b, left ▸ List.mem_filter.mpr ⟨mem, decide_eq_true deleted⟩, rfl⟩
    · obtain rfl : ideaId = id := Option.some.inj isId
      refine ⟨existing, fun a mem => ?_⟩
      rw [left] at mem
      simpa using (List.mem_filter.mp mem).2
  | updateEventWizardSteps user dto =>
    simp only [do_eq_ok, exists_const] at done
    obtain ⟨-, -, rfl⟩ := done
    exact effect_of_same (ideasOf_put_stored _ _ rfl) rfl rfl
  | updateEventTeams user teams =>
    simp only [do_eq_ok, exists_const] at done
    obtain ⟨-, rfl⟩ := done
    exact effect_of_same (ideasOf_put_stored _ _ rfl) rfl rfl
  | updateEvent dto customTypes =>
    simp only [do_eq_ok, exists_const] at done
    obtain ⟨-, rfl⟩ := done
    exact effect_of_same (ideasOf_put_updateEvent dto customTypes careful) rfl rfl

/-- A careful edit leaves the initial ideas as they are. -/
theorem initialIdeas_of_edit (done : r.edit event s = .ok e) (careful : r.Careful event s) :
    e.initialIdeas = s.initialIdeas := by
  obtain ⟨tenantId, call⟩ := r
  unfold Request.edit at done
  cases call with
  | submitEventIdea user dto now drawn =>
    simp only [submitEventIdea, do_eq_ok, exists_const] at done
    obtain ⟨-, -, rfl⟩ := done
    rfl
  | updateEventIdea user ideaId dto =>
    simp only [updateEventIdea, do_eq_ok, exists_const] at done
    obtain ⟨-, old, -, -, title, -, description, -, authorName, -, rfl⟩ := done
    exact if_neg (by simpa [Request.Careful] using careful)
  | deleteEventIdea user ideaId =>
    simp only [deleteEventIdea, do_eq_ok, exists_const] at done
    obtain ⟨-, old, -, -, rfl⟩ := done
    rfl
  | updateEventWizardSteps user dto =>
    simp only [do_eq_ok, exists_const] at done
    obtain ⟨-, -, rfl⟩ := done
    rfl
  | updateEventTeams user teams =>
    simp only [do_eq_ok, exists_const] at done
    obtain ⟨-, rfl⟩ := done
    rfl
  | updateEvent dto customTypes =>
    simp only [do_eq_ok, exists_const] at done
    obtain ⟨-, rfl⟩ := done
    rfl

end

/-! ### The calls one at a time -/

/-- What the calls of the list, one at a time, have left of the ideas. -/
structure IdeasKept (event : Event) (s : Store) (rs : List Request) (next : Store) : Prop where
  known : ∀ a ∈ ideasOf event next,
    (∃ b ∈ ideasOf event s, b.id = a.id) ∨ ∃ r ∈ rs, r.submits = some a.id
  gone : ∀ r ∈ rs, ∀ id, r.deletes = some id →
    (∃ b ∈ ideasOf event s, b.id = id) ∨ ∃ q ∈ rs, q.submits = some id
  present : ∀ r ∈ rs, ∀ id, r.submits = some id →
    (∃ a ∈ ideasOf event next, a.id = id) ∨ ∃ q ∈ rs, q.deletes = some id
  absent : ∀ r ∈ rs, ∀ id, r.deletes = some id → ∀ a ∈ ideasOf event next, a.id ≠ id
  numbers : ∀ a ∈ ideasOf event next, ∀ b ∈ ideasOf event next, a.id ≠ b.id →
    (∃ r ∈ rs, r.submits = some a.id) → (∃ r ∈ rs, r.submits = some b.id) →
    (∀ r ∈ rs, r.renumbers ≠ some a.id ∧ r.renumbers ≠ some b.id) → a.ideaNumber ≠ b.ideaNumber

section

variable {event : Event} {s next : Store} {rs : List Request} {r : Request}

theorem serial_append (rs rs' : List Request) (s : Store) :
    serial event (rs ++ rs') s = serial event rs s >>= serial event rs' := by
  induction rs generalizing s with
  | nil => rfl
  | cons r rs ih =>
    simp only [List.cons_append, serial]
    cases done : r.edit event s with
    | error e => rfl
    | ok e => exact ih _

namespace IdeasKept

protected theorem nil : IdeasKept event s [] s where
  known a mem := .inl ⟨a, mem, rfl⟩
  gone := List.forall_mem_nil _
  present := List.forall_mem_nil _
  absent := List.forall_mem_nil _
  numbers _ _ _ _ _ submitted := submitted.elim fun _ there => absurd there.1 List.not_mem_nil

/-- An identifier that is new at a call names no idea and no deleted one. -/
theorem not_known (kept : IdeasKept event s rs next) {id : String}
    (notThere : ∀ b ∈ ideasOf event s, b.id ≠ id) (new : ∀ q ∈ rs, q.submits ≠ some id) :
    (∀ a ∈ ideasOf event next, a.id ≠ id) ∧ ∀ q ∈ rs, q.deletes ≠ some id := by
  constructor
  · rintro a mem rfl
    rcases kept.known a mem with ⟨b, there, same⟩ | ⟨q, there, same⟩
    · exact notThere b there same
    · exact new q there same
  · intro q there same
    rcases kept.gone q there id same with ⟨b, there, same⟩ | ⟨q, there, same⟩
    · exact notThere b there same
    · exact new q there same

/-- **One more call.** -/
theorem snoc {after : Store} (kept : IdeasKept event s rs next) (effect : Effect event r next after)
    (fresh : ∀ id, r.submits = some id →
      (∀ b ∈ ideasOf event s, b.id ≠ id) ∧ ∀ q ∈ rs, q.submits ≠ some id) :
    IdeasKept event s (rs ++ [r]) after := by
  have unknown : ∀ id, r.submits = some id →
      (∀ a ∈ ideasOf event next, a.id ≠ id) ∧ ∀ q ∈ rs, q.deletes ≠ some id :=
    fun id submitted => kept.not_known (fresh id submitted).1 (fresh id submitted).2
  refine ⟨fun a mem => ?known, fun q mem id deletes => ?gone, fun q mem id submits => ?present,
    fun q mem id deletes a there => ?absent, fun a memA b memB differ newA newB kept' => ?numbers⟩
  case known =>
    rcases effect.back a mem with ⟨submits, -⟩ | ⟨b, there, same, -⟩
    · exact .inr ⟨r, by simp, submits⟩
    · rcases kept.known b there with ⟨b', there', same'⟩ | ⟨q, there', same'⟩
      · exact .inl ⟨b', there', same'.trans same⟩
      · exact .inr ⟨q, by simp [there'], same ▸ same'⟩
  case gone =>
    have lift : (∃ b ∈ ideasOf event s, b.id = id) ∨ (∃ q ∈ rs, q.submits = some id) →
        (∃ b ∈ ideasOf event s, b.id = id) ∨ ∃ q ∈ rs ++ [r], q.submits = some id := by
      rintro (there | ⟨q, there, same⟩)
      · exact .inl there
      · exact .inr ⟨q, by simp [there], same⟩
    rcases List.mem_append.mp mem with mem | mem
    · exact lift (kept.gone q mem id deletes)
    · obtain rfl := List.mem_singleton.mp mem
      obtain ⟨⟨b, there, rfl⟩, -⟩ := effect.removes id deletes
      exact lift (kept.known b there)
  case present =>
    rcases List.mem_append.mp mem with mem | mem
    · rcases kept.present q mem id submits with ⟨a, there, rfl⟩ | ⟨q', there, deletes⟩
      · rcases effect.forth a there with deletes | left
        · exact .inr ⟨r, by simp, deletes⟩
        · exact .inl left
      · exact .inr ⟨q', by simp [there], deletes⟩
    · obtain rfl := List.mem_singleton.mp mem
      exact .inl (effect.adds id submits)
  case absent =>
    rcases List.mem_append.mp mem with mem | mem
    · rcases effect.back a there with ⟨submits, -⟩ | ⟨b, before, same, -⟩
      · rintro rfl
        exact (unknown _ submits).2 q mem deletes
      · exact same ▸ kept.absent q mem id deletes b before
    · obtain rfl := List.mem_singleton.mp mem
      exact (effect.removes id deletes).2 a there
  case numbers =>
    have last := kept' r (by simp)
    have before : ∀ {id : String}, (∃ q ∈ rs ++ [r], q.submits = some id) →
        (∃ c ∈ ideasOf event next, c.id = id) → ∃ q ∈ rs, q.submits = some id := by
      rintro id ⟨q, mem, submits⟩ ⟨c, there, same⟩
      rcases List.mem_append.mp mem with mem | mem
      · exact ⟨q, mem, submits⟩
      · obtain rfl := List.mem_singleton.mp mem
        exact absurd same ((unknown id submits).1 c there)
    rcases effect.back a memA with ⟨submitsA, aboveA⟩ | ⟨a', thereA, sameA, numberA⟩
    · rcases effect.back b memB with ⟨submitsB, -⟩ | ⟨b', thereB, -, numberB⟩
      · exact absurd (Option.some.inj (submitsA.symm.trans submitsB)) differ
      · rw [numberB last.2]
        exact (aboveA b' thereB).symm
    · rcases effect.back b memB with ⟨-, aboveB⟩ | ⟨b', thereB, sameB, numberB⟩
      · rw [numberA last.1]
        exact aboveB a' thereA
      · rw [numberA last.1, numberB last.2]
        refine kept.numbers a' thereA b' thereB (by rwa [sameA, sameB]) ?_ ?_ fun q mem => ?_
        · exact sameA ▸ before newA ⟨a', thereA, sameA⟩
        · exact sameB ▸ before newB ⟨b', thereB, sameB⟩
        · rw [sameA, sameB]
          exact kept' q (List.mem_append_left _ mem)

end IdeasKept

end

/-! ### Calls in progress -/

section

variable {ι : Type} [DecidableEq ι]

/-- The ideas in the column. -/
def storedIdeas (s : Store) : List Idea := (s.column.wizardData.map (·.ideas)).getD []

/-- A call that reads is careful if it succeeds, and a call that stores finds the column as it has
read it. -/
def Settles (event : Event) (calls : ι → Request) (p : Threads Store Phase ι) :
    Move ι Unit Empty → Prop
  | .thread i _ =>
    match p.own i with
    | .waiting => ((calls i).edit event p.shared).isOk = true → (calls i).Careful event p.shared
    | .holding read write _ => p.shared.column = read ∨ write = none
    | _ => True
  | .world e => e.elim

instance (event : Event) (calls : ι → Request) (p : Threads Store Phase ι)
    (move : Move ι Unit Empty) : Decidable (Settles event calls p move) :=
  match move with
  | .thread i _ => by
    unfold Settles
    dsimp only
    split <;> infer_instance
  | .world e => e.elim

/-- Each submission draws an identifier of its own, and none that an idea has. -/
structure FreshIds (event : Event) (calls : ι → Request) (s : Store) : Prop where
  differ : ∀ i j id, (calls i).submits = some id → (calls j).submits = some id → i = j
  new : ∀ i id, (calls i).submits = some id →
    ∀ idea ∈ ideasOf event s ++ s.initialIdeas, idea.id ≠ id

def Returned (p : Threads Store Phase ι) (i : ι) : Prop := ∃ answer, p.own i = .returned answer

def Failed (p : Threads Store Phase ι) (i : ι) : Prop := ∃ e, p.own i = .failed e

/-- The wizard's data are those of some serial order of the calls that returned. What these
submitted and did not delete is stored, nothing that they deleted is, and no two of the ideas that
they submitted have one number, unless they assigned it. -/
structure EditsKept (event : Event) (calls : ι → Request) (s : Store)
    (p : Threads Store Phase ι) : Prop where
  order : ∃ order : List ι, order.Nodup ∧ (∀ i, i ∈ order ↔ Returned p i) ∧
    ∃ after, serial event (order.map calls) s = .ok after ∧
      p.shared.column.wizardData = after.column.wizardData
  present : ∀ i id, Returned p i → (calls i).submits = some id →
    (∃ idea ∈ storedIdeas p.shared, idea.id = id) ∨ ∃ j, Returned p j ∧ (calls j).deletes = some id
  absent : ∀ i id, Returned p i → (calls i).deletes = some id →
    ∀ idea ∈ storedIdeas p.shared, idea.id ≠ id
  numbers : ∀ a ∈ storedIdeas p.shared, ∀ b ∈ storedIdeas p.shared, a.id ≠ b.id →
    (∃ i, Returned p i ∧ (calls i).submits = some a.id) →
    (∃ i, Returned p i ∧ (calls i).submits = some b.id) →
    (∀ i, Returned p i → (calls i).renumbers ≠ some a.id ∧ (calls i).renumbers ≠ some b.id) →
    a.ideaNumber ≠ b.ideaNumber

/-- The call has its place in the serial order: it has stored, or will store nothing. -/
def Phase.Placed : Phase → Prop
  | .holding _ write _ => write = none
  | .returned _ => True
  | _ => False

/-- The calls of `order`, one at a time, have brought the store to where it is. -/
structure Serialized (event : Event) (calls : ι → Request) (s : Store) (order : List ι)
    (p : Threads Store Phase ι) : Prop where
  nodup : order.Nodup
  mem : ∀ i, i ∈ order ↔ (p.own i).Placed
  serial : serial event (order.map calls) s = .ok p.shared
  initialIdeas : p.shared.initialIdeas = s.initialIdeas
  holding : ∀ i read write answer, p.own i = .holding read (some write) answer →
    (calls i).edit event ⟨read, s.initialIdeas⟩ = .ok ⟨some write, s.initialIdeas, answer⟩ ∧
      (calls i).Careful event ⟨read, s.initialIdeas⟩
  ideas : IdeasKept event s (order.map calls) p.shared

variable {event : Event} {calls : ι → Request} {s : Store} {order : List ι}
  {p : Threads Store Phase ι}

omit [DecidableEq ι] in
theorem serialized_start : Serialized event calls s [] (start s : Threads Store Phase ι) where
  nodup := List.nodup_nil
  mem _ := iff_of_false List.not_mem_nil id
  serial := rfl
  initialIdeas := rfl
  holding _ _ _ _ held := by cases held
  ideas := IdeasKept.nil

namespace Serialized

/-- The call moves on, and neither the store nor the order changes. -/
theorem move (now : Serialized event calls s order p) (i : ι) {phase : Phase}
    (placed : phase.Placed ↔ (p.own i).Placed)
    (holding : ∀ read write answer, phase = .holding read (some write) answer →
      (calls i).edit event ⟨read, s.initialIdeas⟩ = .ok ⟨some write, s.initialIdeas, answer⟩ ∧
        (calls i).Careful event ⟨read, s.initialIdeas⟩) :
    Serialized event calls s order (p.put i p.shared phase) where
  nodup := now.nodup
  mem j := by
    by_cases same : j = i
    · rw [same, Threads.own_put_self, placed]
      exact now.mem i
    · rw [Threads.own_put_of_ne same]
      exact now.mem j
  serial := now.serial
  initialIdeas := now.initialIdeas
  holding j read write answer held := by
    by_cases same : j = i
    · rw [same, Threads.own_put_self] at held
      exact same ▸ holding read write answer held
    · rw [Threads.own_put_of_ne same] at held
      exact now.holding j read write answer held
  ideas := now.ideas

section

variable (fresh : FreshIds event calls s)
include fresh

/-- The call is the next one in the order. -/
theorem place (now : Serialized event calls s order p) {i : ι}
    {e : Edit} {phase : Phase} (done : (calls i).edit event p.shared = .ok e)
    (careful : (calls i).Careful event p.shared) (before : ¬ (p.own i).Placed)
    (placed : phase.Placed)
    (stores : ∀ read write answer, phase ≠ .holding read (some write) answer) :
    Serialized event calls s (order ++ [i]) (p.put i (p.shared.put e.write) phase) where
  nodup := List.nodup_append.mpr ⟨now.nodup, List.nodup_singleton i, fun j mem k last same =>
    before ((now.mem i).mp (List.mem_singleton.mp last ▸ same ▸ mem))⟩
  mem j := by
    by_cases same : j = i
    · simpa [same] using placed
    · simp [same, now.mem j]
  serial := by
    have left : { p.shared with initialIdeas := e.initialIdeas } = p.shared := by
      rw [initialIdeas_of_edit done careful]
    rw [List.map_append, serial_append, now.serial]
    simp only [bind, Except.bind, List.map_cons, List.map_nil, Wizard.serial, done]
    rw [left]
    rfl
  initialIdeas := now.initialIdeas
  holding j read write answer held := by
    by_cases same : j = i
    · rw [same, Threads.own_put_self] at held
      exact absurd held (stores read write answer)
    · rw [Threads.own_put_of_ne same] at held
      exact now.holding j read write answer held
  ideas := by
    rw [List.map_append]
    refine now.ideas.snoc (effect_of_edit done careful) fun id submits => ⟨fun b there => ?_, ?_⟩
    · exact fresh.new i id submits b (List.mem_append_left _ there)
    · simp only [List.mem_map, forall_exists_index, and_imp, forall_apply_eq_imp_iff₂]
      intro j mem again
      exact before ((now.mem i).mp (fresh.differ j i id again submits ▸ mem))

/-- **One move.** -/
theorem step (now : Serialized event calls s order p)
    (mv : Move ι Unit Empty) (settles : Settles event calls p mv) :
    ∃ order', Serialized event calls s order' (moveStep event calls p mv) := by
  rcases mv with ⟨i, ⟨⟩⟩ | e
  swap
  · exact e.elim
  have moved : moveStep event calls p (.thread i ()) =
      p.put i (act event calls i p.shared (p.own i) ()).1
        (act event calls i p.shared (p.own i) ()).2 := rfl
  rw [moved]
  simp only [Settles] at settles
  cases phase : p.own i with
  | waiting =>
    rw [phase] at settles
    have before : ¬ (p.own i).Placed := by simp [phase, Phase.Placed]
    cases done : (calls i).edit event p.shared with
    | error e =>
      simp only [act, done]
      exact ⟨order, now.move i (iff_of_false id before) (by simp)⟩
    | ok e =>
      have careful := settles (by rw [done]; rfl)
      have initial := initialIdeas_of_edit done careful
      have left : { p.shared with initialIdeas := e.initialIdeas } = p.shared := by rw [initial]
      simp only [act, done, left]
      cases write : e.write with
      | none =>
        have placed : Serialized event calls s (order ++ [i]) (p.put i
            (p.shared.put e.write) (.holding p.shared.column none e.answer)) :=
          now.place fresh done careful before rfl (by simp)
        rw [write] at placed
        exact ⟨_, placed⟩
      | some column =>
        have unplaced : ¬ (Phase.holding p.shared.column (some column) e.answer).Placed := by
          simp [Phase.Placed]
        refine ⟨order, now.move i (iff_of_false unplaced before) ?_⟩
        simp only [Phase.holding.injEq, Option.some.injEq, and_imp]
        rintro _ _ _ rfl rfl rfl
        have here : (⟨p.shared.column, s.initialIdeas⟩ : Store) = p.shared := by
          rw [← now.initialIdeas]
        have same : e = ⟨some column, s.initialIdeas, e.answer⟩ := by
          rw [← write, ← now.initialIdeas, ← initial]
        rw [here]
        exact ⟨done.trans (congrArg _ same), careful⟩
  | holding read write answer =>
    rw [phase] at settles
    simp only [act]
    cases write with
    | none => exact ⟨order, now.move i (by simp [phase, Phase.Placed]) (by simp)⟩
    | some column =>
      obtain ⟨done, careful⟩ := now.holding i read column answer phase
      have here : (⟨read, s.initialIdeas⟩ : Store) = p.shared := by
        rw [← settles.resolve_right (by simp), ← now.initialIdeas]
      rw [here] at done careful
      exact ⟨_, now.place fresh done careful (by simp [phase, Phase.Placed]) trivial (by simp)⟩
  | returned answer =>
    simp only [act]
    exact ⟨order, now.move i (by simp [phase, Phase.Placed]) (by simp)⟩
  | failed e =>
    simp only [act]
    exact ⟨order, now.move i (by simp [phase, Phase.Placed]) (by simp)⟩

/-- **A whole run.** -/
theorem run {moves : List (Move ι Unit Empty)}
    (settled : Along (moveStep event calls) (Settles event calls) (start s) moves) :
    ∃ order, Serialized event calls s order (Base.run (moveStep event calls) (start s) moves) :=
  run_invariant (I := fun p => ∃ order, Serialized event calls s order p)
    (fun _ move settles ⟨_, now⟩ => now.step fresh move settles) ⟨[], serialized_start⟩ settled

end

end Serialized

theorem mem_ideasOf_of_stored {s : Store} {idea : Idea} (mem : idea ∈ storedIdeas s) :
    idea ∈ ideasOf event s := by
  unfold storedIdeas at mem
  unfold ideasOf parseWorkflowModules
  cases column : s.column.wizardData with
  | none => simp [column] at mem
  | some data =>
    simp only [column, Option.map_some, Option.getD_some] at mem ⊢
    rw [if_neg (List.ne_nil_of_mem mem)]
    exact mem

/-- An idea that is shown is stored, or an initial one. -/
theorem stored_or_initial {s : Store} {idea : Idea} (mem : idea ∈ ideasOf event s) :
    idea ∈ storedIdeas s ∨ idea ∈ s.initialIdeas := by
  have ofInitial : idea ∈ getInitialBackendIdeas event s → idea ∈ s.initialIdeas := by
    unfold getInitialBackendIdeas
    split
    · exact id
    · exact fun none => absurd none List.not_mem_nil
  unfold ideasOf parseWorkflowModules at mem
  unfold storedIdeas
  cases column : s.column.wizardData with
  | none =>
    simp only [column] at mem
    exact .inr (ofInitial mem)
  | some data =>
    simp only [column, Option.map_some, Option.getD_some] at mem ⊢
    split at mem
    · exact .inr (ofInitial mem)
    · exact .inl mem

/-- **No edit of a wizard is lost** where every call stores into the column that it has read and
takes away only what it means to. -/
theorem edits_kept (fresh : FreshIds event calls s) {moves : List (Move ι Unit Empty)}
    (settled : Along (moveStep event calls) (Settles event calls) (start s) moves)
    (finished : ∀ i, Returned (run (moveStep event calls) (start s) moves) i ∨
      Failed (run (moveStep event calls) (start s) moves) i) :
    EditsKept event calls s (run (moveStep event calls) (start s) moves) := by
  obtain ⟨order, now⟩ := Serialized.run fresh settled
  revert finished now
  generalize run (moveStep event calls) (start s) moves = p
  intro finished now
  have mem : ∀ i, i ∈ order ↔ Returned p i := by
    intro i
    rw [now.mem i]
    rcases finished i with ⟨answer, returned⟩ | ⟨e, failed⟩
    · exact iff_of_true (by rw [returned]; trivial) ⟨answer, returned⟩
    · refine iff_of_false (by rw [failed]; exact id) ?_
      rintro ⟨answer, returned⟩
      rw [failed] at returned
      cases returned
  have listed : ∀ {i}, Returned p i → calls i ∈ order.map calls :=
    fun returned => List.mem_map_of_mem ((mem _).mpr returned)
  have named : ∀ {q : Request}, q ∈ order.map calls → ∃ i, Returned p i ∧ calls i = q := by
    intro q there
    obtain ⟨i, inOrder, same⟩ := List.mem_map.mp there
    exact ⟨i, (mem i).mp inOrder, same⟩
  refine ⟨⟨order, now.nodup, mem, p.shared, now.serial, rfl⟩, fun i id returned submits => ?_,
    fun i id returned deletes idea stored => ?_, fun a memA b memB differ newA newB kept => ?_⟩
  · rcases now.ideas.present _ (listed returned) id submits with
      ⟨idea, there, rfl⟩ | ⟨q, there, deletes⟩
    · rcases stored_or_initial there with stored | initial
      · exact .inl ⟨idea, stored, rfl⟩
      · have old := fresh.new i idea.id submits idea
          (List.mem_append_right _ (now.initialIdeas ▸ initial))
        exact absurd rfl old
    · obtain ⟨j, returned', rfl⟩ := named there
      exact .inr ⟨j, returned', deletes⟩
  · exact now.ideas.absent _ (listed returned) id deletes idea (mem_ideasOf_of_stored stored)
  · obtain ⟨i, returnedA, submitsA⟩ := newA
    obtain ⟨j, returnedB, submitsB⟩ := newB
    refine now.ideas.numbers a (mem_ideasOf_of_stored memA) b (mem_ideasOf_of_stored memB) differ
      ⟨_, listed returnedA, submitsA⟩ ⟨_, listed returnedB, submitsB⟩ fun q there => ?_
    obtain ⟨k, returned, rfl⟩ := named there
    exact kept k returned

end

/-! ### Two students and a teacher -/

namespace Hackathon

def event : Event := ⟨"hackathon", 1, []⟩

def student (id : Id) : User := ⟨id, .student, some "Sara", none, none⟩

def submission (id : Id) (drawn : String) : Request :=
  ⟨1, .submitEventIdea (student id) ⟨"Idea", "Text", none, none, none, none, none⟩ 0 drawn⟩

/-- Two students submit an idea, a teacher locks the submissions, and another renames the event. -/
def calls : Fin 4 → Request
  | 0 => submission 10 "idea_0_a"
  | 1 => submission 11 "idea_0_b"
  | 2 => ⟨1, .updateEventWizardSteps ⟨2, .teacher, none, none, none⟩ ⟨none, some (some true)⟩⟩
  | 3 => ⟨1, .updateEvent {} []⟩

def store : Store := ⟨.null, []⟩

theorem freshIds : FreshIds event calls store where
  differ i j id first second := by
    have apart : ∀ i j, (calls i).submits = (calls j).submits → (calls i).submits = none ∨ i = j := by
      decide +kernel
    exact (apart i j (first.trans second.symm)).resolve_left (by simp [first])
  new i id submits idea mem := by
    simp [ideasOf, parseWorkflowModules, WorkflowModules.wizardData, getInitialBackendIdeas,
      store] at mem

end Hackathon

open Hackathon in
/-- The new name is stored while the others submit and lock. -/
theorem edits_kept_in_turn : EditsKept event calls store
    (run (moveStep event calls) (start store) (moves [1, 3, 1, 2, 3, 2, 0, 0])) := by
  refine edits_kept freshIds (by decide +kernel) fun i => ?_
  fin_cases i
  · exact .inr ⟨_, rfl⟩
  · exact .inl ⟨_, rfl⟩
  · exact .inl ⟨_, rfl⟩
  · exact .inl ⟨_, rfl⟩

open Hackathon in
/-- Both students read the empty column, and the second one stores a document without the first
one's idea. -/
theorem not_edits_kept : ¬ EditsKept event calls store
    (run (moveStep event calls) (start store) (moves [0, 1, 0, 1, 2, 2])) := by
  intro kept
  have deletes : ∀ j, (calls j).deletes = none := by decide
  rcases kept.present 0 "idea_0_a" ⟨_, rfl⟩ rfl with stored | ⟨j, -, deleted⟩
  · revert stored
    decide +kernel
  · rw [deletes j] at deleted
    cases deleted

end Rokad.Wizard
