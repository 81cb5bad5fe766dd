import Rokad.Wizard.Kept

/-!
# The wizard reads back

One call at a time, what `getEventWizardData` shows should be what the calls have told: the steps
and the lock last given, the ideas, and the teams saved. A part that looks empty is read as the
initial one, and modules given by an update of the event replace the whole column. So it reads back
exactly along the runs in which no list of steps is empty, no deletion empties a list of ideas that
starts with some, and modules find no wizard's data but the initial one (`read_back_iff`).
-/

namespace Rokad.Wizard

open Rokad.Base Rokad.Common

/-! ### What is shown and what was told -/

section

variable (event : Event) (s : Store)

def getEventWizardData (tenantId : Id) :
    Result (String × List WorkflowModule × WizardData) := do
  require (tenantId = event.tenantId) (.notFound "رویداد مورد نظر یافت نشد")
  return (event.id, parseWorkflowModules event s)

/-- A call on its own; one that fails leaves the event as it was. -/
def step (r : Request) : Store :=
  match r.edit event s with
  | .ok edit => { s with initialIdeas := edit.initialIdeas }.put edit.write
  | .error _ => s

abbrev dataOf : WizardData := (parseWorkflowModules event s).2

/-- The data of an event that has none of its own. -/
def seededData : WizardData := dataOf event { s with column := .null }

end

/-- The idea with the fields that are given. -/
def Idea.edited (user : User) (dto : UpdateEventIdeaDto) (idea : Idea) : Idea :=
  { idea with
    title := (dto.title.join.map trim).getD idea.title
    description := (dto.description.join.map trim).getD idea.description
    status := if user.isManager then dto.status.getD idea.status else idea.status
    ideaNumber := if user.isManager then dto.ideaNumber.getD idea.ideaNumber else idea.ideaNumber
    authorName := (dto.authorName.join.map trim).getD idea.authorName }

/-- What a call that succeeds with the answer tells of the event. -/
def Request.tell (r : Request) (answer : Answer) (data : WizardData) : WizardData :=
  match r.call with
  | .submitEventIdea .. =>
    match answer with
    | .submitted idea _ => { data with ideas := idea :: data.ideas }
    | _ => data
  | .updateEventIdea user ideaId dto =>
    { data with
      ideas := data.ideas.modify (data.ideas.findIdx fun i => i.id = ideaId) (·.edited user dto) }
  | .deleteEventIdea _ ideaId => { data with ideas := data.ideas.filter fun i => i.id ≠ ideaId }
  | .updateEventWizardSteps _ dto =>
    { data with
      unlockedSteps := dto.unlockedSteps.getD data.unlockedSteps
      isIdeaSubmissionLocked := dto.isIdeaSubmissionLocked.getD data.isIdeaSubmissionLocked }
  | .updateEventTeams _ teams => { data with teams := merged data.teams teams }
  | .updateEvent .. => data

/-- The event with what has been told of it. -/
def stepTold (event : Event) (x : Store × WizardData) (r : Request) : Store × WizardData :=
  (step event x.1 r,
    match r.edit event x.1 with
    | .ok edit => r.tell edit.answer x.2
    | .error _ => x.2)

/-- What is shown of the event is what has been told. -/
def Shows (event : Event) (x : Store × WizardData) : Prop :=
  ∃ modules, getEventWizardData event x.1 event.tenantId = .ok (event.id, modules, x.2)

/-- A call does not pass for an absent part what is one. -/
def Request.Fits (event : Event) (s : Store) (r : Request) : Prop :=
  r.tenantId = event.tenantId →
    match r.call with
    | .deleteEventIdea user ideaId =>
      (∀ idea ∈ (ideasOf event s).find? fun i => i.id = ideaId, mayChange user idea = true →
        getInitialBackendIdeas event s = [] ∨ ∃ other ∈ ideasOf event s, other.id ≠ ideaId)
    | .updateEventWizardSteps user dto =>
      user.isManager = true → ∀ steps ∈ dto.unlockedSteps, steps ≠ none ∧ steps ≠ some []
    | .updateEvent dto _ =>
      dto.workflowModules = none ∨ dataOf event s = seededData event s
    | _ => True

/-! ### One call -/

section

variable {event : Event} {s : Store} {r : Request}

theorem shows_iff {x : Store × WizardData} : Shows event x ↔ dataOf event x.1 = x.2 := by
  simp [Shows, getEventWizardData, require, bind, Except.bind, pure, Except.pure, Prod.ext_iff]

/-- No part of what is read looks empty, unless it is so initially. -/
theorem parsed_spec (event : Event) (s : Store) :
    (∃ steps, steps ≠ [] ∧ (dataOf event s).unlockedSteps = some steps) ∧
      ((dataOf event s).ideas = [] → getInitialBackendIdeas event s = []) ∧
      ((dataOf event s).teams = [] → getInitialBackendTeams event = []) := by
  unfold dataOf parseWorkflowModules
  cases s.column.wizardData with
  | none => exact ⟨⟨allSteps, by decide, rfl⟩, id, id⟩
  | some data =>
    refine ⟨⟨_, ?_, rfl⟩, ?_, ?_⟩
    · cases given : data.unlockedSteps.filter (· ≠ []) with
      | none => decide
      | some steps => exact of_decide_eq_true (Option.filter_eq_some_iff.mp given).2
    all_goals
      intro empty
      dsimp only at empty
      split_ifs at empty with absent
      · exact empty
      · exact absurd empty absent

theorem ite_nil_iff {α : Type} {l initial : List α} :
    (if l = [] then initial else l) = l ↔ (l = [] → initial = []) := by
  split_ifs with empty <;> simp [empty]

/-- Data that is stored is read as it is exactly if no part looks empty that is not so initially. -/
theorem read_stored_iff {modules : List WorkflowModule} {data : WizardData} :
    dataOf event (s.put (some (.wizard modules (some data)))) = data ↔
      (∃ steps, steps ≠ [] ∧ data.unlockedSteps = some steps) ∧
      (data.ideas = [] → getInitialBackendIdeas event s = []) ∧
      (data.teams = [] → getInitialBackendTeams event = []) := by
  obtain ⟨unlocked, locked, ideas, teams⟩ := data
  have read : dataOf event
      (s.put (some (.wizard modules (some ⟨unlocked, locked, ideas, teams⟩)))) =
        { unlockedSteps := some ((unlocked.filter (· ≠ [])).getD allSteps)
          isIdeaSubmissionLocked := locked
          ideas := if ideas = [] then getInitialBackendIdeas event s else ideas
          teams := if teams = [] then getInitialBackendTeams event else teams } := rfl
  have steps : some ((unlocked.filter (· ≠ [])).getD allSteps) = unlocked ↔
      ∃ steps, steps ≠ [] ∧ unlocked = some steps := by
    rcases unlocked with _ | _ | ⟨step, steps⟩ <;> simp [Option.filter, allSteps]
  rw [read, WizardData.mk.injEq, ite_nil_iff, ite_nil_iff, steps]
  simp only [true_and]

theorem read_updateEvent (dto : UpdateEventDto) (customTypes : List EventType) :
    dataOf event (s.put (updateEvent s dto customTypes).write) = dataOf event s ↔
      dto.workflowModules = none ∨ dataOf event s = seededData event s := by
  unfold updateEvent
  dsimp only
  split
  · rename_i defaults
    simp only [Bool.and_eq_true, Bool.or_eq_true, decide_eq_true_eq] at defaults
    have seeded : dataOf event s = seededData event s := by
      rcases defaults.1.2 with column | column <;>
        simp only [seededData, dataOf, parseWorkflowModules, column,
          WorkflowModules.wizardData] <;> rfl
    rw [seeded]
    exact iff_of_true rfl (.inr rfl)
  · cases given : dto.workflowModules with
    | none => exact iff_of_true rfl (.inl rfl)
    | some modules =>
      have read : dataOf event (s.put (some (.modules modules))) = seededData event s := rfl
      simp only [Option.map_some, read, reduceCtorEq, false_or]
      exact eq_comm

theorem trimmed_eq {field : Field String} {text : Option String} (done : trimmed field = .ok text) :
    text = field.join.map trim := by
  rcases field with _ | _ | given <;> simp only [trimmed, Except.ok.injEq, reduceCtorEq] at done
  all_goals exact done.symm

/-- An idea is edited in its place, so there are as many as before. -/
theorem read_updateEventIdea {user : User} {ideaId : String} {dto : UpdateEventIdeaDto}
    {edit : Edit} (done : updateEventIdea event s user ideaId dto = .ok edit) :
    dataOf event ({ s with initialIdeas := edit.initialIdeas }.put edit.write) =
      { dataOf event s with
        ideas := (dataOf event s).ideas.modify
          ((dataOf event s).ideas.findIdx fun i => i.id = ideaId) (·.edited user dto) } := by
  obtain ⟨some', ideas, teams⟩ := parsed_spec event s
  simp only [updateEventIdea, do_eq_ok, exists_const] at done
  obtain ⟨old, found, -, title, isTitle, description, isDescription, authorName, isAuthor, rfl⟩ :=
    done
  obtain rfl := trimmed_eq isTitle
  obtain rfl := trimmed_eq isDescription
  obtain rfl := trimmed_eq isAuthor
  obtain ⟨i, isIndex⟩ : ∃ i, (dataOf event s).ideas.findIdx (fun idea => idea.id = ideaId) = i :=
    ⟨_, rfl⟩
  rw [isIndex] at found ⊢
  have edited : (dataOf event s).ideas.modify i (·.edited user dto) =
      (dataOf event s).ideas.set i (old.edited user dto) := by
    rw [List.modify_eq_set_getElem?, found]
    rfl
  rw [edited]
  refine read_stored_iff.mpr ⟨some', fun empty => ?_, teams⟩
  have nothing : (dataOf event s).ideas = [] := by
    simpa only [List.set_eq_nil_iff] using empty
  rw [nothing, List.getElem?_nil] at found
  cases found

/-- A call that succeeds is read back exactly if it fits. -/
theorem read_iff {edit : Edit} (done : r.edit event s = .ok edit) :
    dataOf event ({ s with initialIdeas := edit.initialIdeas }.put edit.write) =
        r.tell edit.answer (dataOf event s) ↔ r.Fits event s := by
  obtain ⟨⟨steps, some', isSteps⟩, ideas, teams⟩ := parsed_spec event s
  unfold Request.edit at done
  unfold Request.tell Request.Fits
  cases call : r.call with
  | submitEventIdea user dto now drawn =>
    simp only [call, do_eq_ok, submitEventIdea, exists_const] at done
    obtain ⟨own, -, rfl⟩ := done
    exact iff_of_true (read_stored_iff.mpr ⟨⟨steps, some', isSteps⟩, by simp, teams⟩)
      fun _ => trivial
  | updateEventIdea user ideaId dto =>
    simp only [call, do_eq_ok, exists_const] at done
    exact iff_of_true (read_updateEventIdea done.2) fun _ => trivial
  | deleteEventIdea user ideaId =>
    simp only [call, do_eq_ok, exists_const, deleteEventIdea] at done
    obtain ⟨own, old, found, may, rfl⟩ := done
    refine (read_stored_iff (s := s)).trans ?_
    have emptied : ((dataOf event s).ideas.filter fun i => i.id ≠ ideaId) = [] ↔
        ¬ ∃ other ∈ ideasOf event s, other.id ≠ ideaId := by
      simp [ideasOf, List.filter_eq_nil_iff]
    rw [ideasOf] at emptied ⊢
    rw [and_iff_right ⟨steps, some', isSteps⟩, and_iff_left teams, emptied]
    simp only [own, found, forall_const, Option.mem_def, Option.some.injEq, forall_eq', may]
    rw [imp_iff_not_or, not_not, or_comm]
  | updateEventWizardSteps user dto =>
    simp only [call, do_eq_ok, exists_const] at done
    obtain ⟨manager, own, rfl⟩ := done
    refine (read_stored_iff (s := s)).trans ?_
    simp only [own, manager, forall_const]
    rw [and_iff_left ⟨ideas, teams⟩]
    cases dto.unlockedSteps with
    | none => exact iff_of_true ⟨steps, some', isSteps⟩ (by simp)
    | some given => cases given <;> simp
  | updateEventTeams user given =>
    simp only [call, do_eq_ok, exists_const] at done
    obtain ⟨own, rfl⟩ := done
    refine iff_of_true (read_stored_iff.mpr ⟨⟨steps, some', isSteps⟩, ideas, fun empty => ?_⟩)
      fun _ => trivial
    exact teams (List.map_eq_nil_iff.mp (List.append_eq_nil_iff.mp empty).1)
  | updateEvent dto customTypes =>
    simp only [call, do_eq_ok, exists_const] at done
    obtain ⟨own, rfl⟩ := done
    exact (read_updateEvent (s := s) dto customTypes).trans (by simp [own])

/-- A call that fails fits: it is of another school, or is not allowed, or finds no idea. -/
theorem fits_of_error {e : Failure} (failed : r.edit event s = .error e) : r.Fits event s := by
  intro own
  unfold Request.edit at failed
  simp only [require, own, if_true] at failed
  cases call : r.call with
  | deleteEventIdea user ideaId =>
    intro idea found may
    rw [Option.mem_def, ideasOf] at found
    simp only [call, deleteEventIdea, require, found, orFail, ok_bind, may, if_true] at failed
    cases failed
  | updateEventWizardSteps user dto =>
    intro manager
    simp only [call, manager, if_true] at failed
    cases failed
  | updateEvent dto customTypes =>
    simp only [call] at failed
    cases failed
  | _ => trivial

/-- What has been told is shown after a call exactly if the call fits. -/
theorem shows_stepTold_iff {data : WizardData} (shown : Shows event (s, data)) :
    Shows event (stepTold event (s, data) r) ↔ r.Fits event s := by
  rw [shows_iff] at shown ⊢
  change dataOf event s = data at shown
  subst shown
  unfold stepTold step
  cases done : r.edit event s with
  | error e => exact iff_of_true rfl (fits_of_error done)
  | ok edit => exact read_iff done

end

/-! ### Runs -/

/-- At every point of a run, what is shown is what has been told so far, exactly if each call finds
the event as the condition says. -/
theorem read_back_iff (event : Event) (s : Store) (rs : List Request) :
    (∀ before, before <+: rs → Shows event (run (stepTold event) (s, dataOf event s) before)) ↔
      Along (step event) (fun s r => r.Fits event s) s rs := by
  rw [forall_run_iff, and_iff_right (shows_iff.mpr rfl)]
  have same : ∀ (rs : List Request) (x : Store × WizardData), Shows event x →
      (Along (stepTold event) (fun x r => Shows event (stepTold event x r)) x rs ↔
        Along (step event) (fun s r => r.Fits event s) x.1 rs) := by
    intro rs
    induction rs with
    | nil => exact fun _ _ => Iff.rfl
    | cons r rs ih =>
      rintro ⟨s, data⟩ shown
      have one : Shows event (stepTold event (s, data) r) ↔ r.Fits event s :=
        shows_stepTold_iff shown
      constructor
      · rintro ⟨now, later⟩
        exact ⟨one.mp now, (ih _ now).mp later⟩
      · rintro ⟨now, later⟩
        exact ⟨one.mpr now, (ih _ (one.mpr now)).mpr later⟩
  exact same rs _ (shows_iff.mpr rfl)

end Rokad.Wizard
