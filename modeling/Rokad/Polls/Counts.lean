import Rokad.Polls.Service

/-!
# Counts of votes

The number stored with an option should be the number of votes on its poll that select it. Every
vote counts its selection up, text by text. But `castVote` counts any option that it is given, of
this poll or another and as often as it is named, and `submitAnswers` counts a text that two
questions share on the first of their options, whichever was meant (`not_polls_agree`).

So the numbers agree exactly as long as each option that a vote names is one of its poll, and is
counted once (`polls_agree_iff`).
-/

namespace Rokad.Polls

open Rokad.Base Rokad.Common

/-! ### The law -/

/-- The vote is on the option's poll, and selects it: by its id, or in an answer by its text. -/
def selects (v : PollVote) (o : PollOption) : Bool :=
  v.pollId = o.pollId &&
    (o.idText ∈ v.selectedOptionIds || v.answers.isSome && o.text ∈ v.selectedOptionIds)

theorem selects_iff {v : PollVote} {o : PollOption} : selects v o = true ↔ v.pollId = o.pollId ∧
    (o.idText ∈ v.selectedOptionIds ∨ v.answers.isSome = true ∧ o.text ∈ v.selectedOptionIds) := by
  simp [selects]

def Counted (store : Store) : Prop :=
  ∀ o ∈ store.options.rows, o.voteCount = store.votes.count (selects · o)
deriving Decidable

/-- What is to hold after a step, with the statement that went through if there was one. -/
structure Agrees (store store' : Store) (s : Option Statement) : Prop where
  counted : Counted store'
  atMost : ∀ o ∈ store'.options.rows, o.voteCount ≤ store'.votes.count (·.pollId = o.pollId)
  apart : ∀ id o, store.options.find? id = some o →
    (∀ data ∈ s.bind Statement.vote, data.pollId ≠ o.pollId) → store'.options.find? id = some o

/-! ### What is counted -/

/-- The option that a text is counted on. -/
def found (options : Table PollOption) (names : String → PollOption → Bool) (optId : String) :
    Option Id :=
  (options.rows.find? (names optId)).map (·.id)

/-- How often an option is counted. -/
def hits (options : Table PollOption) (names : String → PollOption → Bool) (texts : List String)
    (id : Id) : ℕ :=
  texts.countP fun optId => found options names optId = some id

/-- Each option that the texts name is one of the poll, and is counted once. -/
def EachOnce (options : Table PollOption) (names : String → PollOption → Bool) (data : NewVote) :
    Prop :=
  ∀ o ∈ options.rows, (∃ optId ∈ data.selectedOptionIds, names optId o = true) →
    o.pollId = data.pollId ∧ hits options names data.selectedOptionIds o.id = 1

def Statement.EachOnce (store : Store) : Statement → Prop
  | .answer data _ _ => Polls.EachOnce store.options (namedInAnswer data.pollId) data
  | .cast data _ => Polls.EachOnce store.options namedInVote data
  | _ => True

/-- An option that was counted `n` times more. -/
def PollOption.raise (o : PollOption) (n : ℕ) : PollOption :=
  { o with voteCount := o.voteCount + n }

theorem voteCount_raise (o : PollOption) (n : ℕ) : (o.raise n).voteCount = o.voteCount + n := rfl

theorem selects_raise (v : PollVote) (o : PollOption) (n : ℕ) :
    selects v (o.raise n) = selects v o := rfl

section

variable {options options' : Table PollOption} {names : String → PollOption → Bool}
  {missing : Result Unit} {texts : List String} {id : Id}

/-- Which options a text names does not depend on their counts. -/
def Steady (names : String → PollOption → Bool) : Prop :=
  ∀ optId o n, names optId (o.raise n) = names optId o

theorem steady_answer (pollId : Id) : Steady (namedInAnswer pollId) := fun _ _ _ => rfl

theorem steady_vote : Steady namedInVote := fun _ _ _ => rfl

theorem found_update (steady : Steady names)
    (updated : options.update id PollOption.increment PollOption.key_increment = some options')
    (optId : String) : found options' names optId = found options names optId := by
  obtain ⟨row, -, -, rows⟩ := Table.update_spec.mp updated
  have same : ∀ o : PollOption,
      names optId (if Record.key o = id then o.increment else o) = names optId o := by
    intro o
    split
    · exact steady optId o 1
    · rfl
  unfold found
  rw [rows, List.find?_map, Option.map_map]
  simp only [Function.comp_def, same]
  refine Option.map_congr fun o _ => ?_
  split <;> rfl

/-- Every option is counted up by its hits, and nothing else changes. -/
theorem countSelected_spec (steady : Steady names)
    (done : countSelected names missing texts options = .ok options') (id : Id) :
    options'.find? id = (options.find? id).map (·.raise (hits options names texts id)) := by
  induction texts generalizing options with
  | nil =>
    cases done
    simp [hits, PollOption.raise]
  | cons optId texts ih =>
    rw [countSelected] at done
    cases first : options.rows.find? (names optId) with
    | none =>
      simp only [first, bind_eq_ok] at done
      obtain ⟨_, -, rest⟩ := done
      have none : found options names optId = none := by simp [found, first]
      rw [ih rest]
      simp [hits, none]
    | some opt =>
      simp only [first, bind_eq_ok, updateRow_eq_ok] at done
      obtain ⟨_, -, options₁, updated, rest⟩ := done
      have here : found options names optId = some opt.id := by simp [found, first]
      have same : hits options₁ names texts id = hits options names texts id :=
        List.countP_congr fun t _ => by rw [found_update steady updated]
      rw [ih rest, same, Table.find?_update updated, Option.map_map]
      refine Option.map_congr fun o _ => ?_
      by_cases own : id = opt.id
      · simp [own, hits, here, PollOption.increment, PollOption.raise, Nat.add_assoc, Nat.add_comm]
      · have other : ¬ opt.id = id := fun same => own same.symm
        simp [own, other, hits, here]

theorem mem_countSelected (steady : Steady names)
    (done : countSelected names missing texts options = .ok options') {o' : PollOption} :
    o' ∈ options'.rows ↔ ∃ o ∈ options.rows, o' = o.raise (hits options names texts o.id) := by
  have after := countSelected_spec steady done
  constructor
  · intro mem
    have there : options'.find? o'.id = some o' := find?_key _ mem
    rw [after] at there
    obtain ⟨o, before, raised⟩ := Option.map_eq_some_iff.mp there
    have same : o.id = o'.id := key_of_find? before
    exact ⟨o, mem_of_find? before, by rw [same, raised]⟩
  · rintro ⟨o, mem, rfl⟩
    have before : options.find? o.id = some o := find?_key _ mem
    refine mem_of_find? (k := o.id) ?_
    rw [after, before, Option.map_some]

theorem names_of_found {optId : String} {o : PollOption}
    (first : found options names optId = some o.id) (mem : o ∈ options.rows) :
    names optId o = true := by
  obtain ⟨o', found', same⟩ := Option.map_eq_some_iff.mp first
  obtain rfl := options.eq_of_key_eq (List.mem_of_find?_eq_some found') mem same
  exact List.find?_some found'

end

/-! ### Exactness -/

section

variable {store store' : Store} {data : NewVote} {answers : Option Answers} {reaches : Bool}
  {names : String → PollOption → Bool} {missing : Result Unit} {id : Key}

/-- After a vote the numbers agree if each option is counted exactly when the vote selects it. -/
theorem counted_storeVote (steady : Steady names) (counted : Counted store)
    (done : storeVote data answers reaches names missing store = .ok (store', id)) :
    Counted store' ↔ ∀ o ∈ store.options.rows,
      hits store.options names data.selectedOptionIds o.id =
        if selects (data.row answers store.votes.fresh) o then 1 else 0 := by
  obtain ⟨-, -, inserted, -, selected⟩ := storeVote_spec done
  have votes : ∀ o, store'.votes.count (selects · o) = store.votes.count (selects · o) +
      if selects (data.row answers store.votes.fresh) o then 1 else 0 :=
    fun o => Table.count_insert inserted _
  simp only [Counted, mem_countSelected steady selected]
  constructor
  · intro counted' o mem
    have now := counted' _ ⟨o, mem, rfl⟩
    simp only [voteCount_raise, selects_raise, votes] at now
    have before := counted o mem
    omega
  · rintro agree _ ⟨o, mem, rfl⟩
    have before := counted o mem
    have here := agree o mem
    simp only [voteCount_raise, selects_raise, votes]
    omega

/-- Where a text that names an option of another poll is counted on it, the numbers agree if each
option that is named is one of the poll, and is counted once. -/
theorem eachOnce_iff (own : ∀ optId, ∀ o ∈ store.options.rows, names optId o = true →
      o.pollId = data.pollId ∨ found store.options names optId = some o.id)
    (selected : ∀ o, selects (data.row answers store.votes.fresh) o = true ↔
      o.pollId = data.pollId ∧ ∃ optId ∈ data.selectedOptionIds, names optId o = true) :
    (∀ o ∈ store.options.rows, hits store.options names data.selectedOptionIds o.id =
      if selects (data.row answers store.votes.fresh) o then 1 else 0) ↔
      EachOnce store.options names data := by
  have none : ∀ o ∈ store.options.rows, (¬ ∃ optId ∈ data.selectedOptionIds, names optId o = true) →
        hits store.options names data.selectedOptionIds o.id = 0 := fun o mem unnamed => by
    refine List.countP_eq_zero.mpr fun optId given first => unnamed ⟨optId, given, ?_⟩
    exact names_of_found (of_decide_eq_true first) mem
  constructor
  · rintro agree o mem ⟨optId, given, named⟩
    have here := agree o mem
    by_cases ofPoll : o.pollId = data.pollId
    · rw [if_pos ((selected o).mpr ⟨ofPoll, optId, given, named⟩)] at here
      exact ⟨ofPoll, here⟩
    · rw [if_neg fun chosen => ofPoll ((selected o).mp chosen).1] at here
      have counts := (own optId o mem named).resolve_left ofPoll
      exact absurd (decide_eq_true counts) (List.countP_eq_zero.mp here optId given)
  · intro once o mem
    by_cases named : ∃ optId ∈ data.selectedOptionIds, names optId o = true
    · obtain ⟨ofPoll, one⟩ := once o mem named
      rw [one, if_pos ((selected o).mpr ⟨ofPoll, named⟩)]
    · rw [none o mem named, if_neg fun chosen => named ((selected o).mp chosen).2]

/-- Votes refer to polls. -/
abbrev Refers (store : Store) : Prop :=
  Table.References (fun v : PollVote => some v.pollId) store.votes store.polls

theorem named_answer (pollId : Id) {optId : String} {o : PollOption} :
    namedInAnswer pollId optId o = true ↔
      o.pollId = pollId ∧ (o.idText = optId ∨ o.text = optId) := by
  simp [namedInAnswer]

theorem named_vote {optId : String} {o : PollOption} :
    namedInVote optId o = true ↔ o.idText = optId := by
  simp [namedInVote]

theorem eachOnce_answer {given : Answers} :
    (∀ o ∈ store.options.rows, hits store.options (namedInAnswer data.pollId)
        data.selectedOptionIds o.id =
      if selects (data.row (some given) store.votes.fresh) o then 1 else 0) ↔
      EachOnce store.options (namedInAnswer data.pollId) data := by
  refine eachOnce_iff (fun optId o _ named => Or.inl ((named_answer _).mp named).1) fun o => ?_
  rw [selects_iff]
  simp only [NewVote.row, named_answer, Option.isSome_some, true_and]
  constructor
  · rintro ⟨ofPoll, id | text⟩
    · exact ⟨ofPoll.symm, _, id, ofPoll.symm, Or.inl rfl⟩
    · exact ⟨ofPoll.symm, _, text, ofPoll.symm, Or.inr rfl⟩
  · rintro ⟨ofPoll, _, given, -, rfl | rfl⟩
    · exact ⟨ofPoll.symm, Or.inl given⟩
    · exact ⟨ofPoll.symm, Or.inr given⟩

/-- An id names one option. -/
theorem found_vote {options : Table PollOption} {optId : String} {o : PollOption}
    (mem : o ∈ options.rows) (named : namedInVote optId o = true) :
    found options namedInVote optId = some o.id := by
  have text := named_vote.mp named
  cases first : options.rows.find? (namedInVote optId) with
  | none => exact absurd named (List.find?_eq_none.mp first o mem)
  | some o' =>
    have text' := named_vote.mp (List.find?_some first)
    have same : o'.id = o.id := eq_of_toString_eq (text'.trans text.symm)
    simp [found, first, same]

theorem eachOnce_cast :
    (∀ o ∈ store.options.rows, hits store.options namedInVote data.selectedOptionIds o.id =
      if selects (data.row none store.votes.fresh) o then 1 else 0) ↔
      EachOnce store.options namedInVote data := by
  refine eachOnce_iff (fun optId o mem named => Or.inr (found_vote mem named)) fun o => ?_
  rw [selects_iff]
  simp only [NewVote.row, named_vote, Option.isSome_none, Bool.false_eq_true, false_and, or_false]
  constructor
  · rintro ⟨ofPoll, id⟩
    exact ⟨ofPoll.symm, _, id, rfl⟩
  · rintro ⟨ofPoll, _, given, rfl⟩
    exact ⟨ofPoll.symm, given⟩

/-! ### Steps -/

theorem insertOptions_spec {pollId : Id} {data : List (String × ℕ)}
    {options options' : Table PollOption}
    (done : insertOptions pollId data options = .ok options') :
    (∀ id o, options.find? id = some o → options'.find? id = some o) ∧
      ∀ o ∈ options'.rows, o ∈ options.rows ∨ o.pollId = pollId ∧ o.voteCount = 0 := by
  induction data generalizing options with
  | nil =>
    cases done
    exact ⟨fun _ _ found => found, fun _ mem => Or.inl mem⟩
  | cons option data ih =>
    obtain ⟨text, orderIndex⟩ := option
    simp only [insertOptions, bind_eq_ok, insertRow_eq_ok] at done
    obtain ⟨options₁, inserted, rest⟩ := done
    obtain ⟨stays, new⟩ := ih rest
    refine ⟨fun id o found => stays id o (Table.find?_insert_of_found inserted found),
      fun o mem => ?_⟩
    rcases new o mem with mem | new
    · rcases (mem_insert inserted).mp mem with mem | rfl
      · exact Or.inl mem
      · exact Or.inr ⟨rfl, rfl⟩
    · exact Or.inr new

theorem write_refers {s : Statement} (refers : Refers store)
    (done : write s store = .ok (store', id)) : Refers store' := by
  have voted {data : NewVote} {answers : Option Answers} {reaches : Bool}
      {names : String → PollOption → Bool} {missing : Result Unit}
      (done : storeVote data answers reaches names missing store = .ok (store', id)) :
      Refers store' := by
    obtain ⟨polls, -, inserted, there, -⟩ := storeVote_spec done
    rw [Refers, polls]
    exact refers.insert_child inserted there
  cases s with
  | createPoll data reaches =>
    simp only [write, do_eq_ok, insertRow_eq_ok] at done
    obtain ⟨_, -, polls, inserted, options, -, ⟨⟩⟩ := done
    exact refers.insert_parent inserted
  | answer data answers reaches => exact voted done
  | cast data reaches => exact voted done
  | lost => cases done
  | rememberPoll poll =>
    cases done
    exact refers
  | rememberVote vote =>
    cases done
    exact refers

theorem counted_iff {s : Statement} (refers : Refers store) (counted : Counted store)
    (done : write s store = .ok (store', id)) : Counted store' ↔ s.EachOnce store := by
  cases s with
  | createPoll data reaches =>
    simp only [write, do_eq_ok, insertRow_eq_ok] at done
    obtain ⟨_, -, polls, inserted, options, created, ⟨⟩⟩ := done
    refine iff_of_true (fun o mem => ?_) trivial
    rcases (insertOptions_spec created).2 o mem with mem | ⟨ofPoll, zero⟩
    · exact counted o mem
    · -- nobody has voted on a poll that is new
      rw [zero]
      refine (Table.count_eq_zero_iff.mpr fun v mem => ?_).symm
      have differ : v.pollId ≠ o.pollId := fun same => by
        obtain ⟨poll, there⟩ := has_some_iff.mp (refers v mem)
        rw [same, ofPoll, find?_fresh] at there
        cases there
      simp [selects, differ]
  | answer data answers reaches =>
    exact (counted_storeVote (steady_answer _) counted done).trans eachOnce_answer
  | cast data reaches =>
    exact (counted_storeVote steady_vote counted done).trans eachOnce_cast
  | lost => cases done
  | rememberPoll poll =>
    cases done
    exact iff_of_true counted trivial
  | rememberVote vote =>
    cases done
    exact iff_of_true counted trivial

theorem atMost_of_counted (counted : Counted store) :
    ∀ o ∈ store.options.rows, o.voteCount ≤ store.votes.count (·.pollId = o.pollId) := by
  intro o mem
  rw [counted o mem]
  refine List.countP_mono_left fun v _ chosen => ?_
  simp only [selects, Bool.and_eq_true] at chosen
  exact chosen.1

theorem apart_of_eachOnce {s : Statement} (once : s.EachOnce store)
    (done : write s store = .ok (store', id)) (k : Id) (o : PollOption)
    (there : store.options.find? k = some o)
    (other : ∀ data ∈ s.vote, data.pollId ≠ o.pollId) : store'.options.find? k = some o := by
  have voted {data : NewVote} {answers : Option Answers} {reaches : Bool}
      {names : String → PollOption → Bool} {missing : Result Unit} (steady : Steady names)
      (once : EachOnce store.options names data) (differ : data.pollId ≠ o.pollId)
      (done : storeVote data answers reaches names missing store = .ok (store', id)) :
      store'.options.find? k = some o := by
    obtain ⟨-, -, -, -, selected⟩ := storeVote_spec done
    have mem := mem_of_find? there
    have key : o.id = k := key_of_find? there
    have none : hits store.options names data.selectedOptionIds k = 0 := by
      refine List.countP_eq_zero.mpr fun optId given first => differ ?_
      have named := names_of_found (key ▸ of_decide_eq_true first) mem
      exact (once o mem ⟨optId, given, named⟩).1.symm
    rw [countSelected_spec steady selected, there, none]
    rfl
  cases s with
  | createPoll data reaches =>
    simp only [write, do_eq_ok, insertRow_eq_ok] at done
    obtain ⟨_, -, polls, inserted, options, created, ⟨⟩⟩ := done
    exact (insertOptions_spec created).1 k o there
  | answer data answers reaches => exact voted (steady_answer _) once (other data rfl) done
  | cast data reaches => exact voted steady_vote once (other data rfl) done
  | lost => cases done
  | rememberPoll poll =>
    cases done
    exact there
  | rememberVote vote =>
    cases done
    exact there

end

/-! ### Runs -/

section

variable {ι : Type} [DecidableEq ι] {calls : ι → Call} {store : Store}
  {moves : List (Move ι Unit Empty)}

def AgreesAfter (p : Threads Store (PollCall Key) ι) (move : Move ι Unit Empty) : Prop :=
  Agrees p.shared (Sql.moveStep write p move).shared (Sql.committed write p move)

/-- The vote that is stored at this move, if one is, counts each option that it names once. -/
def EachOnceAt (p : Threads Store (PollCall Key) ι) (move : Move ι Unit Empty) : Prop :=
  ∀ s ∈ Sql.committed write p move, s.EachOnce p.shared

theorem agreesAfter_iff (p : Threads Store (PollCall Key) ι) (move : Move ι Unit Empty)
    (refers : Refers p.shared) (counted : Counted p.shared) :
    (AgreesAfter p move ↔ EachOnceAt p move) ∧ Refers (Sql.moveStep write p move).shared := by
  rcases move with ⟨i, ⟨⟩⟩ | e
  swap
  · exact e.elim
  unfold AgreesAfter EachOnceAt
  rcases Sql.moveStep_cases write p i with ⟨s, next, store', made, -, done, commits, moved⟩ |
    ⟨quiet, same⟩
  · rw [moved, commits, Threads.shared_put]
    refine ⟨⟨fun agrees s' is => ?_, fun once => ?_⟩, write_refers refers done⟩
    · cases is
      exact (counted_iff refers counted done).mp agrees.counted
    · have counted' := (counted_iff refers counted done).mpr (once s rfl)
      exact ⟨counted', atMost_of_counted counted', apart_of_eachOnce (once s rfl) done⟩
  · rw [quiet, same]
    exact ⟨iff_of_true ⟨counted, atMost_of_counted counted, fun _ _ there _ => there⟩ nofun, refers⟩

/-- **The numbers agree with the votes.** They do after every step exactly if every vote that is
stored counts each option that it names once, and names those of its poll only. -/
theorem polls_agree_iff (refers : Refers store) (counted : Counted store) :
    Along (Sql.moveStep write) AgreesAfter (start store calls) moves ↔
      Along (Sql.moveStep write) EachOnceAt (start store calls) moves := by
  refine along_iff (I := fun p => Refers p.shared ∧ Counted p.shared) (D := fun _ _ => True)
    (fun p move _ law => (agreesAfter_iff p move law.1 law.2).1) (fun p move _ agrees law => ?_)
    ⟨refers, counted⟩ (along_of_forall fun _ _ => trivial)
  exact ⟨(agreesAfter_iff p move law.1 law.2).2, agrees.counted⟩

end

instance (options : Table PollOption) (names : String → PollOption → Bool) (data : NewVote) :
    Decidable (EachOnce options names data) := by
  unfold EachOnce
  infer_instance

instance (store : Store) (s : Statement) : Decidable (s.EachOnce store) := by
  unfold Statement.EachOnce
  split <;> infer_instance

instance {ι : Type} [DecidableEq ι] (p : Threads Store (PollCall Key) ι)
    (move : Move ι Unit Empty) : Decidable (EachOnceAt p move) :=
  inferInstanceAs (Decidable (∀ s ∈ Sql.committed write p move, s.EachOnce p.shared))

namespace Board

/-- Two polls, of which the first has two questions with the same answers. -/
def store : Store where
  polls := .of
    [{ id := 1, tenantId := 1, startDate := 0, endDate := 1000 },
     { id := 2, tenantId := 2, startDate := 0, endDate := 1000 }]
  options := .of [{ id := 1, pollId := 1, text := "yes" }, { id := 2, pollId := 1, text := "no" },
    { id := 3, pollId := 1, text := "yes" }, { id := 4, pollId := 2, text := "yes" }]

def ask (userId : Id) : Request := { tenantId := 1, pollId := .stored 1, userId, now := 500 }

end Board

open Board in
/-- A poll is created, and answered by two in step. -/
theorem agrees_created : Along (Sql.moveStep write) AgreesAfter
      (start {} ![.createPoll 1 { options := ["yes", "no"], endDate := some 1000 } 0 true,
        .castVote (ask 7) { selectedOptionIds := ["2"] },
        .submitAnswers (ask 8) [("0", .items ["yes", "no"]), ("comment", .text "well")]])
      (moves [0, 0, 1, 2, 1, 2, 1, 2]) :=
  (polls_agree_iff (fun _ mem => absurd mem List.not_mem_nil)
    fun _ mem => absurd mem List.not_mem_nil).mpr (by decide +kernel)

open Board in
/-- An option named twice is counted twice, one of another poll is counted, and of two questions
with the same answers only the first is counted. -/
theorem not_polls_agree : (¬ Along (Sql.moveStep write) AgreesAfter
      (start store ![.castVote (ask 7) { selectedOptionIds := ["2", "2"] }]) (moves [0, 0, 0])) ∧
    (¬ Along (Sql.moveStep write) AgreesAfter
      (start store ![.castVote (ask 7) { selectedOptionIds := ["4"] }]) (moves [0, 0, 0])) ∧
    ¬ Along (Sql.moveStep write) AgreesAfter
      (start store ![.submitAnswers (ask 7) [("0", .text "yes"), ("1", .text "yes")]])
      (moves [0, 0, 0]) := by
  refine ⟨fun law => ?_, fun law => ?_, fun law => ?_⟩
  · exact absurd law.2.2.1.counted (by decide +kernel)
  · have apart := law.2.2.1.apart 4 { id := 4, pollId := 2, text := "yes" } rfl
      (by decide +kernel)
    exact absurd apart (by decide +kernel)
  · exact absurd law.2.2.1.counted (by decide +kernel)

end Rokad.Polls
