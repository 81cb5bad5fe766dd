import Rokad.Polls.Results

/-!
# What a list of polls shows of the votes

A student or a parent should learn nothing from a list of polls, or from a poll, about the votes of
others. The counts of the options are taken out. How many have voted is not: it stands beside the
options in both answers (`not_results_hidden`), so what is seen stays the same exactly where the
numbers of votes do. In the results of an anonymous poll nothing tells who has answered
(`results_hidden_iff`).
-/

namespace Rokad.Polls.Results

open Rokad.Base Rokad.Common

/-! ### States that should look the same -/

/-- The option without its count. -/
def blank (o : PollOption) : PollOption := { o with voteCount := 0 }

/-- Only votes of others, and the counts of the options, differ. -/
structure SameButOthers (u : Id) (db db' : Db) : Prop where
  users : db.users = db'.users
  polls : db.polls = db'.polls
  options : db.options.rows.map blank = db'.options.rows.map blank
  votes : db.votes.rows.filter (·.userId = u) = db'.votes.rows.filter (·.userId = u)

/-- The vote without its voter. -/
def PollVote.unsigned (v : PollVote) : PollVote := { v with userId := 0, respondentName := none }

/-- Only who cast the votes, and under which names, differs. -/
structure SameButVoters (db db' : Db) : Prop where
  users : db.users = db'.users
  polls : db.polls = db'.polls
  options : db.options = db'.options
  votes : db.votes.rows.map PollVote.unsigned = db'.votes.rows.map PollVote.unsigned

/-! ### What a respondent sees -/

section

variable {db db' : Db} {u tenantId pollId : Id} {role : Option UserRole}

theorem blank_optionsOf (db : Db) (pollId : Id) : (db.optionsOf pollId).map blank =
    ((db.options.rows.map blank).filter (·.pollId = pollId)).insertionSort
      fun a b => a.orderIndex ≤ b.orderIndex := by
  have sorted := List.map_insertionSort (r := fun a b : PollOption => a.orderIndex ≤ b.orderIndex)
    (s := fun a b : PollOption => a.orderIndex ≤ b.orderIndex) blank
    (db.options.rows.filter (·.pollId = pollId)) fun a _ b _ => Iff.rfl
  unfold Db.optionsOf
  rw [sorted, List.filter_map]
  rfl

theorem SameButOthers.voteOf (same : SameButOthers u db db') (pollId : Id) :
    db.voteOf pollId u = db'.voteOf pollId u := by
  have first : ∀ db : Db, db.voteOf pollId u =
      (db.votes.rows.filter (·.userId = u)).find? fun v => v.pollId = pollId := by
    intro db
    rw [List.find?_filter]
    exact congrArg (List.find? · _) (funext fun v => by simp [and_comm])
  rw [first, first, same.votes]

/-- Without the counts of the options two shown polls differ in the number of votes only. -/
theorem sanitize_eq_iff (restricted : canViewPollResults role = false)
    (same : SameButOthers u db db') (p : Poll) (createdBy : Option Person) :
    sanitizePollForRole
        { poll := p, options := db.optionsOf p.id, votes := db.countVotes p.id, createdBy } role =
      sanitizePollForRole
        { poll := p, options := db'.optionsOf p.id, votes := db'.countVotes p.id, createdBy } role ↔
      db.countVotes p.id = db'.countVotes p.id := by
  have options : (db.optionsOf p.id).map (fun opt => { opt with voteCount := 0 }) =
      (db'.optionsOf p.id).map fun opt => { opt with voteCount := 0 } := by
    have sorted := blank_optionsOf db p.id
    rw [same.options, ← blank_optionsOf db' p.id] at sorted
    exact sorted
  simp [sanitizePollForRole, restricted, options]

theorem poll_eq_some_iff {p : Poll} :
    db.poll tenantId pollId = some p ↔
      p ∈ db.polls.rows ∧ p.id = pollId ∧ p.tenantId = tenantId := by
  unfold Db.poll
  rw [Option.filter_eq_some_iff, Table.find?_eq_some_iff, and_assoc]
  simp [Record.key]

theorem listPolls_eq (restricted : canViewPollResults role = false) (same : SameButOthers u db db')
    (counts : ∀ p ∈ db.polls.rows, p.tenantId = tenantId →
      db.countVotes p.id = db'.countVotes p.id) :
    listPolls tenantId role db = listPolls tenantId role db' := by
  unfold listPolls
  rw [← same.polls, ← same.users]
  refine List.map_congr_left fun p listed => ?_
  have kept := List.mem_filter.mp ((List.mem_insertionSort _).mp listed)
  have ofTenant : p.tenantId = tenantId := (of_decide_eq_true kept.2).1
  exact (sanitize_eq_iff restricted same p _).mpr (counts p kept.1 ofTenant)

theorem getPollDetails_eq_iff (restricted : canViewPollResults role = false)
    (same : SameButOthers u db db') :
    getPollDetails tenantId pollId (some u) role db =
        getPollDetails tenantId pollId (some u) role db' ↔
      ∀ p, db.poll tenantId pollId = some p → db.countVotes p.id = db'.countVotes p.id := by
  have polls : db.poll tenantId pollId = db'.poll tenantId pollId := by
    unfold Db.poll
    rw [same.polls]
  unfold getPollDetails
  rw [← polls]
  cases found : db.poll tenantId pollId with
  | none => simp [orFail]
  | some p =>
    have shown := sanitize_eq_iff restricted same p none
    simp only [orFail, bind, Except.bind, pure, Except.pure, Except.ok.injEq,
      PollDetails.mk.injEq, Option.bind_some, same.voteOf, and_true, Option.some.injEq,
      forall_eq', shown]

end

/-! ### What the results of an anonymous poll show -/

section

variable {db db' : Db} {tenantId pollId : Id}

/-- What is shown of a response that is not signed, and all that is counted of it. -/
def Response.unsigned (v : Response) : Response := { v with respondentName := none, user := none }

theorem shown_unsigned (v : Response) : v.unsigned.shown true = v.shown true := by
  simp [Response.shown, Response.unsigned]

theorem add_unsigned (index : ℕ) (t : QuestionTally) (v : Response) :
    t.add index v.unsigned = t.add index v := rfl

theorem perQuestion_unsigned (votes : List Response) (index : ℕ) (q : SurveyQuestion) :
    perQuestion (votes.map Response.unsigned) index q = perQuestion votes index q := by
  have tallied : ∀ t, inTurn (QuestionTally.add index) t (votes.map Response.unsigned) =
      inTurn (QuestionTally.add index) t votes := by
    induction votes with
    | nil => exact fun _ => rfl
    | cons v rest ih =>
      intro t
      simp only [List.map_cons, inTurn, add_unsigned, ih]
  unfold perQuestion
  rw [tallied]

theorem formatAnalyticsData_unsigned {poll : Poll} (anonymous : poll.isAnonymous = true)
    (options : List PollOption) (votes : List Response) :
    formatAnalyticsData poll options (votes.map Response.unsigned) =
      formatAnalyticsData poll options votes := by
  unfold formatAnalyticsData
  simp only [perQuestion_unsigned, List.length_map, List.map_map, anonymous, Function.comp_def,
    shown_unsigned]

/-- What a vote adds to the results. -/
def unsignedResponse (v : PollVote) : Response where
  id := toString v.id
  respondentName := none
  answers := v.answers
  porscadResponseId := v.porscadResponseId
  createdAt := v.createdAt
  user := none

theorem SameButVoters.responses (same : SameButVoters db db') (tenantId pollId : Id) :
    (db.responses tenantId pollId).map Response.unsigned =
      (db'.responses tenantId pollId).map Response.unsigned := by
  have unsigned : ∀ db : Db, (db.responses tenantId pollId).map Response.unsigned =
      (((db.votes.rows.map PollVote.unsigned).filter fun v =>
        v.pollId = pollId ∧ v.tenantId = tenantId).insertionSort
          fun a b => b.createdAt ≤ a.createdAt).map unsignedResponse := by
    intro db
    have sorted := List.map_insertionSort (r := fun a b : PollVote => b.createdAt ≤ a.createdAt)
      (s := fun a b : PollVote => b.createdAt ≤ a.createdAt) PollVote.unsigned
      (db.votes.rows.filter fun v => v.pollId = pollId ∧ v.tenantId = tenantId)
      fun a _ b _ => Iff.rfl
    have filtered : (db.votes.rows.map PollVote.unsigned).filter
          (fun v => v.pollId = pollId ∧ v.tenantId = tenantId) =
        (db.votes.rows.filter fun v => v.pollId = pollId ∧ v.tenantId = tenantId).map
          PollVote.unsigned := List.filter_map
    unfold Db.responses
    rw [filtered, ← sorted, List.map_map, List.map_map]
    exact List.map_congr_left fun v _ => rfl
  rw [unsigned db, unsigned db', same.votes]

theorem getAnalytics_eq (live : Poll → List Response) (offline : Result AnalyticsData)
    (role : Option UserRole) (same : SameButVoters db db')
    (anonymous : ∀ p, db.poll tenantId pollId = some p → p.isAnonymous = true) :
    getAnalytics live offline tenantId pollId role db =
      getAnalytics live offline tenantId pollId role db' := by
  have polls : db.poll tenantId pollId = db'.poll tenantId pollId := by
    unfold Db.poll
    rw [same.polls]
  unfold getAnalytics
  rw [← polls]
  cases found : db.poll tenantId pollId with
  | none => rfl
  | some p =>
    have options : db.optionsOf p.id = db'.optionsOf p.id := by
      unfold Db.optionsOf
      rw [same.options]
    have votes : formatAnalyticsData p (db'.optionsOf p.id)
          (counted live p (db.responses tenantId pollId)) =
        formatAnalyticsData p (db'.optionsOf p.id)
          (counted live p (db'.responses tenantId pollId)) := by
      have responses := same.responses tenantId pollId
      have empty : db.responses tenantId pollId = [] ↔ db'.responses tenantId pollId = [] := by
        rw [← List.map_eq_nil_iff (f := Response.unsigned), responses, List.map_eq_nil_iff]
      unfold counted
      simp only [empty]
      split
      · rfl
      · rw [← formatAnalyticsData_unsigned (anonymous p found), responses,
          formatAnalyticsData_unsigned (anonymous p found)]
    simp only [orFail, bind, Except.bind, options, votes]

end

/-! ### The result -/

/-- **Poll results stay hidden but for the numbers of votes.** To a role that may not see results,
two states that differ in the votes of others and in the counts of options look the same exactly if
every poll of the school has the same number of votes in both. Of an anonymous poll the results are
the same whoever cast the votes, and under whichever names. -/
theorem results_hidden_iff (u tenantId : Id) (role : Option UserRole) (db db' : Db) :
    (canViewPollResults role = false → SameButOthers u db db' →
      ((listPolls tenantId role db = listPolls tenantId role db' ∧
          ∀ pollId, getPollDetails tenantId pollId (some u) role db =
            getPollDetails tenantId pollId (some u) role db') ↔
        ∀ p ∈ db.polls.rows, p.tenantId = tenantId → db.countVotes p.id = db'.countVotes p.id)) ∧
    (∀ (live : Poll → List Response) (offline : Result AnalyticsData) (pollId : Id),
      SameButVoters db db' → (∀ p, db.poll tenantId pollId = some p → p.isAnonymous = true) →
      getAnalytics live offline tenantId pollId role db =
        getAnalytics live offline tenantId pollId role db') := by
  refine ⟨fun restricted same => ⟨fun seen p mem ofTenant => ?_,
    fun counts => ⟨listPolls_eq restricted same counts, fun pollId => ?_⟩⟩,
    fun live offline _ same anonymous => getAnalytics_eq live offline role same anonymous⟩
  · have details := seen.2
    exact (getPollDetails_eq_iff restricted same).mp (details p.id) p
      (poll_eq_some_iff.mpr ⟨mem, rfl, ofTenant⟩)
  · refine (getPollDetails_eq_iff restricted same).mpr fun p found => ?_
    obtain ⟨mem, -, ofTenant⟩ := poll_eq_some_iff.mp found
    exact counts p mem ofTenant

namespace Election

def poll : Poll where
  id := 1
  tenantId := 1
  title := "اردو"
  isAnonymous := true
  startDate := 0
  endDate := 10
  createdById := 1
  createdAt := 0
  updatedAt := 0

def option : PollOption where
  id := 1
  pollId := 1
  text := "موزه"

def vote (userId : Id) (name : String) : PollVote where
  id := 1
  tenantId := 1
  pollId := 1
  userId
  answers := some [("0", .str "موزه")]
  respondentName := some name
  createdAt := 5

def noVotes : Db where
  polls := ⟨[poll], by decide, by simp⟩
  options := ⟨[option], by decide, by simp⟩

/-- After one vote. -/
def voted (userId : Id) (name : String) : Db where
  polls := ⟨[poll], by decide, by simp⟩
  options := ⟨[{ option with voteCount := 1 }], by decide, by simp⟩
  votes := ⟨[vote userId name], by simp, by simp⟩

end Election

theorem results_hidden_iff_voters :
    (listPolls 1 (some .student) (Election.voted 2 "نیما") =
        listPolls 1 (some .student) (Election.voted 3 "مانی") ∧
      getPollDetails 1 1 (some 4) (some .student) (Election.voted 2 "نیما") =
        getPollDetails 1 1 (some 4) (some .student) (Election.voted 3 "مانی")) ∧
    getAnalytics (fun _ => []) (.error cannotConvert) 1 1 (some .teacher)
        (Election.voted 2 "نیما") =
      getAnalytics (fun _ => []) (.error cannotConvert) 1 1 (some .teacher)
        (Election.voted 3 "مانی") := by
  have seen := ((results_hidden_iff 4 1 (some .student) (Election.voted 2 "نیما")
    (Election.voted 3 "مانی")).1 rfl ⟨rfl, rfl, rfl, by decide⟩).mpr fun p _ _ => rfl
  refine ⟨⟨seen.1, seen.2 1⟩, ?_⟩
  refine (results_hidden_iff 4 1 (some .teacher) _ _).2 _ _ 1 ⟨rfl, rfl, rfl, rfl⟩ fun p found => ?_
  obtain rfl : p = Election.poll := List.mem_singleton.mp (poll_eq_some_iff.mp found).1
  rfl

/-- A student sees in the list that somebody has voted. -/
theorem not_results_hidden : ¬ ∀ (u tenantId : Id) (role : Option UserRole) (db db' : Db),
    canViewPollResults role = false → SameButOthers u db db' →
    listPolls tenantId role db = listPolls tenantId role db' ∧
      ∀ pollId, getPollDetails tenantId pollId (some u) role db =
        getPollDetails tenantId pollId (some u) role db' := by
  intro hidden
  have same := (hidden 4 1 (some .student) Election.noVotes (Election.voted 2 "نیما") rfl
    ⟨rfl, rfl, rfl, by decide⟩).1
  exact absurd same (by decide +kernel)

end Rokad.Polls.Results
