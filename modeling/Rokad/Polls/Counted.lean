import Rokad.Base.Doubles
import Rokad.Polls.Results

/-!
# Counts of the answers

The results of a question should list each value that was given to it once, with the number of
times it was given. Three things are in the way: an option that stands twice among the options of
the question is listed twice; a value or an option with a name that every object inherits is not
counted; and the count of a value that is repeated within an answer can exceed the number of those
who answered. An empty list, too, passes for an answer (`counts_once_iff`).
-/

namespace Rokad.Polls.Results

open Rokad.Base Rokad.Common

/-! ### Values -/

/-- The values in the answer to a question, as texts. -/
def Response.given (v : Response) (index : ℕ) : List String :=
  (((v.answer index).map values).getD []).filterMap Json.asText

def given (votes : List Response) (index : ℕ) : List String := votes.flatMap (·.given index)

theorem given_cons (v : Response) (rest : List Response) (index : ℕ) :
    given (v :: rest) index = v.given index ++ given rest index := List.flatMap_cons

/-- Every value in the answer can be taken to a text. -/
def Response.Printed (v : Response) (index : ℕ) : Prop :=
  ∀ raw ∈ v.answer index, ∀ value ∈ values raw, value.asText.isSome

def answeredBy (votes : List Response) (index : ℕ) : ℕ :=
  votes.countP fun v => (v.answer index).isSome

/-- Those whose answer has a value. -/
def nonemptyBy (votes : List Response) (index : ℕ) : ℕ :=
  votes.countP fun v => (v.answer index).any fun raw => !(values raw).isEmpty

theorem mapM_asText {items : List Json} {keys : List String} :
    items.mapM Json.asText = some keys ↔
      (∀ value ∈ items, value.asText.isSome) ∧ items.filterMap Json.asText = keys := by
  induction items generalizing keys with
  | nil =>
    rw [List.mapM_nil]
    exact ⟨fun same => ⟨nofun, Option.some.inj same⟩, fun ⟨_, same⟩ => congrArg some same⟩
  | cons item rest ih =>
    cases text : item.asText with
    | none => simp [List.mapM_cons, text]
    | some key =>
      simp only [List.mapM_cons, text, Option.pure_def, Option.bind_eq_bind, Option.bind_some,
        Option.bind_eq_some_iff, ih, Option.some.injEq, List.forall_mem_cons,
        Option.isSome_some, true_and, List.filterMap_cons]
      exact ⟨fun ⟨_, ⟨all, same⟩, last⟩ => ⟨all, same ▸ last⟩,
        fun ⟨all, same⟩ => ⟨_, ⟨all, rfl⟩, same⟩⟩

/-! ### One question -/

section

variable {t t' : QuestionTally} {v : Response} {votes : List Response} {index : ℕ}

theorem add_returns : (∃ t', t.add index v = .ok t') ↔ v.Printed index := by
  unfold QuestionTally.add Response.Printed
  cases v.answer index with
  | none => simp
  | some raw =>
    have texts : (∃ keys, keysOf raw = .ok keys) ↔ ∀ value ∈ values raw, value.asText.isSome := by
      simp [keysOf, mapM_asText]
    simp only [bind_eq_ok, Option.mem_def, Option.some.injEq, forall_eq', ← texts]
    constructor
    · rintro ⟨_, keys, is, _⟩
      exact ⟨keys, is⟩
    · rintro ⟨keys, is⟩
      cases raw <;> exact ⟨_, keys, is, rfl⟩

theorem add_spec (done : t.add index v = .ok t') :
    t'.counts = (v.given index).foldl Counts.increment t.counts ∧
      t'.answered = t.answered + (v.answer index).isSome.toNat := by
  unfold QuestionTally.add at done
  unfold Response.given
  cases answer : v.answer index with
  | none =>
    rw [answer] at done
    cases done
    exact ⟨rfl, rfl⟩
  | some raw =>
    rw [answer] at done
    obtain ⟨keys, is, done⟩ := bind_eq_ok.mp done
    obtain ⟨-, rfl⟩ := mapM_asText.mp (orFail_eq_ok.mp is)
    cases raw <;> (cases done; exact ⟨rfl, rfl⟩)

theorem tally_returns (t : QuestionTally) :
    (∃ t', inTurn (QuestionTally.add index) t votes = .ok t') ↔ ∀ v ∈ votes, v.Printed index := by
  induction votes generalizing t with
  | nil => simp
  | cons v rest ih =>
    simp only [inTurn_cons, bind_eq_ok, List.forall_mem_cons]
    constructor
    · rintro ⟨t', next, one, those⟩
      exact ⟨add_returns.mp ⟨next, one⟩, (ih next).mp ⟨t', those⟩⟩
    · rintro ⟨first, those⟩
      obtain ⟨next, one⟩ := (add_returns (t := t)).mpr first
      obtain ⟨t', done⟩ := (ih next).mpr those
      exact ⟨t', next, one, done⟩

theorem tally_spec (done : inTurn (QuestionTally.add index) t votes = .ok t') :
    t'.counts = (given votes index).foldl Counts.increment t.counts ∧
      t'.answered = t.answered + answeredBy votes index := by
  induction votes generalizing t with
  | nil =>
    cases done
    exact ⟨rfl, rfl⟩
  | cons v rest ih =>
    obtain ⟨next, one, those⟩ := bind_eq_ok.mp done
    obtain ⟨counts, answered⟩ := add_spec one
    obtain ⟨allCounts, allAnswered⟩ := ih those
    constructor
    · rw [allCounts, counts, given_cons, List.foldl_append]
    · rw [allAnswered, answered, answeredBy, answeredBy, List.countP_cons]
      cases v.answer index <;> simp [add_comm, add_assoc]

end

/-! ### The list of options -/

/-- The line of the results for a text. -/
def line (keys : List String) (answered : ℕ) (text : String) : OptionResult :=
  { text, count := (Counts.tally keys).read text
    percentage := percentageOf ((Counts.tally keys).read text) answered }

/-- The texts that were counted besides the options. -/
def others (keys options : List String) : List String :=
  ((Counts.tally keys).entries.map (·.1)).filter (· ∉ options)

section

variable {keys options : List String} {text : String}

theorem mem_others :
    text ∈ others keys options ↔ (text ∈ keys ∧ text ≠ "__proto__") ∧ text ∉ options := by
  rw [others, List.mem_filter, Counts.mem_keys_tally, decide_eq_true_eq]

theorem nodup_others : (others keys options).Nodup :=
  (Counts.tally keys).keys_nodup.filter _

theorem options_perm (t : QuestionTally) (counts : t.counts = Counts.tally keys) :
    (t.options options).Perm ((options ++ others keys options).map (line keys t.answered)) := by
  have rest : (t.counts.ordered.filter fun e => e.1 ∉ options).map (fun e =>
        ({ text := e.1, count := e.2, percentage := percentageOf e.2 t.answered } : OptionResult))
      |>.Perm ((others keys options).map (line keys t.answered)) := by
    refine (((Counts.ordered_perm t.counts).filter _).map _).trans (.of_eq ?_)
    rw [others, List.filter_map, List.map_map, counts]
    refine List.map_congr_left fun e mem => ?_
    have same := Counts.read_of_mem (List.mem_of_mem_filter mem)
    simp [line, same]
  refine (List.perm_insertionSort _ _).trans ?_
  rw [List.map_append]
  refine List.Perm.append (.of_eq ?_) rest
  rw [counts]
  rfl

/-- Where every value given stands once on a list, the numbers of times that the texts of the list
were given sum to the number of values. -/
theorem sum_count {texts : List String} (once : ∀ key ∈ keys, texts.count key = 1) :
    (texts.map fun text => keys.count text).sum = keys.length := by
  induction keys with
  | nil => simp
  | cons key rest ih =>
    have one : (texts.map fun text => if key == text then 1 else 0).sum = texts.count key := by
      clear ih once
      induction texts with
      | nil => rfl
      | cons text texts ih =>
        rw [List.map_cons, List.sum_cons, ih, List.count_cons, add_comm, Bool.beq_comm]
    simp only [List.count_cons, List.sum_map_add, List.length_cons]
    rw [ih fun key mem => once key (List.mem_cons_of_mem _ mem), one, once key List.mem_cons_self]

end

/-! ### Percentages -/

/-- A percentage exceeds 100 once the count exceeds the number of answers by more than one in two
hundred: less is lost in rounding. -/
theorem percentage_le_iff {n total : ℕ} (some : 0 < total) (short : total < 2 ^ 32) :
    (Number.finite 100).lt (percentageOf (.number n) total) = false ↔ 200 * n ≤ 201 * total := by
  have positive : (0 : ℚ) < total := by exact_mod_cast some
  have is : percentageOf (.number n) total = ((toDouble (n / total)).mul (.finite 100)).round := by
    simp [percentageOf, some, Number.div, positive.ne']
  rw [is]
  constructor
  · intro atMost
    by_contra above
    have less : 201 * total + 1 ≤ 200 * n := by omega
    -- The least that a ratio above the bound can be.
    have ratio : (201 / 200 + 1 / (200 * 2 ^ 32) : ℚ) ≤ n / total := by
      have less : (201 * total + 1 : ℚ) ≤ 200 * n := by exact_mod_cast less
      have short : (total : ℚ) ≤ 2 ^ 32 := by exact_mod_cast short.le
      rw [le_div_iff₀ positive]
      linarith
    have more := ((Number.atMost_toDouble (by norm_num) ratio).mul (d := 100) (by norm_num)).round
    have least : ((toDouble (201 / 200 + 1 / (200 * 2 ^ 32))).mul (.finite 100)).round =
        .finite 101 := by decide +kernel
    rw [least] at more
    rcases more.cases with ⟨a, b, ⟨⟩, is, -, le⟩ | ⟨a, ⟨⟩, is, -⟩ | ⟨⟨⟩, -⟩
    · have larger : (100 : ℚ) < b := by linarith
      simp [is, Number.lt, larger] at atMost
    · simp [is, Number.lt] at atMost
  · intro le
    have ratio : (n / total : ℚ) ≤ 201 / 200 := by
      have le : (200 * n : ℚ) ≤ 201 * total := by exact_mod_cast le
      rw [div_le_iff₀ positive]
      linarith
    have below := ((Number.atMost_toDouble (by positivity) ratio).mul (d := 100)
      (by norm_num)).round
    have most : ((toDouble (201 / 200)).mul (.finite 100)).round = .finite 100 := by
      decide +kernel
    rw [most] at below
    exact below.not_lt

theorem percentage_zero (total : ℕ) : percentageOf (.number 0) total = .finite 0 := by
  unfold percentageOf
  split
  · rename_i some
    have positive : (total : ℚ) ≠ 0 := by exact_mod_cast some.ne'
    have zero : toDouble 0 = .finite 0 := by decide +kernel
    simp [Number.div, positive, zero, Number.mul, Number.round]
    norm_num
  · rfl

/-! ### The result -/

/-- What the results of a question should say of the values given to it. -/
structure CountsOnce (votes : List Response) (index : ℕ) (r : QuestionResult) : Prop where
  listed : ∀ value ∈ given votes index, (r.options.filter (·.text = value)).map (·.count) =
    [.number ((given votes index).count value)]
  total : ∃ counts : List ℕ, r.options.map (·.count) = counts.map .number ∧
    counts.sum = (given votes index).length
  answered : r.answered = nonemptyBy votes index
  atMost : ∀ o ∈ r.options, (Number.finite 100).lt o.percentage = false

/-- What they say so for. -/
structure CountableOnce (votes : List Response) (index : ℕ) (q : SurveyQuestion) : Prop where
  printed : ∀ v ∈ votes, v.Printed index
  plain : ∀ text, text ∈ given votes index ∨ text ∈ q.options → text ∉ inheritedNames
  apart : ∀ value ∈ given votes index, q.options.count value ≤ 1
  nonempty : ∀ v ∈ votes, v.answer index ≠ some (.arr [])
  few : ∀ value ∈ given votes index,
    200 * (given votes index).count value ≤ 201 * answeredBy votes index

section

variable {votes : List Response} {index : ℕ} {q : SurveyQuestion} {r : QuestionResult}

theorem perQuestion_returns :
    (∃ r, perQuestion votes index q = .ok r) ↔ ∀ v ∈ votes, v.Printed index := by
  rw [← tally_returns {}]
  unfold perQuestion
  simp only [do_eq_ok]
  constructor
  · rintro ⟨_, t, done, -⟩
    exact ⟨t, done⟩
  · rintro ⟨t, done⟩
    exact ⟨_, t, done, rfl⟩

theorem perQuestion_spec (done : perQuestion votes index q = .ok r) :
    r.index = index ∧ r.answered = answeredBy votes index ∧
      r.options.Perm ((q.options ++ others (given votes index) q.options).map
        (line (given votes index) (answeredBy votes index))) := by
  unfold perQuestion at done
  simp only [do_eq_ok] at done
  obtain ⟨t, tallied, rfl⟩ := done
  obtain ⟨counts, answered⟩ := tally_spec tallied
  have all : t.answered = answeredBy votes index := by
    rw [answered]
    exact Nat.zero_add _
  exact ⟨rfl, all, all ▸ options_perm t counts⟩

theorem answered_eq_iff : answeredBy votes index = nonemptyBy votes index ↔
    ∀ v ∈ votes, v.answer index ≠ some (.arr []) := by
  have split : answeredBy votes index =
      nonemptyBy votes index + votes.countP fun v => v.answer index = some (.arr []) := by
    unfold answeredBy nonemptyBy
    induction votes with
    | nil => rfl
    | cons v rest ih =>
      rw [List.countP_cons, List.countP_cons, List.countP_cons, ih]
      cases answer : v.answer index with
      | none => simp
      | some raw =>
        cases raw with
        | arr items =>
          cases items <;> simp [values] <;> omega
        | _ => simp [values]; omega
  rw [split, Nat.add_eq_left, List.countP_eq_zero]
  simp

theorem answeredBy_pos {value : String} (mem : value ∈ given votes index) :
    0 < answeredBy votes index := by
  obtain ⟨v, vote, mem⟩ := List.mem_flatMap.mp mem
  refine List.countP_pos_iff.mpr ⟨v, vote, ?_⟩
  cases answer : v.answer index with
  | none => simp [Response.given, answer] at mem
  | some raw => rfl

/-- The texts listed for a question. -/
def texts (votes : List Response) (index : ℕ) (q : SurveyQuestion) : List String :=
  q.options ++ others (given votes index) q.options

theorem mem_texts {text : String} : text ∈ texts votes index q ↔
    text ∈ q.options ∨ text ∈ given votes index ∧ text ≠ "__proto__" := by
  rw [texts, List.mem_append, mem_others]
  by_cases option : text ∈ q.options <;> simp [option]

theorem mem_options_iff (done : perQuestion votes index q = .ok r) {o : OptionResult} :
    o ∈ r.options ↔ ∃ text ∈ texts votes index q,
      line (given votes index) (answeredBy votes index) text = o := by
  rw [(perQuestion_spec done).2.2.mem_iff, List.mem_map]
  rfl

/-- The counts listed for a text: one each time the text is listed. -/
theorem counts_of (done : perQuestion votes index q = .ok r) (value : String) :
    (r.options.filter (·.text = value)).map (·.count) =
      List.replicate ((texts votes index q).count value)
        ((Counts.tally (given votes index)).read value) := by
  have lines : ∀ (keys texts : List String) (n : ℕ),
      ((texts.map (line keys n)).filter (·.text = value)).map (·.count) =
        List.replicate (texts.count value) ((Counts.tally keys).read value) := by
    intro keys texts n
    induction texts with
    | nil => rfl
    | cons text rest ih =>
      by_cases same : text = value
      · subst same
        rw [List.count_cons_self, List.replicate_succ, ← ih]
        simp [line]
      · simp only [List.map_cons, List.filter_cons, line, same, decide_false, List.count_cons,
          beq_iff_eq, if_false, add_zero, Bool.false_eq_true]
        exact ih
  have listed := ((perQuestion_spec done).2.2.filter (·.text = value)).map (·.count)
  rw [lines] at listed
  exact List.perm_replicate.mp listed

/-- One of the two lists a value is on. -/
theorem count_texts {value : String} (mem : value ∈ given votes index)
    (plain : value ∉ inheritedNames) :
    (texts votes index q).count value = max 1 (q.options.count value) := by
  have notPrototype : value ≠ "__proto__" := by
    rintro rfl
    exact plain (by decide)
  rw [texts, List.count_append]
  by_cases option : value ∈ q.options
  · have absent : (others (given votes index) q.options).count value = 0 :=
      List.count_eq_zero.mpr fun other => (mem_others.mp other).2 option
    have positive := List.count_pos_iff.mpr option
    omega
  · have there := List.count_eq_one_of_mem nodup_others
      (mem_others.mpr ⟨⟨mem, notPrototype⟩, option⟩)
    rw [List.count_eq_zero.mpr option, there]
    rfl

theorem countable_of_counts (short : votes.length < 2 ^ 32)
    (done : perQuestion votes index q = .ok r) (counts : CountsOnce votes index r) :
    CountableOnce votes index q := by
  have ofTexts : ∀ text ∈ texts votes index q, text ∉ inheritedNames := by
    intro text mem
    obtain ⟨ns, are, -⟩ := counts.total
    have count := List.mem_map_of_mem (f := (·.count))
      ((mem_options_iff done).mpr ⟨text, mem, rfl⟩)
    rw [are] at count
    obtain ⟨n, -, is⟩ := List.mem_map.mp count
    exact Counts.read_tally_number.mp ⟨n, is.symm⟩
  have once : ∀ value ∈ given votes index, (texts votes index q).count value = 1 := by
    intro value mem
    have listed := congrArg List.length
      ((counts_of done value).symm.trans (counts.listed value mem))
    simpa using listed
  have plain : ∀ value ∈ given votes index, value ∉ inheritedNames := fun value mem =>
    ofTexts value (List.count_pos_iff.mp (by rw [once value mem]; exact Nat.one_pos))
  refine ⟨perQuestion_returns.mp ⟨r, done⟩, ?_, ?_, ?_, ?_⟩
  · rintro text (mem | mem)
    · exact plain text mem
    · exact ofTexts text (mem_texts.mpr (.inl mem))
  · intro value mem
    have one := once value mem
    rw [count_texts mem (plain value mem)] at one
    omega
  · rw [← answered_eq_iff, ← (perQuestion_spec done).2.1]
    exact counts.answered
  · intro value mem
    have listed : value ∈ texts votes index q :=
      List.count_pos_iff.mp (by rw [once value mem]; exact Nat.one_pos)
    have most := counts.atMost _ ((mem_options_iff done).mpr ⟨value, listed, rfl⟩)
    rw [line, Counts.read_tally (plain value mem)] at most
    exact (percentage_le_iff (answeredBy_pos mem)
      (List.countP_le_length.trans_lt short)).mp most

/-- The number that a count is. -/
def countOf : Count → ℕ
  | .number n => n
  | _ => 0

theorem counts_of_countable (short : votes.length < 2 ^ 32)
    (done : perQuestion votes index q = .ok r) (countable : CountableOnce votes index q) :
    CountsOnce votes index r := by
  have plain : ∀ text ∈ texts votes index q, text ∉ inheritedNames := by
    intro text mem
    rcases mem_texts.mp mem with option | ⟨value, -⟩
    · exact countable.plain text (.inr option)
    · exact countable.plain text (.inl value)
  have once : ∀ value ∈ given votes index, (texts votes index q).count value = 1 := by
    intro value mem
    rw [count_texts mem (countable.plain value (.inl mem))]
    exact max_eq_left (countable.apart value mem)
  have number : ∀ o ∈ r.options, ∃ text ∈ texts votes index q,
      o.count = .number ((given votes index).count text) ∧
        o.percentage = percentageOf o.count (answeredBy votes index) := by
    intro o mem
    obtain ⟨text, listed, rfl⟩ := (mem_options_iff done).mp mem
    exact ⟨text, listed, Counts.read_tally (plain text listed), rfl⟩
  refine ⟨?_, ⟨r.options.map fun o => countOf o.count, ?_, ?_⟩, ?_, ?_⟩
  · intro value mem
    rw [counts_of done, once value mem, Counts.read_tally (countable.plain value (.inl mem))]
    rfl
  · rw [List.map_map]
    refine List.map_congr_left fun o mem => ?_
    obtain ⟨text, -, is, -⟩ := number o mem
    simp [is, countOf]
  · have lines := (perQuestion_spec done).2.2.map fun o => countOf o.count
    rw [lines.sum_eq, List.map_map, ← sum_count once]
    refine congrArg List.sum (List.map_congr_left fun text mem => ?_)
    simp [line, Counts.read_tally (plain text mem), countOf]
  · rw [(perQuestion_spec done).2.1]
    exact answered_eq_iff.mpr countable.nonempty
  · intro o mem
    obtain ⟨text, -, is, percentage⟩ := number o mem
    rw [percentage, is]
    by_cases value : text ∈ given votes index
    · exact (percentage_le_iff (answeredBy_pos value)
        (List.countP_le_length.trans_lt short)).mpr (countable.few text value)
    · rw [List.count_eq_zero.mpr value, percentage_zero]
      rfl

end

/-- What the results say of every question. -/
def AllCountOnce (poll : Poll) (votes : List Response) (data : AnalyticsData) : Prop :=
  ∀ index q, poll.questions[index]? = some q →
    ∃ r, data.perQuestion[index]? = some r ∧ r.index = index ∧ CountsOnce votes index r

theorem format_counts_iff {poll : Poll} (options : List PollOption) {votes : List Response}
    (short : votes.length < 2 ^ 32) :
    (∃ data, formatAnalyticsData poll options votes = .ok data ∧ AllCountOnce poll votes data) ↔
      ∀ index q, poll.questions[index]? = some q → CountableOnce votes index q := by
  have questions (index : ℕ) (q : SurveyQuestion) (asked : poll.questions[index]? = some q) :
      poll.questions.zipIdx[index]? = some (q, index) := by
    simp [List.getElem?_zipIdx, asked]
  constructor
  · rintro ⟨data, done, counts⟩ index q asked
    simp only [formatAnalyticsData, do_eq_ok] at done
    obtain ⟨rs, each, rfl⟩ := done
    obtain ⟨r, found, -, once⟩ := counts index q asked
    obtain ⟨r', found', result⟩ := mapM_getElem? each (questions index q asked)
    obtain rfl : r = r' := Option.some.inj (found.symm.trans found')
    exact countable_of_counts short result once
  · intro countable
    have all : ∀ entry ∈ poll.questions.zipIdx, ∃ r, perQuestion votes entry.2 entry.1 = .ok r := by
      rintro ⟨q, index⟩ mem
      have asked : poll.questions[index]? = some q := List.mem_zipIdx_iff_getElem?.mp mem
      exact perQuestion_returns.mpr (countable index q asked).printed
    obtain ⟨rs, each⟩ := mapM_returns.mpr all
    refine ⟨_, bind_eq_ok.mpr ⟨rs, each, rfl⟩, fun index q asked => ?_⟩
    obtain ⟨r, found, result⟩ := mapM_getElem? each (questions index q asked)
    exact ⟨r, found, (perQuestion_spec result).1,
      counts_of_countable short result (countable index q asked)⟩

section

variable {live : Poll → List Response} {offline : Result AnalyticsData}
  {tenantId pollId : Id} {role : Option UserRole} {db : Db} {poll : Poll}

theorem getAnalytics_ok (allowed : role = none ∨ canViewPollResults role)
    (found : db.poll tenantId pollId = some poll) {data : AnalyticsData}
    (formatted : formatAnalyticsData poll (db.optionsOf poll.id)
      (counted live poll (db.responses tenantId pollId)) = .ok data) :
    getAnalytics live offline tenantId pollId role db = .ok data := by
  simp [getAnalytics, allowed, found, orFail, require, formatted, bind, Except.bind]

/-- **Every answer is counted once, exactly** where each question is countable: every value can be
taken to a text, no value and no option has an inherited name, no value stands twice among the
options, no answer is an empty list, and no value is repeated so often that it counts for more than
those who answered. No array is longer than `short` says. -/
theorem counts_once_iff (allowed : role = none ∨ canViewPollResults role)
    (found : db.poll tenantId pollId = some poll)
    (short : (counted live poll (db.responses tenantId pollId)).length < 2 ^ 32) :
    (∃ data, formatAnalyticsData poll (db.optionsOf poll.id)
          (counted live poll (db.responses tenantId pollId)) = .ok data ∧
        getAnalytics live offline tenantId pollId role db = .ok data ∧
        AllCountOnce poll (counted live poll (db.responses tenantId pollId)) data) ↔
      ∀ index q, poll.questions[index]? = some q →
        CountableOnce (counted live poll (db.responses tenantId pollId)) index q := by
  rw [← format_counts_iff (db.optionsOf poll.id) short]
  constructor
  · rintro ⟨data, formatted, -, counts⟩
    exact ⟨data, formatted, counts⟩
  · rintro ⟨data, formatted, counts⟩
    exact ⟨data, formatted, getAnalytics_ok allowed found formatted, counts⟩

end

namespace Colours

def question (options : List String) : SurveyQuestion := ⟨"choice", "کدام رنگ؟", options⟩

def poll (options : List String) : Poll where
  id := 1
  tenantId := 1
  title := "رنگ دیوار"
  questions := [question options]
  startDate := 0
  endDate := 10
  createdById := 1
  createdAt := 0
  updatedAt := 0

def vote (userId : Id) (text : String) : PollVote where
  id := userId
  tenantId := 1
  pollId := 1
  userId
  answers := some [("0", .str text)]
  createdAt := 5

def db (options : List String) : Db where
  polls := ⟨[poll options], by simp, by simp⟩
  votes := .of [vote 2 "آبی", vote 3 "سبز", vote 4 "آبی"]

def responses (options : List String) : List Response :=
  counted (fun _ => []) (poll options) ((db options).responses 1 1)

theorem given_responses (options : List String) : given (responses options) 0 = ["آبی", "سبز", "آبی"] := by
  have same : responses options = responses [] := rfl
  rw [same]
  decide +kernel

theorem countable : CountableOnce (responses ["آبی", "سبز"]) 0 (question ["آبی", "سبز"]) := by
  refine ⟨?_, ?_, by decide +kernel, by decide +kernel, by decide +kernel⟩
  · have all : ∀ v ∈ responses ["آبی", "سبز"], ∀ value ∈ ((v.answer 0).map values).getD [],
        value = .str "آبی" ∨ value = .str "سبز" := by
      decide +kernel
    intro v vote raw answer value mem
    have known := all v vote value
    rw [answer] at known
    rcases known mem with rfl | rfl <;> rfl
  · rintro text (mem | mem)
    · rw [given_responses] at mem
      exact (by decide : ∀ text ∈ ["آبی", "سبز", "آبی"], text ∉ inheritedNames) text mem
    · exact (by decide : ∀ text ∈ ["آبی", "سبز"], text ∉ inheritedNames) text mem

end Colours

theorem counts_once_iff_colours : ∃ data, formatAnalyticsData (Colours.poll ["آبی", "سبز"]) []
          (Colours.responses ["آبی", "سبز"]) = .ok data ∧
        getAnalytics (fun _ => []) (.error cannotConvert) 1 1 (some .teacher)
          (Colours.db ["آبی", "سبز"]) = .ok data ∧
        AllCountOnce (Colours.poll ["آبی", "سبز"]) (Colours.responses ["آبی", "سبز"]) data := by
  refine (counts_once_iff (.inr rfl) rfl (by decide +kernel)).mpr fun index q asked => ?_
  cases index with
  | succ index => simp [Colours.poll] at asked
  | zero =>
    obtain rfl : Colours.question ["آبی", "سبز"] = q := by simpa [Colours.poll] using asked
    exact Colours.countable

/-- An option that stands twice in its question is listed, and counted, twice. -/
theorem not_counts_once : ¬ ∀ (live : Poll → List Response)
    (offline : Result AnalyticsData) (tenantId pollId : Id) (role : Option UserRole)
    (db : Db) (poll : Poll) (data : AnalyticsData), db.poll tenantId pollId = some poll →
    getAnalytics live offline tenantId pollId role db = .ok data →
    AllCountOnce poll (counted live poll (db.responses tenantId pollId)) data := by
  intro all
  have formatted : ((formatAnalyticsData (Colours.poll ["آبی", "آبی"]) []
      (Colours.responses ["آبی", "آبی"])).toOption).isSome = true := by decide +kernel
  cases is : formatAnalyticsData (Colours.poll ["آبی", "آبی"]) []
      (Colours.responses ["آبی", "آبی"]) with
  | error e => simp [is, Except.toOption] at formatted
  | ok data =>
    have counts := all (fun _ => []) (.error cannotConvert) 1 1 none (Colours.db ["آبی", "آبی"])
      (Colours.poll ["آبی", "آبی"]) data rfl (getAnalytics_ok (.inl rfl) rfl is)
    have countable := (format_counts_iff _ (by decide +kernel)).mp ⟨data, is, counts⟩ 0 _ rfl
    exact absurd (countable.apart "آبی" (by decide +kernel)) (by decide +kernel)

end Rokad.Polls.Results
