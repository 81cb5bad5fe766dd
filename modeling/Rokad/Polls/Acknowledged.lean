import Rokad.Polls.Service

/-!
# Acknowledged answers

A call that reports success should have stored a vote, and only one call of a user on a poll should
succeed. The unique key sees to it that a second vote is refused; but a refused transaction, like
any other failure of the database, is answered from memory with success (`not_acknowledged`).

Where every access to the database goes through, each success is a vote of its own that the results
count, and a user has one success on a poll at most (`acknowledged_of_served`).
-/

namespace Rokad.Polls

open Rokad.Base Rokad.Common

/-! ### The law -/

section

variable {ι : Type} (live : String → List String) (calls : ι → Call)
  (p p' : Threads Store (PollCall Key) ι)

/-- Whoever reads the results, beginning at one state and ending at another, finds each answer that
was acknowledged before counted once. -/
structure Acknowledged : Prop where
  stored : ∀ i x id, (calls i).request = some x → p.own i = .ret (.ok id) →
    ∃ v ∈ p'.shared.votes.rows, id = .stored v.id ∧ x.pollId = .stored v.pollId ∧
      v.userId = x.userId ∧ v.tenantId = x.tenantId
  counted : ∀ i x id, (calls i).request = some x → p.own i = .ret (.ok id) →
    ∀ role, (∀ r ∈ role, canViewPollResults r = true) →
      Returns (getAnalytics live p.shared p'.shared x.tenantId x.pollId role true) fun results =>
        results.responses.count (.vote id) = 1 ∧ results.totalResponses = results.responses.length
  once : ∀ i j x y id id', (calls i).request = some x → (calls j).request = some y →
    p.own i = .ret (.ok id) → p.own j = .ret (.ok id') →
      x.pollId = y.pollId → x.userId = y.userId → i = j

end

/-- No access to the database fails at this move. -/
def Served {ι : Type} [DecidableEq ι] (p : Threads Store (PollCall Key) ι)
    (move : Move ι Unit Empty) : Prop :=
  Sql.refused write p move = none
deriving Decidable

/-! ### What is stored stays -/

/-- Polls and votes are added only. -/
structure Grows (store store' : Store) : Prop where
  polls : Table.Grows (· = ·) store.polls store'.polls
  votes : Table.Grows (· = ·) store.votes store'.votes

theorem grows_refl (store : Store) : Grows store store :=
  ⟨Table.Grows.refl (fun _ => rfl) _, Table.Grows.refl (fun _ => rfl) _⟩

theorem Grows.trans {a b c : Store} (first : Grows a b) (second : Grows b c) : Grows a c :=
  ⟨Table.Grows.trans (fun _ _ _ => Eq.trans) first.polls second.polls,
    Table.Grows.trans (fun _ _ _ => Eq.trans) first.votes second.votes⟩

section

variable {store store' : Store} {s : Statement} {id : Key}

theorem write_vote {data : NewVote} (votes : s.vote = some data)
    (done : write s store = .ok (store', id)) :
    store'.polls = store.polls ∧ id = .stored store.votes.fresh ∧ ∃ answers,
      store.votes.insert (data.row answers store.votes.fresh) = some store'.votes := by
  cases s with
  | answer data' answers reaches =>
    cases votes
    have spec := storeVote_spec done
    exact ⟨spec.1, spec.2.1, _, spec.2.2.1⟩
  | cast data' reaches =>
    cases votes
    have spec := storeVote_spec done
    exact ⟨spec.1, spec.2.1, _, spec.2.2.1⟩
  | _ => cases votes

theorem write_grows (done : write s store = .ok (store', id)) : Grows store store' := by
  cases votes : s.vote with
  | some data =>
    obtain ⟨polls, -, _, inserted⟩ := write_vote votes done
    exact ⟨polls ▸ Table.Grows.refl (fun _ => rfl) _, Table.Grows.insert (fun _ => rfl) inserted⟩
  | none =>
    cases s with
    | createPoll data reaches =>
      simp only [write, do_eq_ok, insertRow_eq_ok] at done
      obtain ⟨_, -, polls, inserted, options, -, ⟨⟩⟩ := done
      exact ⟨Table.Grows.insert (fun _ => rfl) inserted, Table.Grows.refl (fun _ => rfl) _⟩
    | lost => cases done
    | rememberPoll poll =>
      cases done
      exact ⟨(grows_refl store).polls, (grows_refl store).votes⟩
    | rememberVote vote =>
      cases done
      exact ⟨(grows_refl store).polls, (grows_refl store).votes⟩
    | answer data answers reaches => cases votes
    | cast data reaches => cases votes

end

theorem Store.poll_eq_some {store : Store} {tenantId : Id} {key : Key} {poll : Poll} :
    store.poll tenantId key = some poll ↔
      key = .stored poll.id ∧ store.polls.find? poll.id = some poll ∧ poll.tenantId = tenantId := by
  cases key with
  | stored id =>
    simp only [Store.poll, Option.filter_eq_some_iff, decide_eq_true_eq, Key.stored.injEq]
    constructor
    · rintro ⟨found, own⟩
      have same : poll.id = id := key_of_find? found
      exact ⟨same.symm, same ▸ found, own⟩
    · rintro ⟨rfl, found, own⟩
      exact ⟨found, own⟩
  | made time => simp [Store.poll]

theorem Store.poll_mono {store store' : Store} (grows : Grows store store') {tenantId : Id}
    {key : Key} {poll : Poll} (found : store.poll tenantId key = some poll) :
    store'.poll tenantId key = some poll := by
  obtain ⟨rfl, stored, own⟩ := Store.poll_eq_some.mp found
  obtain ⟨_, stored', rfl⟩ := grows.polls _ _ stored
  exact Store.poll_eq_some.mpr ⟨rfl, stored', own⟩

/-! ### Calls on their way -/

/-- The vote of the request is stored under this id. -/
def HasVote (x : Request) (store : Store) (id : Id) : Prop :=
  ∃ poll, store.poll x.tenantId x.pollId = some poll ∧ ∃ v, store.votes.find? id = some v ∧
    v.pollId = poll.id ∧ v.userId = x.userId ∧ v.tenantId = x.tenantId

/-- What a call that votes still has to do, as long as no access fails. -/
inductive Ahead (x : Request) : Store → PollCall Key → Prop
  | reading (store : Store) (next : Store → PollCall Key)
      (reads : ∀ store', Grows store store' → Ahead x store' (next store')) :
      Ahead x store (.step .read next)
  | lost (store : Store) (next : Result Key → PollCall Key) :
      Ahead x store (.step (.write .lost) next)
  | voting (store : Store) (s : Statement) (next : Result Key → PollCall Key)
      (data : NewVote) (poll : Poll) (votes : s.vote = some data)
      (found : store.poll x.tenantId x.pollId = some poll) (of : data.pollId = poll.id)
      (voter : data.userId = x.userId) (tenant : data.tenantId = x.tenantId)
      (answers : ∀ id, next (.ok id) = .ret (.ok id)) :
      Ahead x store (.step (.write s) next)
  | failed (store : Store) (e : Failure) : Ahead x store (.ret (.error e))

/-- How far such a call has come. -/
def Voting (x : Request) (store : Store) (prog : PollCall Key) : Prop :=
  Ahead x store prog ∨ ∃ id, prog = .ret (.ok (.stored id)) ∧ HasVote x store id

section

variable {x : Request} {store store' : Store} {prog : PollCall Key} {id : Id}

theorem HasVote.mono (stored : HasVote x store id) (grows : Grows store store') :
    HasVote x store' id := by
  obtain ⟨poll, found, v, there, of, voter, tenant⟩ := stored
  obtain ⟨_, there', rfl⟩ := grows.votes _ _ there
  exact ⟨poll, Store.poll_mono grows found, _, there', of, voter, tenant⟩

theorem Ahead.mono (ahead : Ahead x store prog) (grows : Grows store store') :
    Ahead x store' prog := by
  cases ahead with
  | reading _ next reads =>
    exact .reading store' next fun store'' further => reads store'' (grows.trans further)
  | lost _ next => exact .lost store' next
  | voting _ s next data poll votes found of voter tenant answers =>
    exact .voting store' s next data poll votes (Store.poll_mono grows found) of voter tenant
      answers
  | failed _ e => exact .failed store' e

theorem Voting.mono (voting : Voting x store prog) (grows : Grows store store') :
    Voting x store' prog :=
  voting.imp (·.mono grows) fun ⟨id, voted, stored⟩ => ⟨id, voted, stored.mono grows⟩

theorem requireOpen_passedOn {poll : Poll} {archived : String} {e : Failure}
    (refused : x.requireOpen poll archived = .error e) : isPassedOn e = true := by
  simp only [Request.requireOpen, require, bind, Except.bind] at refused
  split_ifs at refused <;> cases refused <;> rfl

/-- Both calls that vote: the checks, and then a transaction. -/
theorem ahead_rescue (selected : List String) (answers : Option Answers)
    (archived again : String) (s : Poll → Statement)
    (votes : ∀ poll, ∃ data, (s poll).vote = some data ∧ data.pollId = poll.id ∧
      data.userId = x.userId ∧ data.tenantId = x.tenantId) :
    Ahead x store (Prog.rescue (x.remember selected answers)
      (x.openPoll archived again >>= fun poll => Sql.perform (s poll))) := by
  have passed : ∀ store e, isPassedOn e = true →
      Ahead x store (x.remember selected answers e) := fun store e passedOn => by
    rw [Request.remember, if_pos passedOn]
    exact .failed store e
  simp only [Request.openPoll, Prog.bind_assoc]
  unfold fetch
  split
  swap
  · exact .lost store _
  simp only [Sql.snapshot, Prog.step_bind, Prog.ret_ok_bind, Prog.rescue_step]
  refine .reading store _ fun first _ => ?_
  cases found : first.poll x.tenantId x.pollId with
  | none => exact passed first _ rfl
  | some poll =>
    simp only [orFail, Prog.ret_ok_bind]
    cases open' : x.requireOpen poll archived with
    | error e => exact passed first e (requireOpen_passedOn open')
    | ok _ =>
      simp only [Prog.ret_ok_bind]
      split
      swap
      · exact .lost first _
      simp only [Prog.step_bind, Prog.ret_ok_bind, Prog.rescue_step]
      refine .reading first _ fun second further => ?_
      unfold require
      split
      · obtain ⟨data, transaction, of, voter, tenant⟩ := votes poll
        exact .voting second (s poll) _ data poll transaction (Store.poll_mono further found) of
          voter tenant fun _ => rfl
      · exact passed second _ rfl

theorem ahead_program {call : Call} (request : call.request = some x) :
    Ahead x store call.program := by
  cases call with
  | createPoll tenantId dto now reaches => cases request
  | submitAnswers y answers =>
    cases request
    exact ahead_rescue _ _ _ _ _ fun poll => ⟨_, rfl, rfl, rfl, rfl⟩
  | castVote y dto =>
    cases request
    exact ahead_rescue _ _ _ _ _ fun poll => ⟨_, rfl, rfl, rfl, rfl⟩

end

/-! ### Moves -/

section

variable {ι : Type} [DecidableEq ι] {calls : ι → Call} {p p' : Threads Store (PollCall Key) ι}

/-- Every call that votes has come so far, and no two have the same vote. -/
structure Right (calls : ι → Call) (p : Threads Store (PollCall Key) ι) : Prop where
  voting : ∀ i x, (calls i).request = some x → Voting x p.shared (p.own i)
  distinct : ∀ i j x y id, (calls i).request = some x → (calls j).request = some y →
    p.own i = .ret (.ok id) → p.own j = .ret (.ok id) → i = j

omit [DecidableEq ι] in
theorem Right.hasVote (right : Right calls p) {i : ι} {x : Request} {id : Key}
    (request : (calls i).request = some x) (voted : p.own i = .ret (.ok id)) :
    ∃ n, id = .stored n ∧ HasVote x p.shared n := by
  rcases right.voting i x request with ahead | ⟨n, ended, stored⟩
  · rw [voted] at ahead
    cases ahead
  · obtain rfl : id = .stored n := by
      rw [voted] at ended
      cases ended
      rfl
    exact ⟨n, rfl, stored⟩

/-- What a move makes of a call: it stays, or it has still something to do, or it has a new vote. -/
inductive Turn (x : Request) (store store' : Store) (prog : PollCall Key) : PollCall Key → Prop
  | stays : Turn x store store' prog prog
  | ahead (prog' : PollCall Key) (ahead : Ahead x store' prog') : Turn x store store' prog prog'
  | voted (id : Id) (new : store.votes.find? id = none) (stored : HasVote x store' id) :
      Turn x store store' prog (.ret (.ok (.stored id)))

/-- The others keep what they know, and an id that is new is none of theirs. -/
theorem Right.put (right : Right calls p) {i : ι} {store : Store} {prog : PollCall Key}
    (grows : Grows p.shared store)
    (turn : ∀ x, (calls i).request = some x → Turn x p.shared store (p.own i) prog) :
    Right calls (p.put i store prog) := by
  have differs : ∀ j x y id, j ≠ i → (calls i).request = some x → (calls j).request = some y →
      prog = .ret (.ok id) → p.own j = .ret (.ok id) → i = j := by
    intro j x y id other request request' voted voted'
    cases turn x request with
    | stays => exact right.distinct i j x y id request request' voted voted'
    | ahead _ ahead =>
      rw [voted] at ahead
      cases ahead
    | voted n new stored =>
      cases voted
      obtain ⟨m, same, _, -, v, there, -⟩ := right.hasVote request' voted'
      cases same
      rw [new] at there
      cases there
  refine ⟨fun j x request => ?_, fun j k x y id request request' voted voted' => ?_⟩
  · by_cases same : j = i
    · subst same
      rw [Threads.own_put_self, Threads.shared_put]
      cases turn x request with
      | stays => exact (right.voting j x request).mono grows
      | ahead _ ahead => exact Or.inl ahead
      | voted n new stored => exact Or.inr ⟨n, rfl, stored⟩
    · rw [Threads.own_put_of_ne same]
      exact (right.voting j x request).mono grows
  · by_cases left : j = i <;> by_cases same : k = i
    · exact left.trans same.symm
    · subst left
      rw [Threads.own_put_self] at voted
      rw [Threads.own_put_of_ne same] at voted'
      exact differs k x y id same request request' voted voted'
    · subst same
      rw [Threads.own_put_self] at voted'
      rw [Threads.own_put_of_ne left] at voted
      exact (differs j y x id left request' request voted' voted).symm
    · rw [Threads.own_put_of_ne left] at voted
      rw [Threads.own_put_of_ne same] at voted'
      exact right.distinct j k x y id request request' voted voted'

theorem Right.moveStep (move : Move ι Unit Empty) (served : Served p move)
    (right : Right calls p) : Right calls (Sql.moveStep write p move) := by
  rcases move with ⟨i, ⟨⟩⟩ | e
  swap
  · exact e.elim
  cases now : p.own i with
  | ret r =>
    rw [Sql.moveStep_ret now]
    exact right
  | step op next =>
    have voting : ∀ x, (calls i).request = some x → Ahead x p.shared (.step op next) := by
      intro x request
      rcases right.voting i x request with ahead | ⟨_, ended, -⟩
      · exact now ▸ ahead
      · rw [now] at ended
        cases ended
    cases op with
    | read =>
      rw [Sql.moveStep_read now]
      refine right.put (grows_refl _) fun x request => ?_
      cases voting x request with
      | reading _ _ reads => exact .ahead _ (reads _ (grows_refl _))
    | write s =>
      cases done : write s p.shared with
      | error e =>
        have refused : Sql.refused write p (.thread i ()) = some s := by
          simp only [Sql.refused, now, done]
        rw [Served, refused] at served
        cases served
      | ok made =>
        obtain ⟨store, id⟩ := made
        have grows := write_grows done
        rw [Sql.moveStep_ok now done]
        refine right.put grows fun x request => ?_
        cases voting x request with
        | lost => cases done
        | voting _ _ _ data poll votes found of voter tenant answers =>
          obtain ⟨-, rfl, given, inserted⟩ := write_vote votes done
          rw [answers]
          refine .voted _ (find?_fresh _) ⟨poll, Store.poll_mono grows found,
            data.row given p.shared.votes.fresh, ?_, of, voter, tenant⟩
          rw [Table.find?_insert inserted]
          exact if_pos rfl

omit [DecidableEq ι] in
theorem right_start (store : Store) (calls : ι → Call) : Right calls (start store calls) := by
  have ahead : ∀ i x, (calls i).request = some x → Ahead x store (calls i).program :=
    fun i x request => ahead_program request
  refine ⟨fun i x request => Or.inl (ahead i x request), ?_⟩
  intro i j x y id request request' voted voted'
  have still := ahead i x request
  rw [show (calls i).program = .ret (.ok id) from voted] at still
  cases still

/-! ### Results -/

/-- The votes on a poll, as the results list them. -/
theorem count_responses (rows : Table PollVote) (p : PollVote → Prop) [DecidablePred p]
    {v : PollVote} (mem : v ∈ rows.rows) (counts : p v) :
    ((rows.rows.filter p).map fun v => ResponseId.vote (.stored v.id)).count
      (.vote (.stored v.id)) = 1 := by
  have nodup : ((rows.rows.filter p).map (·.id)).Nodup :=
    rows.keys_nodup.sublist (List.filter_sublist.map _)
  have injective : Function.Injective fun id => ResponseId.vote (.stored id) := by
    intro a b same
    simpa using same
  refine List.count_eq_one_of_mem ?_ ?_
  · have images := nodup.map injective
    rwa [List.map_map] at images
  · exact List.mem_map.mpr ⟨v, List.mem_filter.mpr ⟨mem, decide_eq_true counts⟩, rfl⟩

theorem HasVote.counted (live : String → List String) {x : Request} {store later : Store} {id : Id}
    (stored : HasVote x store id) (stored' : HasVote x later id) {role : Option UserRole}
    (may : ∀ r ∈ role, canViewPollResults r = true) :
    Returns (getAnalytics live store later x.tenantId x.pollId role true) fun results =>
      results.responses.count (.vote (.stored id)) = 1 ∧
        results.totalResponses = results.responses.length := by
  obtain ⟨poll, found, -⟩ := stored
  obtain ⟨poll', found', v, there, of, -, tenant⟩ := stored'
  have same : poll'.id = poll.id := by
    have key := (Store.poll_eq_some.mp found).1
    rw [(Store.poll_eq_some.mp found').1] at key
    exact Key.stored.inj key
  have once := count_responses later.votes (fun v => v.pollId = poll.id ∧ v.tenantId = x.tenantId)
    (mem_of_find? there) ⟨of.trans same, tenant⟩
  have some : _ ≠ [] := List.ne_nil_of_mem (List.count_pos_iff.mp (by rw [once]; decide))
  have key : v.id = id := key_of_find? there
  rw [← key]
  unfold getAnalytics require
  rw [if_pos may, found]
  simp only [bind, Except.bind, if_true, orFail, orLive_of_ne_nil live _ some]
  exact ⟨once, rfl⟩

omit [DecidableEq ι] in
theorem Right.acknowledged (live : String → List String) (right : Right calls p)
    (right' : Right calls p') (stays : ∀ i r, p.own i = .ret r → p'.own i = .ret r) :
    Acknowledged live calls p p' where
  stored i x id request voted := by
    obtain ⟨n, rfl, poll, found, v, there, of, voter, tenant⟩ :=
      right'.hasVote request (stays i _ voted)
    have key : v.id = n := key_of_find? there
    exact ⟨v, mem_of_find? there, by rw [key], by
      rw [of]
      exact (Store.poll_eq_some.mp found).1, voter, tenant⟩
  counted i x id request voted role may := by
    obtain ⟨n, rfl, stored⟩ := right.hasVote request voted
    obtain ⟨m, same, stored'⟩ := right'.hasVote request (stays i _ voted)
    cases same
    exact stored.counted live stored' may
  once i j x y id id' request request' voted voted' samePoll sameUser := by
    obtain ⟨n, rfl, poll, found, v, there, of, voter, -⟩ := right.hasVote request voted
    obtain ⟨m, rfl, poll', found', v', there', of', voter', -⟩ := right.hasVote request' voted'
    have poll : v.pollId = v'.pollId := by
      have key := (Store.poll_eq_some.mp found).1
      rw [samePoll, (Store.poll_eq_some.mp found').1] at key
      rw [of, of', Key.stored.inj key]
    have user : v.userId = v'.userId := by rw [voter, voter', sameUser]
    -- two votes of one user on one poll are the same row
    have key : v.id = v'.id := by
      by_contra differ
      have apart := p.shared.votes.no_clash v (mem_of_find? there) v'
        (mem_of_find? there') differ
      simp [Record.clash, poll, user] at apart
    have same : n = m :=
      ((key_of_find? there).symm.trans key).trans (key_of_find? there')
    subst same
    exact right.distinct i j x y _ request request' voted voted'

end

section

variable {ι : Type} [DecidableEq ι] {store : Store} {calls : ι → Call}
  {moves later : List (Move ι Unit Empty)}

/-- **Every acknowledged answer is stored.** Where no access to the database fails, each success is
a vote that the results count once, and a user has one on a poll at most. -/
theorem acknowledged_of_served (live : String → List String)
    (served : Along (Sql.moveStep write) Served (start store calls) (moves ++ later)) :
    Acknowledged live calls (run (Sql.moveStep write) (start store calls) moves)
      (run (Sql.moveStep write) (start store calls) (moves ++ later)) := by
  have keeps := fun p move served right => @Right.moveStep ι _ calls p move served right
  obtain ⟨before, after⟩ := along_append.mp served
  have right := run_invariant keeps (right_start store calls) before
  refine right.acknowledged live ?_ fun i r ended => ?_
  · rw [run_append]
    exact run_invariant keeps right after
  · rw [run_append]
    exact Prog.run_returned _ ended later

end

namespace Hall

/-- A poll with two options. -/
def store : Store where
  polls := .of [{ id := 1, tenantId := 1, startDate := 0, endDate := 1000 }]
  options := .of [{ id := 1, pollId := 1, text := "yes" }, { id := 2, pollId := 1, text := "no" }]

def ask (userId : Id) : Request := { tenantId := 1, pollId := .stored 1, userId, now := 500 }

def vote (userId : Id) (selectedOptionIds : List String) : Call :=
  .castVote (ask userId) { selectedOptionIds }

def answer (userId : Id) : Call := .submitAnswers (ask userId) [("0", .text "yes")]

end Hall

open Hall in
/-- Two users vote in step, and one of them once more. -/
theorem acknowledged_hall : Acknowledged (fun _ => []) ![vote 7 ["1"], answer 8, vote 7 ["2"]]
      (run (Sql.moveStep write) (start store ![vote 7 ["1"], answer 8, vote 7 ["2"]])
        (moves [0, 1, 0, 1, 0]))
      (run (Sql.moveStep write) (start store ![vote 7 ["1"], answer 8, vote 7 ["2"]])
        (moves [0, 1, 0, 1, 0] ++ moves [1, 2, 2])) :=
  acknowledged_of_served _ (by decide +kernel)

open Hall in
/-- A vote for an option that does not exist is acknowledged and not stored; and two votes of one
user in step are both acknowledged, one of them in place of the unique key. -/
theorem not_acknowledged : (¬ Acknowledged (fun _ => []) ![vote 7 ["9"]]
      (run (Sql.moveStep write) (start store ![vote 7 ["9"]]) (moves [0, 0, 0, 0]))
      (run (Sql.moveStep write) (start store ![vote 7 ["9"]]) (moves [0, 0, 0, 0]))) ∧
    ¬ Acknowledged (fun _ => []) ![vote 7 ["1"], vote 7 ["1"]]
      (run (Sql.moveStep write) (start store ![vote 7 ["1"], vote 7 ["1"]])
        (moves [0, 1, 0, 1, 0, 1, 1]))
      (run (Sql.moveStep write) (start store ![vote 7 ["1"], vote 7 ["1"]])
        (moves [0, 1, 0, 1, 0, 1, 1])) := by
  refine ⟨fun law => ?_, fun law => ?_⟩
  · obtain ⟨v, mem, -⟩ := law.stored 0 (ask 7) (.made 500) rfl rfl
    exact absurd mem (List.not_mem_nil)
  · exact absurd (law.once 0 1 (ask 7) (ask 7) (.stored 1) (.made 500) rfl rfl rfl rfl rfl rfl)
      (by decide)

end Rokad.Polls
