import Rokad.Auth.Rotation
import Rokad.Web.Session

/-!
# A lost answer

The tab presents one token up to three times; the server takes a token that comes back for theft.
So the session is kept along every run in which no rotation goes through whose answer the tab does
not take (`kept_of_fits`), and one lost answer ends it (`not_kept`).

The invariant follows the one refresh request the tab awaits: until its rotation has gone through,
the server accepts the token the tab stores; from then on, the token the answer carries.
-/

namespace Rokad.Web

open Rokad.Base
open Rokad.Auth (AuthProg Client Failure Result TokenPair TokenRecord must successor)
open Rokad.Common (Instant)

/-! ### The server -/

section

variable {sha256 : String → String} {server : Auth.State} {refreshToken : String}

theorem accepts_iff : Accepts sha256 server refreshToken ↔
    ∃ record, server.db.findToken (sha256 refreshToken) = some record ∧
      record.token.isUsed = false ∧ record.family.isRevoked = false := by
  unfold Accepts
  cases server.db.findToken (sha256 refreshToken) with
  | none => simp
  | some record => simp

/-- After a rotation the server accepts the successor. -/
theorem accepts_rotate {record : TokenRecord} {db : Auth.Db} {newRawRefreshToken : String}
    {expiresAt : Instant} {ipAddress userAgent : Option String}
    (found : server.db.findToken (sha256 refreshToken) = some record)
    (live : record.family.isRevoked = false)
    (done : server.db.rotate record.token.id record.family.id (sha256 newRawRefreshToken) expiresAt
      ipAddress userAgent = .ok db) :
    Accepts sha256 { server with db } newRawRefreshToken := by
  obtain ⟨-, ofFamily, -⟩ := Auth.Tables.findToken_eq_some_iff.mp found
  obtain ⟨used, new, -, inserted, family, hash, unused, -, same⟩ := Auth.Db.rotate_ok done
  have stored : db.findHash (sha256 newRawRefreshToken) = some new :=
    Auth.Tables.findHash_eq_some_iff.mpr ⟨(mem_insert inserted).mpr (Or.inr rfl), hash⟩
  obtain ⟨next, read, rfl⟩ := db.findToken_isSome stored
  obtain ⟨-, ofNext, -⟩ := Auth.Tables.findToken_eq_some_iff.mp read
  have families : db.families = server.db.families := by rw [same]
  have own : record.token.familyId = record.family.id := (key_of_find? ofFamily).symm
  rw [families, family, ← own, ofFamily, Option.some.injEq] at ofNext
  exact accepts_iff.mpr ⟨next, read, unused, ofNext ▸ live⟩

variable (sha256 server refreshToken)

/-- The program of a refresh request that presents the token, up to its rotation. -/
inductive Working : AuthProg TokenPair → Prop
  | reading (client : Client) (new : SecureRandomToken)
      (timely : ∀ record ∈ server.db.findToken (sha256 refreshToken),
        ¬ record.token.expiresAt < client.now) :
      Working (Auth.refreshTokenCore sha256 refreshToken client new)
  | rotating (record : TokenRecord) (client : Client) (new : SecureRandomToken)
      (found : server.db.findToken (sha256 refreshToken) = some record) :
      Working (.step (.rotate record.token.id record.family.id (sha256 new)
        (client.now + Auth.REFRESH_EXPIRY) client.ipAddress client.userAgent) fun done =>
          must done >>= fun _ => .ret (.ok (successor record client new)))
  | failed (e : Failure) (status : isAuthFailure (some (statusOf e)) = false) :
      Working (.ret (.error e))

variable {sha256 server refreshToken} {prog : AuthProg TokenPair}

theorem Working.ret {r : Result TokenPair} (working : Working sha256 server refreshToken (.ret r)) :
    ∃ e, r = .error e ∧ isAuthFailure (some (statusOf e)) = false := by
  generalize same : Prog.ret r = prog at working
  cases working with
  | reading client new timely => cases same
  | rotating record client new found => cases same
  | failed e status =>
    cases same
    exact ⟨e, rfl, status⟩

/-- An operation for a token that is accepted leaves everything, or rotates it. -/
theorem Working.advance (working : Working sha256 server refreshToken prog)
    (accepts : Accepts sha256 server refreshToken) :
    ((prog.advance Auth.exec server).1 = server ∧
      Working sha256 server refreshToken (prog.advance Auth.exec server).2) ∨
    ∃ tokens, (prog.advance Auth.exec server).2 = .ret (.ok tokens) ∧
      tokens.refreshToken ≠ "" ∧
      Accepts sha256 (prog.advance Auth.exec server).1 tokens.refreshToken := by
  obtain ⟨record, found, unused, live⟩ := accepts_iff.mp accepts
  cases working with
  | reading client new timely =>
    refine Or.inl ⟨rfl, ?_⟩
    have next : ((Auth.refreshTokenCore sha256 refreshToken client new).advance
        Auth.exec server).2 = Auth.exchange sha256 record client new := by
      simp only [Auth.refreshTokenCore, Auth.query, Prog.call_bind, Prog.advance, Auth.exec, found]
      rfl
    rw [next]
    rcases Auth.exchange_cases sha256 record client new with
      ⟨revoked | ⟨-, expired⟩, -⟩ | ⟨-, used, -⟩ | ⟨-, -, -, same⟩
    · exact absurd (live.symm.trans revoked) Bool.false_ne_true
    · exact absurd expired (timely record found)
    · exact absurd (unused.symm.trans used) Bool.false_ne_true
    · rw [same]
      exact .rotating record client new found
  | rotating recorded client new found' =>
    cases found.symm.trans found'
    simp only [Prog.advance, Auth.exec]
    rcases Auth.write_cases server (server.db.rotate record.token.id record.family.id (sha256 new)
        (client.now + Auth.REFRESH_EXPIRY) client.ipAddress client.userAgent) with
      ⟨db, done, same⟩ | ⟨e, failed, same⟩
    · rw [same]
      exact Or.inr ⟨_, rfl, new.2, accepts_rotate found live done⟩
    · rw [same]
      obtain ⟨problem, rfl⟩ := Auth.Db.rotate_error failed
      exact Or.inl ⟨rfl, .failed _ (by simp [statusOf, isAuthFailure])⟩
  | failed e status => exact Or.inl ⟨rfl, .failed e status⟩

end

/-! ### The request that is awaited -/

section

variable (sha256 : String → String) (server : Auth.State) (refreshToken : String)

/-- A request that presents the token, before its rotation has gone through. -/
def Pending : Option Phase → Prop
  | none => True
  | some (.sent presented) => presented = refreshToken
  | some (.serving prog) => Working sha256 server refreshToken prog
  | some (.replied (.ok _)) => False
  | some (.replied (.failed status)) => isAuthFailure status = false

/-- A request whose rotation has gone through: its answer, if one comes, carries the tokens. -/
def Settled (tokens : TokenPair) : Option Phase → Prop
  | none | some (.replied (.failed _)) => True
  | some (.sent _) => False
  | some (.serving prog) => prog = .ret (.ok tokens)
  | some (.replied (.ok answered)) => answered = tokens

/-- The token is accepted until the rotation has gone through, its successor from then on. -/
inductive Attempt (committed : Prop) (phase : Option Phase) : Prop
  | pending (before : ¬ committed) (accepts : Accepts sha256 server refreshToken)
      (pending : Pending sha256 server refreshToken phase)
  | settled (after : committed) (tokens : TokenPair) (nonempty : tokens.refreshToken ≠ "")
      (accepts : Accepts sha256 server tokens.refreshToken) (settled : Settled tokens phase)

variable {sha256 server refreshToken} {committed : Prop} {phase : Option Phase}

theorem Attempt.lose (attempt : Attempt sha256 server refreshToken committed phase) :
    Attempt sha256 server refreshToken committed none := by
  cases attempt with
  | pending before accepts pending => exact .pending before accepts trivial
  | settled after tokens nonempty accepts settled =>
    exact .settled after tokens nonempty accepts trivial

theorem Attempt.crash (attempt : Attempt sha256 server refreshToken committed phase) (excess : ℕ) :
    Attempt sha256 server refreshToken committed
      (some (.replied (.failed (some (500 + excess))))) := by
  cases attempt with
  | pending before accepts pending =>
    refine .pending before accepts ?_
    simp only [Pending, isAuthFailure, Option.some.injEq, decide_eq_false_iff_not]
    omega
  | settled after tokens nonempty accepts settled =>
    exact .settled after tokens nonempty accepts trivial

theorem Attempt.arrive {presented : String}
    (attempt : Attempt sha256 server refreshToken committed (some (.sent presented)))
    (client : Client) (new : SecureRandomToken)
    (timely : ∀ record ∈ server.db.findToken (sha256 presented),
      ¬ record.token.expiresAt < client.now) :
    Attempt sha256 server refreshToken committed
      (some (.serving (Auth.refreshTokenCore sha256 presented client new))) := by
  cases attempt with
  | pending before accepts pending =>
    cases pending
    exact .pending before accepts (.reading client new timely)
  | settled after tokens nonempty accepts settled => exact settled.elim

theorem Attempt.reply {r : Result TokenPair}
    (attempt : Attempt sha256 server refreshToken committed (some (.serving (.ret r)))) :
    Attempt sha256 server refreshToken committed (some (.replied (replyOf r))) := by
  cases attempt with
  | pending before accepts pending =>
    obtain ⟨e, rfl, status⟩ := Working.ret pending
    exact .pending before accepts status
  | settled after tokens nonempty accepts settled =>
    cases settled
    exact .settled after tokens nonempty accepts rfl

end

/-! ### The tab -/

namespace Tab

variable {tab : Tab} {refresh : Refresh}

/-- No refresh is in progress, and no request waits for one. -/
structure Idle (tab : Tab) : Prop where
  flag : tab.isRefreshing = false
  refreshes : tab.refreshes = []
  queue : tab.failedQueue = []

/-- This refresh is in progress, and no other. -/
structure Refreshes (tab : Tab) (refresh : Refresh) : Prop where
  flag : tab.isRefreshing = true
  only : tab.refreshes = [refresh]

section

variable (refreshes : tab.Refreshes refresh)
include refreshes

theorem Refreshes.awaiting (number : ℕ) :
    tab.awaiting number = if refresh.awaits = some number then some refresh else none := by
  simp only [Tab.awaiting, refreshes.only, List.find?_singleton, decide_eq_true_eq]

/-- An answer with tokens ends the refresh; they are stored. -/
theorem Refreshes.endAttempt_ok {tokens : TokenPair}
    (nonempty : tokens.refreshToken ≠ "") :
    (tab.endAttempt refresh (.ok tokens)).Idle ∧
      (tab.endAttempt refresh (.ok tokens)).store.refreshToken = some tokens.refreshToken ∧
      (tab.endAttempt refresh (.ok tokens)).redirected = tab.redirected := by
  refine ⟨⟨rfl, ?_, rfl⟩, ?_, rfl⟩
  · change tab.refreshes.erase refresh = []
    simp [refreshes.only]
  · simp [endAttempt, succeed, finish, send, resolveQueue, AuthStore.setTokens, truthy, nonempty]

/-- A failure that is no refusal ends the refresh, or the refresh pauses. -/
theorem Refreshes.endAttempt_failed {status : Option ℕ}
    (admitted : isAuthFailure status = false) :
    (tab.endAttempt refresh (.failed status)).store = tab.store ∧
      (tab.endAttempt refresh (.failed status)).redirected = tab.redirected ∧
      ((tab.endAttempt refresh (.failed status)).Idle ∨
        (tab.endAttempt refresh (.failed status)).Refreshes { refresh with awaits := none }) := by
  have raised : (tab.raise refresh status).store = tab.store ∧
      (tab.raise refresh status).redirected = tab.redirected ∧ (tab.raise refresh status).Idle := by
    simp only [raise, admitted, Bool.false_eq_true, if_false]
    refine ⟨rfl, rfl, rfl, ?_, rfl⟩
    change tab.refreshes.erase refresh = []
    simp [refreshes.only]
  simp only [endAttempt, admitted, Bool.false_eq_true, if_false]
  split
  · exact ⟨raised.1, raised.2.1, Or.inl raised.2.2⟩
  · exact ⟨rfl, rfl, Or.inr ⟨refreshes.flag, by simp [refreshes.only]⟩⟩

end

end Tab

/-! ### The invariant -/

namespace Protocol

variable (sha256 : String → String) {p : Protocol} {refreshToken : String}

/-- The three ways a session rests on the token that the tab stores. -/
inductive Mode (p : Protocol) (refreshToken : String) : Prop
  | idle (idle : p.tab.Idle) (accepts : Accepts sha256 p.server refreshToken)
  | paused (refresh : Refresh) (refreshes : p.tab.Refreshes refresh)
      (presents : refresh.refreshToken = refreshToken) (awaits : refresh.awaits = none)
      (accepts : Accepts sha256 p.server refreshToken)
  | waiting (refresh : Refresh) (refreshes : p.tab.Refreshes refresh)
      (presents : refresh.refreshToken = refreshToken) (number : ℕ)
      (awaits : refresh.awaits = some number) (sent : number < p.next)
      (attempt : Attempt sha256 p.server refreshToken (number ∈ p.committed) (p.underWay number))

structure Session (p : Protocol) (refreshToken : String) : Prop where
  stored : p.tab.store.refreshToken = some refreshToken
  nonempty : refreshToken ≠ ""
  not_redirected : p.tab.redirected = false
  mode : Mode sha256 p refreshToken
  sent_of_underWay : ∀ number, p.underWay number ≠ none → number < p.next
  sent_of_committed : ∀ number ∈ p.committed, number < p.next

variable {sha256} {number : ℕ} {refresh : Refresh} {prog : AuthProg TokenPair}

theorem mem_outstanding_iff (refreshes : p.tab.Refreshes refresh) (number : ℕ) :
    number ∈ p.outstanding ↔ refresh.awaits = some number := by
  simp [outstanding, refreshes.only]

theorem exists_awaiting (own : number ∈ p.outstanding) :
    ∃ refresh, p.tab.awaiting number = some refresh := by
  obtain ⟨refresh, mem, awaits⟩ := List.mem_filterMap.mp own
  exact Option.isSome_iff_exists.mp (List.find?_isSome.mpr ⟨refresh, mem, by simp [awaits]⟩)

theorem operate_server : (p.operate number prog).server = (prog.advance Auth.exec p.server).1 := rfl

theorem operate_underWay : (p.operate number prog).underWay = Function.update p.underWay number
      (some (.serving (prog.advance Auth.exec p.server).2)) := rfl

theorem mem_committed_operate {other : ℕ} :
    other ∈ (p.operate number prog).committed ↔ other ∈ p.committed ∨
      other = number ∧ ∃ tokens, (prog.advance Auth.exec p.server).2 = .ret (.ok tokens) := by
  unfold operate
  dsimp only
  split
  · simp_all [or_comm]
  · simp_all

theorem LoggedIn.session (start : LoggedIn sha256 p) : ∃ refreshToken,
    Session sha256 p refreshToken := by
  obtain ⟨refreshToken, stored, nonempty, accepts⟩ := start.stored
  obtain ⟨flag, refreshes, queue, notRedirected⟩ := start.resting
  obtain ⟨-, committed, underWay⟩ := start.unused
  refine ⟨refreshToken, stored, nonempty, notRedirected, .idle ⟨flag, refreshes, queue⟩ accepts,
    fun number alive => absurd (underWay number) alive, ?_⟩
  simp [committed]

variable (session : Session sha256 p refreshToken)
include session

theorem Session.alive : p.Alive where
  not_redirected := session.not_redirected
  single := by
    cases session.mode with
    | idle idle accepts => simp [outstanding, idle.refreshes]
    | paused refresh refreshes presents awaits accepts =>
      simp [outstanding, refreshes.only, awaits]
    | waiting refresh refreshes presents number awaits sent attempt =>
      simp [outstanding, refreshes.only, awaits]
  queue none := by
    cases session.mode with
    | idle idle accepts => exact idle.queue
    | paused refresh refreshes presents awaits accepts =>
      rw [refreshes.only] at none
      cases none
    | waiting refresh refreshes presents number awaits sent attempt =>
      rw [refreshes.only] at none
      cases none

/-! ### The network and the server -/

/-- A request under way comes to another point, where it is as good if the tab awaits it. -/
theorem Session.put {phase : Option Phase} (underWay : phase ≠ none → p.underWay number ≠ none)
    (keeps : Attempt sha256 p.server refreshToken (number ∈ p.committed) (p.underWay number) →
      Attempt sha256 p.server refreshToken (number ∈ p.committed) phase) :
    Session sha256 (p.put number phase) refreshToken where
  stored := session.stored
  nonempty := session.nonempty
  not_redirected := session.not_redirected
  mode := by
    cases session.mode with
    | idle idle accepts => exact .idle idle accepts
    | paused refresh refreshes presents awaits accepts =>
      exact .paused refresh refreshes presents awaits accepts
    | waiting refresh refreshes presents awaited awaits sent attempt =>
      refine .waiting refresh refreshes presents awaited awaits sent ?_
      by_cases own : awaited = number
      · subst own
        simpa [Protocol.put] using keeps attempt
      · simpa [Protocol.put, own] using attempt
  sent_of_underWay other alive := by
    by_cases own : other = number
    · refine session.sent_of_underWay other (own ▸ underWay ?_)
      simpa [Protocol.put, own] using alive
    · exact session.sent_of_underWay other (by simpa [Protocol.put, own] using alive)
  sent_of_committed := session.sent_of_committed

/-- An operation for the awaited request keeps the session; so does, for another one, an operation
that leaves the server as it is. -/
theorem Session.operate {op : Auth.Op} {next : Auth.Res op → AuthProg TokenPair}
    (underWay : p.underWay number = some (.serving (.step op next)))
    (fits : number ∈ p.outstanding ∨ (Auth.exec op p.server).1 = p.server) :
    Session sha256 (p.operate number (.step op next)) refreshToken where
  stored := session.stored
  nonempty := session.nonempty
  not_redirected := session.not_redirected
  mode := by
    have same (apart : number ∉ p.outstanding) :
        (p.operate number (.step op next)).server = p.server := fits.resolve_left apart
    cases session.mode with
    | idle idle accepts =>
      refine .idle idle ?_
      rw [same (by simp [outstanding, idle.refreshes])]
      exact accepts
    | paused refresh refreshes presents awaits accepts =>
      refine .paused refresh refreshes presents awaits ?_
      rw [same (by simp [mem_outstanding_iff refreshes, awaits])]
      exact accepts
    | waiting refresh refreshes presents awaited awaits sent attempt =>
      refine .waiting refresh refreshes presents awaited awaits sent ?_
      by_cases own : awaited = number
      · subst own
        rw [underWay] at attempt
        rw [operate_server, operate_underWay, Function.update_self]
        cases attempt with
        | settled after tokens nonempty accepts settled => cases settled
        | pending before accepts pending =>
          rcases Working.advance pending accepts with
            ⟨unchanged, working⟩ | ⟨tokens, done, nonempty, accepted⟩
          · rw [unchanged]
            refine .pending ?_ accepts working
            rw [mem_committed_operate]
            rintro (after | ⟨-, tokens, done⟩)
            · exact before after
            · rw [done] at working
              obtain ⟨e, ⟨⟩, -⟩ := working.ret
          · exact .settled (mem_committed_operate.mpr (Or.inr ⟨rfl, tokens, done⟩)) tokens
              nonempty accepted done
      · have apart : number ∉ p.outstanding := by
          rw [mem_outstanding_iff refreshes, awaits, Option.some.injEq]
          exact own
        rw [same apart, operate_underWay, Function.update_of_ne own]
        simpa only [mem_committed_operate, own, false_and, or_false] using attempt
  sent_of_underWay other alive := by
    by_cases own : other = number
    · exact session.sent_of_underWay other (by simp [own, underWay])
    · rw [operate_underWay, Function.update_of_ne own] at alive
      exact session.sent_of_underWay other alive
  sent_of_committed other mem := by
    rcases mem_committed_operate.mp mem with before | ⟨rfl, -⟩
    · exact session.sent_of_committed other before
    · exact session.sent_of_underWay other (by simp [underWay])

/-! ### The tab and the network -/

/-- The tab moves, and still rests on a token it stores. -/
theorem Session.move {tab : Tab} {refreshToken' : String}
    (stored : tab.store.refreshToken = some refreshToken') (nonempty : refreshToken' ≠ "")
    (redirected : tab.redirected = p.tab.redirected)
    (mode : Mode sha256 { p with tab } refreshToken') :
    Session sha256 { p with tab } refreshToken' where
  stored
  nonempty
  not_redirected := redirected.trans session.not_redirected
  mode
  sent_of_underWay := session.sent_of_underWay
  sent_of_committed := session.sent_of_committed

/-- A new refresh request presents the stored token, which the server accepts. -/
theorem Session.sends {tab : Tab}
    (store : tab.store = p.tab.store) (redirected : tab.redirected = p.tab.redirected)
    (refreshes : tab.Refreshes refresh) (presents : refresh.refreshToken = refreshToken)
    (awaits : refresh.awaits = some p.next) (accepts : Accepts sha256 p.server refreshToken) :
    Session sha256 (p.follow (tab, some refreshToken)) refreshToken where
  stored := store ▸ session.stored
  nonempty := session.nonempty
  not_redirected := redirected.trans session.not_redirected
  mode := by
    refine .waiting refresh refreshes presents p.next awaits (Nat.lt_succ_self _) ?_
    refine .pending (fun after => ?_) accepts ?_
    · exact Nat.lt_irrefl _ (session.sent_of_committed p.next after)
    · simp [follow, Protocol.put, Pending]
  sent_of_underWay number alive := by
    by_cases own : number = p.next
    · exact own ▸ Nat.lt_succ_self _
    · refine Nat.lt_succ_of_lt (session.sent_of_underWay number ?_)
      simpa [follow, Protocol.put, own] using alive
  sent_of_committed number mem := Nat.lt_succ_of_lt (session.sent_of_committed number mem)

/-- What the tab does without touching its refresh keeps the session. -/
theorem Session.unmoved {tab : Tab}
    (store : tab.store = p.tab.store) (redirected : tab.redirected = p.tab.redirected)
    (flag : tab.isRefreshing = p.tab.isRefreshing) (refreshes : tab.refreshes = p.tab.refreshes)
    (queue : tab.failedQueue = p.tab.failedQueue ∨ p.tab.isRefreshing = true) :
    Session sha256 { p with tab } refreshToken := by
  refine session.move (store ▸ session.stored) session.nonempty redirected ?_
  cases session.mode with
  | idle idle accepts =>
    refine .idle ⟨flag.trans idle.flag, refreshes.trans idle.refreshes, ?_⟩ accepts
    rcases queue with same | refreshing
    · exact same.trans idle.queue
    · exact absurd (idle.flag.symm.trans refreshing) Bool.false_ne_true
  | paused refresh own presents awaits accepts =>
    exact .paused refresh ⟨flag.trans own.flag, refreshes.trans own.only⟩ presents awaits accepts
  | waiting refresh own presents number awaits sent attempt =>
    exact .waiting refresh ⟨flag.trans own.flag, refreshes.trans own.only⟩ presents number awaits
      sent attempt

/-- A 401 starts a refresh when none is in progress, and waits for it otherwise. -/
theorem Session.onError (request : Request) (status : Option ℕ) :
    Session sha256 (p.follow (p.tab.onError request status p.next)) refreshToken := by
  unfold Tab.onError
  split
  · split
    · exact session
    · split
      · rename_i refreshing
        exact session.unmoved rfl rfl rfl rfl (Or.inr refreshing)
      · rename_i notRefreshing
        have presented : truthy p.tab.store.refreshToken = some refreshToken := by
          simp [session.stored, truthy, session.nonempty]
        simp only [presented]
        cases session.mode with
        | idle idle accepts =>
          exact session.sends rfl rfl ⟨rfl, by simp only [idle.refreshes]; rfl⟩ rfl rfl accepts
        | paused refresh refreshes presents awaits accepts =>
          exact absurd refreshes.flag notRefreshing
        | waiting refresh refreshes presents number awaits sent attempt =>
          exact absurd refreshes.flag notRefreshing
  · exact session

theorem Session.answered (id : ℕ) (status : Option ℕ) :
    Session sha256 (p.follow (p.tab.answered id status p.next)) refreshToken := by
  unfold Tab.answered
  split
  · exact session
  · rename_i request sent
    have moved : Session sha256
        { p with tab := { p.tab with outgoing := p.tab.outgoing.erase request } } refreshToken :=
      session.unmoved rfl rfl rfl rfl (Or.inl rfl)
    exact moved.onError request status

/-- The next attempt presents the same token. -/
theorem Session.wake : Session sha256 (p.follow (p.tab.wake p.next)) refreshToken := by
  unfold Tab.wake
  cases session.mode with
  | idle idle accepts =>
    simp only [idle.refreshes, List.find?_nil]
    exact session
  | paused refresh refreshes presents awaits accepts =>
    simp only [refreshes.only, List.find?_singleton, awaits, decide_true, if_true, presents]
    have only : [refresh].replace refresh
        { refresh with attempt := refresh.attempt + 1, awaits := some p.next } =
          [{ refresh with attempt := refresh.attempt + 1, awaits := some p.next }] := by simp
    exact session.sends rfl rfl ⟨refreshes.flag, presents ▸ only⟩ rfl rfl accepts
  | waiting refresh refreshes presents number awaits sent attempt =>
    simp only [refreshes.only, List.find?_singleton, awaits, reduceCtorEq, decide_false,
      Bool.false_eq_true, if_false]
    exact session

/-- The refresh whose request is awaited. -/
theorem Session.awaited (awaiting : p.tab.awaiting number = some refresh) :
    p.tab.Refreshes refresh ∧ refresh.refreshToken = refreshToken ∧ number ∈ p.outstanding ∧
      Attempt sha256 p.server refreshToken (number ∈ p.committed) (p.underWay number) := by
  cases session.mode with
  | idle idle accepts => simp [Tab.awaiting, idle.refreshes] at awaiting
  | paused own refreshes presents awaits accepts =>
    simp [refreshes.awaiting, awaits] at awaiting
  | waiting own refreshes presents awaited awaits sent attempt =>
    simp only [refreshes.awaiting, awaits, Option.some.injEq, Option.ite_none_right_eq_some]
      at awaiting
    obtain ⟨rfl, rfl⟩ := awaiting
    exact ⟨refreshes, presents, (mem_outstanding_iff refreshes awaited).mpr awaits, attempt⟩

/-- An attempt fails while the server still accepts the token. -/
theorem Session.failed
    (refreshes : p.tab.Refreshes refresh) (presents : refresh.refreshToken = refreshToken)
    (accepts : Accepts sha256 p.server refreshToken) {status : Option ℕ}
    (admitted : isAuthFailure status = false) :
    Session sha256 { p with tab := p.tab.endAttempt refresh (.failed status) } refreshToken := by
  obtain ⟨store, redirected, idle | paused⟩ := refreshes.endAttempt_failed admitted
  · exact session.move (store ▸ session.stored) session.nonempty redirected (.idle idle accepts)
  · exact session.move (store ▸ session.stored) session.nonempty redirected
      (.paused _ paused presents rfl accepts)

/-- An attempt brings tokens that the server accepts. -/
theorem Session.refreshed
    (refreshes : p.tab.Refreshes refresh) {tokens : TokenPair} (nonempty : tokens.refreshToken ≠ "")
    (accepts : Accepts sha256 p.server tokens.refreshToken) :
    Session sha256 { p with tab := p.tab.endAttempt refresh (.ok tokens) } tokens.refreshToken := by
  obtain ⟨idle, stored, redirected⟩ := refreshes.endAttempt_ok nonempty
  exact session.move stored nonempty redirected (.idle idle accepts)

/-- An answer to the awaited request, unless it fails after the rotation, leaves the tab with a
token that the server accepts. -/
theorem Session.deliver {outcome : Outcome}
    (underWay : p.underWay number = some (.replied outcome)) {refresh : Refresh}
    (awaiting : p.tab.awaiting number = some refresh)
    (fits : ∀ status, outcome = .failed status → number ∉ p.committed) :
    ∃ refreshToken', Session sha256
      { p.put number none with tab := p.tab.endAttempt refresh outcome } refreshToken' ∧
        Accepts sha256 p.server refreshToken' := by
  obtain ⟨refreshes, presents, -, attempt⟩ := session.awaited awaiting
  have gone : Session sha256 (p.put number none) refreshToken :=
    session.put (absurd rfl) Attempt.lose
  rw [underWay] at attempt
  cases attempt with
  | pending before accepts pending =>
    cases outcome with
    | ok tokens => exact pending.elim
    | failed status => exact ⟨refreshToken, gone.failed refreshes presents accepts pending, accepts⟩
  | settled after tokens nonempty accepts settled =>
    cases outcome with
    | ok answered =>
      cases settled
      exact ⟨tokens.refreshToken, gone.refreshed refreshes nonempty accepts, accepts⟩
    | failed status => exact absurd after (fits status rfl)

theorem Session.giveUp
    (awaiting : p.tab.awaiting number = some refresh) (fits : number ∉ p.committed) :
    Session sha256 { p with tab := p.tab.endAttempt refresh (.failed none) } refreshToken := by
  obtain ⟨refreshes, presents, -, attempt⟩ := session.awaited awaiting
  cases attempt with
  | pending before accepts pending => exact session.failed refreshes presents accepts rfl
  | settled after tokens nonempty accepts settled => exact absurd after fits

/-! ### Steps and runs -/

/-- A step keeps the session, and the server accepts its token when the step answers a refresh. -/
theorem Session.step {e : Event} (timely : p.Timely sha256 e) (fits : p.Fits e) :
    ∃ refreshToken', Session sha256 (p.step sha256 e) refreshToken' ∧
      (p.Answers e → Accepts sha256 (p.step sha256 e).server refreshToken') := by
  cases e with
  | request request => exact ⟨refreshToken, session.unmoved rfl rfl rfl rfl (Or.inl rfl), False.elim⟩
  | answer id status => exact ⟨refreshToken, session.answered id status, False.elim⟩
  | wake => exact ⟨refreshToken, session.wake, False.elim⟩
  | arrive number client new =>
    refine ⟨refreshToken, ?_, False.elim⟩
    simp only [Protocol.step, Timely] at timely ⊢
    split
    · rename_i presented sent
      rw [sent] at timely
      refine session.put (fun _ => by simp [sent]) fun attempt => ?_
      rw [sent] at attempt
      exact attempt.arrive client new timely
    · exact session
  | serve number =>
    refine ⟨refreshToken, ?_, False.elim⟩
    simp only [Protocol.step, Fits] at fits ⊢
    split
    · rename_i r returned
      refine session.put (fun _ => by simp [returned]) fun attempt => ?_
      rw [returned] at attempt
      exact attempt.reply
    · rename_i prog running serving
      cases prog with
      | ret r => exact (running r rfl).elim
      | step op next =>
        rw [serving] at fits
        refine session.operate serving ?_
        cases op with
        | findToken tokenHash => exact Or.inr rfl
        | _ => exact Or.inl fits
    · exact session
  | crash number excess =>
    refine ⟨refreshToken, ?_, False.elim⟩
    simp only [Protocol.step]
    split
    · exact session
    · exact session
    · rename_i alive
      exact session.put (fun _ => alive) fun attempt => attempt.crash excess
  | lose number =>
    refine ⟨refreshToken, ?_, False.elim⟩
    simp only [Protocol.step]
    split
    · exact session
    · exact session.put (absurd rfl) Attempt.lose
  | deliver number =>
    simp only [Protocol.step, Fits, Answers] at fits ⊢
    split
    · rename_i outcome replied
      rw [replied] at fits
      split
      · rename_i refresh awaiting
        have own : number ∈ p.outstanding := (session.awaited awaiting).2.2.1
        obtain ⟨refreshToken', kept, accepts⟩ := session.deliver replied awaiting
          fun status failed => by
            subst failed
            exact fits own
        exact ⟨refreshToken', kept, fun _ => accepts⟩
      · rename_i notAwaited
        refine ⟨refreshToken, session.put (absurd rfl) Attempt.lose, fun own => ?_⟩
        obtain ⟨refresh, awaiting⟩ := exists_awaiting own
        rw [notAwaited] at awaiting
        cases awaiting
    · exact ⟨refreshToken, session, False.elim⟩
  | giveUp number =>
    refine ⟨refreshToken, ?_, False.elim⟩
    simp only [Protocol.step, Fits] at fits ⊢
    split
    · rename_i refresh awaiting
      exact session.giveUp awaiting (fits (session.awaited awaiting).2.2.1)
    · exact session

end Protocol

/-- **The session is kept.** From a login on, along every run in which no rotation goes through whose
answer the tab does not take, the tab is not sent to the login, awaits one refresh request at most,
leaves no request in the queue, and stores an accepted token after every answered refresh. -/
theorem kept_of_fits (sha256 : String → String) (p : Protocol) (start : p.LoggedIn sha256)
    (events : List Event) (timely : Along (Protocol.step sha256) (Protocol.Timely sha256) p events)
    (fits : Along (Protocol.step sha256) Protocol.Fits p events) :
    Along (Protocol.step sha256) (Protocol.Kept sha256) p events := by
  have keeps : ∀ p e, Protocol.Timely sha256 p e ∧ p.Fits e →
      (∃ refreshToken, Protocol.Session sha256 p refreshToken) → p.Kept sha256 e ∧
        ∃ refreshToken, Protocol.Session sha256 (p.step sha256 e) refreshToken := by
    rintro p e ⟨timely, fits⟩ ⟨refreshToken, session⟩
    obtain ⟨refreshToken', next, accepts⟩ := session.step timely fits
    exact ⟨⟨next.alive, fun answers => ⟨refreshToken', next.stored, accepts answers⟩⟩,
      refreshToken', next⟩
  exact along_of_step keeps start.session (timely.and fits)

namespace Page

/-- A tab that holds the token of the last login. -/
def start : Protocol where
  server := Auth.Desk.state
  tab := { store := { refreshToken := some "r0" } }

def arrive (number : ℕ) (new : SecureRandomToken) : Event := .arrive number { now := 2000 } new

/-- The first attempt is lost on its way and the second meets a 503; a request waits for the third.
-/
def retried : List Event :=
  [.request { id := 1 }, .request { id := 2 }, .answer 1 (some 401), .answer 2 (some 401),
    .lose 0, .giveUp 0, .wake, arrive 1 ⟨"r1", by decide⟩, .serve 1, .crash 1 3, .deliver 1, .wake,
    arrive 2 ⟨"r2", by decide⟩, .serve 2, .serve 2, .serve 2, .deliver 2]

/-- The token is rotated, and the answer is lost. -/
def lost : List Event :=
  [.request { id := 1 }, .answer 1 (some 401), arrive 0 ⟨"r1", by decide⟩, .serve 0, .serve 0,
    .serve 0, .lose 0, .giveUp 0, .wake, arrive 1 ⟨"r2", by decide⟩, .serve 1, .serve 1, .serve 1,
    .deliver 1]

theorem loggedIn : start.LoggedIn Auth.Desk.sha256 where
  stored := by decide +kernel
  resting := ⟨rfl, rfl, rfl, rfl⟩
  unused := ⟨rfl, rfl, fun _ => rfl⟩

end Page

theorem kept_of_fits_retried :
    Along (Protocol.step Auth.Desk.sha256) (Protocol.Kept Auth.Desk.sha256) Page.start
        Page.retried ∧
      (run (Protocol.step Auth.Desk.sha256) Page.start Page.retried).tab.store.refreshToken =
        some "r2" :=
  ⟨kept_of_fits Auth.Desk.sha256 Page.start Page.loggedIn Page.retried (by decide +kernel)
    (by decide +kernel), by decide +kernel⟩

/-- One answer is lost after the rotation: the second attempt ends the session. -/
theorem not_kept : Page.start.LoggedIn Auth.Desk.sha256 ∧
      Along (Protocol.step Auth.Desk.sha256) (Protocol.Timely Auth.Desk.sha256) Page.start
        Page.lost ∧
      (run (Protocol.step Auth.Desk.sha256) Page.start Page.lost).tab.redirected = true ∧
      ¬ Along (Protocol.step Auth.Desk.sha256) (Protocol.Kept Auth.Desk.sha256) Page.start
        Page.lost :=
  ⟨Page.loggedIn, by decide +kernel, by decide +kernel, by decide +kernel⟩

end Rokad.Web
