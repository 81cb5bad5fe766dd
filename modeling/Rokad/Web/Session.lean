import Rokad.Auth.Requests

/-!
# The API client of one browser tab

`client.ts` and the tokens of `auth-store.ts`. A request that meets a 401 starts a refresh, or waits
in the queue while one is in progress. A refresh presents the stored token up to three times; what
stands between two of its `await`s is one step here.

Where a refresh request is on its way is not the tab's business: it knows the number of the one it
awaits.
-/

namespace Rokad.Web

open Rokad.Base
open Rokad.Auth (Jwt TokenPair)

structure AuthStore where
  accessToken : Option Jwt := none
  refreshToken : Option String := none

namespace AuthStore

def setTokens (store : AuthStore) (accessToken : Jwt) (refreshToken : Option String) : AuthStore :=
  { store with
    accessToken := some accessToken
    refreshToken := truthy refreshToken <|> store.refreshToken }

def logout (_ : AuthStore) : AuthStore := {}

end AuthStore

/-- A request through `apiClient`. -/
structure Request where
  id : ℕ
  /-- Its url is that of a login or of a refresh. -/
  isAuth : Bool := false
  authorization : Option Jwt := none
  /-- `_retry` -/
  retry : Bool := false
deriving DecidableEq

/-- How a request ends for the tab: with an answer, or without one (a network error, a timeout). -/
inductive Outcome where
  | ok (tokens : TokenPair)
  | failed (status : Option ℕ)

def isAuthFailure (status : Option ℕ) : Bool := status = some 401 ∨ status = some 403

def isTransientRefreshError (status : Option ℕ) : Bool :=
  match status with
  | none => true
  | some status => status = 0 ∨ 500 ≤ status

/-- A call of `performTokenRefresh` in progress. -/
structure Refresh where
  /-- The request that met the 401. -/
  originalRequest : Request
  refreshToken : String
  attempt : ℕ := 1
  /-- The refresh request it awaits, or none while it sleeps. -/
  awaits : Option ℕ
deriving DecidableEq

def attempts : ℕ := 3

structure Tab where
  store : AuthStore
  /-- The requests that have been sent and not answered. -/
  outgoing : List Request := []
  isRefreshing : Bool := false
  failedQueue : List Request := []
  refreshes : List Refresh := []
  /-- `forceLoginRedirect` has been called. -/
  redirected : Bool := false

namespace Tab

variable (tab : Tab)

def forceLoginRedirect : Tab := { tab with store := tab.store.logout, redirected := true }

/-- The request interceptor, and the request on its way. -/
def send (request : Request) : Tab :=
  { tab with
    outgoing := tab.outgoing ++
      [{ request with authorization := request.authorization <|> tab.store.accessToken }] }

/-- `processQueue(null, token)`: the queued requests go out again with the new token. -/
def resolveQueue (token : Jwt) : Tab :=
  { tab with
    outgoing := tab.outgoing ++
      tab.failedQueue.map fun request => { request with authorization := some token }
    failedQueue := [] }

/-- `processQueue(error)` -/
def rejectQueue : Tab := { tab with failedQueue := [] }

/-- The refresh is over: `isRefreshing = false`. -/
def finish (refresh : Refresh) : Tab :=
  { tab with isRefreshing := false, refreshes := tab.refreshes.erase refresh }

/-- `performTokenRefresh` returns a token. -/
def succeed (refresh : Refresh) (tokens : TokenPair) : Tab :=
  let tab := { tab with
    store := tab.store.setTokens tokens.accessToken (some tokens.refreshToken) }
  let tab := tab.resolveQueue tokens.accessToken
  let tab := tab.send
    { refresh.originalRequest with authorization := some tokens.accessToken, retry := true }
  tab.finish refresh

/-- `performTokenRefresh` throws. -/
def raise (refresh : Refresh) (status : Option ℕ) : Tab :=
  let tab := tab.rejectQueue
  let tab := if isAuthFailure status then tab.forceLoginRedirect else tab
  tab.finish refresh

/-- An attempt of the refresh is over. -/
def endAttempt (refresh : Refresh) : Outcome → Tab
  | .ok tokens => tab.succeed refresh tokens
  | .failed status =>
    if isAuthFailure status then tab.raise refresh status
    else if !isTransientRefreshError status || refresh.attempt = attempts then
      tab.raise refresh status
    else
      { tab with refreshes := tab.refreshes.replace refresh { refresh with awaits := none } }

/-- The call that awaits the refresh request. -/
def awaiting (number : ℕ) : Option Refresh := tab.refreshes.find? (·.awaits = some number)

/-- The response interceptor on an error; `number` is that of the next refresh request. With it, the
token a refresh request presents, if one is sent. -/
def onError (request : Request) (status : Option ℕ) (number : ℕ) : Tab × Option String :=
  if status = some 401 ∧ request.retry = false then
    if request.isAuth then (tab, none)
    else if tab.isRefreshing then ({ tab with failedQueue := tab.failedQueue ++ [request] }, none)
    else
      match truthy tab.store.refreshToken with
      | none => (tab.forceLoginRedirect.rejectQueue, none)
      | some refreshToken =>
        ({ tab with
            isRefreshing := true
            refreshes := tab.refreshes ++
              [{ originalRequest := request, refreshToken, awaits := some number }] },
          some refreshToken)
  else (tab, none)

/-- The answer to an outgoing request. -/
def answered (id : ℕ) (status : Option ℕ) (number : ℕ) : Tab × Option String :=
  match tab.outgoing.find? (·.id = id) with
  | none => (tab, none)
  | some request =>
    let tab := { tab with outgoing := tab.outgoing.erase request }
    tab.onError request status number

/-- A refresh that sleeps makes its next attempt. -/
def wake (number : ℕ) : Tab × Option String :=
  match tab.refreshes.find? (·.awaits = none) with
  | none => (tab, none)
  | some refresh =>
    ({ tab with
        refreshes := tab.refreshes.replace refresh
          { refresh with attempt := refresh.attempt + 1, awaits := some number } },
      some refresh.refreshToken)

end Tab

/-!
## One session over a lossy network

A tab and the server's `refreshToken`, with the refresh requests between them. A request or an answer
can stay under way for as long as the network likes, or be lost; the server works on a request one
operation at a time, and can answer 5xx at any point. The tab gives a request up when the network
fails or the fifteen seconds are over, wherever the request is.

Only the tab's requests reach the server: no logout, no revocation, no other holder of the tokens.
-/

open Rokad.Auth (AuthProg Client Failure Result TokenPair)

/-! ### The server -/

/-- The server would rotate the token, as long as it has not expired. -/
def Accepts (sha256 : String → String) (server : Auth.State) (refreshToken : String) : Prop :=
  match server.db.findToken (sha256 refreshToken) with
  | some record => record.token.isUsed = false ∧ record.family.isRevoked = false
  | none => False

instance (sha256 : String → String) (server : Auth.State) (refreshToken : String) :
    Decidable (Accepts sha256 server refreshToken) := by
  unfold Accepts
  split <;> infer_instance

/-! ### The parties and the network -/

/-- A token the server has drawn: eighty hexadecimal digits, of which only this matters here. -/
abbrev SecureRandomToken := {text : String // text ≠ ""}

/-- Where a refresh request is: before the server, in its hands, or answered. -/
inductive Phase where
  | sent (refreshToken : String)
  | serving (prog : AuthProg TokenPair)
  | replied (outcome : Outcome)

structure Protocol where
  server : Auth.State
  tab : Tab
  /-- The refresh requests under way, by number; a lost one is gone. -/
  underWay : ℕ → Option Phase := fun _ => none
  /-- The number of the next refresh request. -/
  next : ℕ := 0
  /-- The requests whose rotation has gone through. No step reads it. -/
  committed : List ℕ := []

inductive Event where
  /-- The page makes a request. -/
  | request (request : Request)
  /-- A request is answered, or fails without an answer. -/
  | answer (id : ℕ) (status : Option ℕ)
  | arrive (number : ℕ) (client : Client) (newRawRefreshToken : SecureRandomToken)
  /-- The server takes the next step for a refresh request. -/
  | serve (number : ℕ)
  /-- The server, or what stands before it, answers 5xx. -/
  | crash (number excess : ℕ)
  | lose (number : ℕ)
  | deliver (number : ℕ)
  | giveUp (number : ℕ)
  /-- A pause between two attempts is over. -/
  | wake

/-- The status of the answer, as the exception filter sends it. -/
def statusOf : Failure → ℕ
  | .unauthorized _ => 401
  | .notFound _ => 404
  | .badRequest _ => 400
  | .forbidden _ => 403
  | .conflict _ => 409
  | .tooManyRequests .. => 429
  | .database _ | .thrown _ => 500

def replyOf : Result TokenPair → Outcome
  | .ok tokens => .ok tokens
  | .error e => .failed (some (statusOf e))

namespace Protocol

variable (sha256 : String → String) (p : Protocol)

def put (number : ℕ) (phase : Option Phase) : Protocol :=
  { p with underWay := Function.update p.underWay number phase }

/-- The tab has moved; the token it presents goes out in a new refresh request. -/
def follow : Tab × Option String → Protocol
  | (tab, none) => { p with tab }
  | (tab, some refreshToken) =>
    { p.put p.next (some (.sent refreshToken)) with tab, next := p.next + 1 }

/-- One operation of a request in the server's hands. -/
def operate (number : ℕ) (prog : AuthProg TokenPair) : Protocol :=
  let (server, rest) := prog.advance Auth.exec p.server
  { p.put number (some (.serving rest)) with
    server
    committed :=
      match rest with
      | .ret (.ok _) => number :: p.committed
      | _ => p.committed }

def step : Event → Protocol
  | .request request => { p with tab := p.tab.send request }
  | .answer id status => p.follow (p.tab.answered id status p.next)
  | .arrive number client newRawRefreshToken =>
    match p.underWay number with
    | some (.sent refreshToken) => p.put number
        (some (.serving (Auth.refreshTokenCore sha256 refreshToken client newRawRefreshToken)))
    | _ => p
  | .serve number =>
    match p.underWay number with
    | some (.serving (.ret r)) => p.put number (some (.replied (replyOf r)))
    | some (.serving prog) => p.operate number prog
    | _ => p
  | .crash number excess =>
    match p.underWay number with
    | some (.replied _) | none => p
    | _ => p.put number (some (.replied (.failed (some (500 + excess)))))
  | .lose number =>
    match p.underWay number with
    | some (.serving _) => p
    | _ => p.put number none
  | .deliver number =>
    match p.underWay number with
    | some (.replied outcome) =>
      match p.tab.awaiting number with
      | some refresh => { p.put number none with tab := p.tab.endAttempt refresh outcome }
      | none => p.put number none
    | _ => p
  | .giveUp number =>
    match p.tab.awaiting number with
    | some refresh => { p with tab := p.tab.endAttempt refresh (.failed none) }
    | none => p
  | .wake => p.follow (p.tab.wake p.next)

/-! ### The session -/

/-- The refresh requests that the tab has sent and still awaits. -/
def outstanding : List ℕ := p.tab.refreshes.filterMap (·.awaits)

/-- The tab has logged in: the server accepts the token it stores. -/
structure LoggedIn : Prop where
  stored : ∃ refreshToken ∈ p.tab.store.refreshToken, refreshToken ≠ "" ∧
    Accepts sha256 p.server refreshToken
  resting : p.tab.isRefreshing = false ∧ p.tab.refreshes = [] ∧ p.tab.failedQueue = [] ∧
    p.tab.redirected = false
  unused : p.next = 0 ∧ p.committed = [] ∧ ∀ number, p.underWay number = none

/-- No token expires before it arrives. -/
def Timely : Event → Prop
  | .arrive number client _ =>
    match p.underWay number with
    | some (.sent refreshToken) =>
      ∀ record ∈ p.server.db.findToken (sha256 refreshToken), ¬ record.token.expiresAt < client.now
    | _ => True
  | _ => True

instance (e : Event) : Decidable (p.Timely sha256 e) := by
  cases e <;> unfold Timely <;> dsimp only <;> first | infer_instance | (split <;> infer_instance)

/-- The step answers a refresh request that the tab awaits. -/
def Answers : Event → Prop
  | .deliver number =>
    match p.underWay number with
    | some (.replied _) => number ∈ p.outstanding
    | _ => False
  | _ => False

instance (e : Event) : Decidable (p.Answers e) := by
  cases e <;> unfold Answers <;> dsimp only <;> first | infer_instance | (split <;> infer_instance)

/-- The session lives: no redirect, one refresh request at most, no request that waits for nothing. -/
structure Alive : Prop where
  not_redirected : p.tab.redirected = false
  single : p.outstanding.length ≤ 1
  queue : p.tab.refreshes = [] → p.tab.failedQueue = []

instance : Decidable p.Alive :=
  decidable_of_iff (p.tab.redirected = false ∧ p.outstanding.length ≤ 1 ∧
      (p.tab.refreshes = [] → p.tab.failedQueue = []))
    ⟨fun h => ⟨h.1, h.2.1, h.2.2⟩, fun h => ⟨h.1, h.2, h.3⟩⟩

/-- The step leaves the session alive, and after a refresh the server accepts the stored token. -/
def Kept (e : Event) : Prop :=
  (p.step sha256 e).Alive ∧ (p.Answers e →
    ∃ refreshToken ∈ (p.step sha256 e).tab.store.refreshToken,
      Accepts sha256 (p.step sha256 e).server refreshToken)
deriving Decidable

/-- No rotation goes through whose answer the tab does not take. It does not give up, for a failing
network or a 5xx, on a request whose rotation has gone through; for one it has given up on, the
server only reads. -/
def Fits : Event → Prop
  | .giveUp number => number ∈ p.outstanding → number ∉ p.committed
  | .deliver number =>
    match p.underWay number with
    | some (.replied (.failed _)) => number ∈ p.outstanding → number ∉ p.committed
    | _ => True
  | .serve number =>
    match p.underWay number with
    | some (.serving (.step (.findToken _) _)) => True
    | some (.serving (.step ..)) => number ∈ p.outstanding
    | _ => True
  | _ => True

instance (e : Event) : Decidable (p.Fits e) := by
  cases e <;> unfold Fits <;> dsimp only <;> first | infer_instance | (split <;> infer_instance)

end Protocol

end Rokad.Web
