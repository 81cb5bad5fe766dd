import Mathlib.Data.Fintype.Basic
import Rokad.Auth.Growth
import Rokad.Auth.Tokens

/-!
# Refreshes in progress

Any number of refreshes, logouts and revocations, interleaved operation by operation. A refresh
reads its token and later rotates it, and the rotation asks nothing: two refreshes that both read
before either rotates are both served. If no refresh reads a token whose rotation by another is
under way, each token is exchanged at most once and each family keeps at most one unused token.
-/

namespace Rokad.Auth

open Rokad.Base Rokad.Common

/-! ### Calls -/

inductive Call where
  | refresh (rawToken : String) (client : Client) (newRawRefreshToken : String)
  | logout (refreshToken : Option String) (userId : Option Id)
  | revokeSession (userId sessionId : Id)
  | revokeAllOtherSessions (userId : Id) (currentRefreshToken : Option String)

/-- A refresh returns a pair, any other call none. -/
def Call.prog (sha256 : String → String) : Call → AuthProg (Option TokenPair)
  | .refresh rawToken client newRawRefreshToken => do
      let tokens ← refreshTokenCore sha256 rawToken client newRawRefreshToken
      pure (some tokens)
  | .logout refreshToken userId => do
      let _ ← Auth.logout sha256 refreshToken userId
      pure none
  | .revokeSession userId sessionId => do
      let _ ← Auth.revokeSession userId sessionId
      pure none
  | .revokeAllOtherSessions userId currentRefreshToken => do
      let _ ← Auth.revokeAllOtherSessions sha256 userId currentRefreshToken
      pure none

/-- The hash of the token a refresh presents. -/
def Call.presents (sha256 : String → String) : Call → Option String
  | .refresh rawToken .. => some (sha256 rawToken)
  | _ => none

/-! ### Where a call stands -/

inductive Stage where
  | reading (tokenHash : String)
  | rotating (id familyId : Id)
  | exchanged
  | idle
deriving DecidableEq

def stage : AuthProg (Option TokenPair) → Stage
  | .step (.findToken tokenHash) _ => .reading tokenHash
  | .step (.rotate id familyId _ _ _ _) _ => .rotating id familyId
  | .ret (.ok (some _)) => .exchanged
  | _ => .idle

/-- Where a call stands after an operation was answered. -/
def Follows : (op : Op) → Res op → AuthProg (Option TokenPair) → Prop
  | .findToken _, found, rest => stage rest = .idle ∨
      ∃ record, found = some record ∧ record.family.isRevoked = false ∧
        record.token.isUsed = false ∧ stage rest = .rotating record.token.id record.family.id
  | .rotate .., .ok _, rest => stage rest = .exchanged
  | .createToken .., _, _ => False
  | _, _, rest => stage rest = .idle

def Behaves (p : AuthProg (Option TokenPair)) : Prop := p.Guarantees (fun _ _ => True) Follows

section

variable (sha256 : String → String)

theorem behaves_prog (call : Call) : Behaves (call.prog sha256) := by
  cases call with
  | refresh rawToken client newRawRefreshToken =>
    refine fun found _ => ?_
    cases found with
    | none => exact ⟨Or.inl rfl, trivial⟩
    | some record =>
      change Follows (.findToken (sha256 rawToken)) (some record)
        (exchange sha256 record client newRawRefreshToken >>= fun tokens => pure (some tokens)) ∧
        Behaves (exchange sha256 record client newRawRefreshToken >>= fun tokens =>
          pure (some tokens))
      rcases exchange_cases sha256 record client newRawRefreshToken with
        ⟨-, e, same⟩ | ⟨-, -, same⟩ | ⟨unrevoked, unused, -, same⟩
      · rw [same]
        exact ⟨Or.inl rfl, trivial⟩
      · rw [same]
        exact ⟨Or.inl rfl, fun done _ => by cases done <;> exact ⟨rfl, trivial⟩⟩
      · rw [same]
        exact ⟨Or.inr ⟨record, rfl, unrevoked, unused, rfl⟩,
          fun done _ => by cases done <;> exact ⟨rfl, trivial⟩⟩
  | logout refreshToken userId =>
    unfold Call.prog Auth.logout
    dsimp only
    cases truthy refreshToken with
    | some refreshToken =>
      refine fun found _ => ?_
      cases found with
      | none => exact ⟨rfl, trivial⟩
      | some token => exact ⟨rfl, fun done _ => by cases done <;> exact ⟨rfl, trivial⟩⟩
    | none =>
      cases userId with
      | none => trivial
      | some userId => exact fun _ _ => ⟨rfl, trivial⟩
  | revokeSession userId sessionId =>
    refine fun found _ => ?_
    cases found with
    | none => exact ⟨rfl, trivial⟩
    | some session => exact ⟨rfl, fun done _ => by cases done <;> exact ⟨rfl, trivial⟩⟩
  | revokeAllOtherSessions userId currentRefreshToken =>
    exact fun _ _ => ⟨rfl, fun _ _ => ⟨rfl, trivial⟩⟩

theorem stage_prog (call : Call) :
    stage (call.prog sha256) = (call.presents sha256).elim .idle .reading := by
  cases call with
  | refresh rawToken client newRawRefreshToken => rfl
  | logout refreshToken userId =>
    unfold Call.prog Auth.logout
    dsimp only
    cases truthy refreshToken with
    | some refreshToken => rfl
    | none => cases userId <;> rfl
  | revokeSession userId sessionId => rfl
  | revokeAllOtherSessions userId currentRefreshToken => rfl

end

/-! ### The system -/

abbrev System (ι : Type) := Threads State (AuthProg (Option TokenPair)) ι

section

variable {ι : Type} [DecidableEq ι]

def System.start (sha256 : String → String) (calls : ι → Call) (s : State) : System ι :=
  ⟨s, fun i => (calls i).prog sha256⟩

/-- The calls are all there is: no step of the world. -/
abbrev System.step : System ι → Move ι Unit Empty → System ι :=
  Prog.moveStep exec fun s _ => s

/-- The call has exchanged the token with this hash. -/
def System.Exchanged (sha256 : String → String) (calls : ι → Call) (p : System ι) (i : ι)
    (tokenHash : String) : Prop :=
  (calls i).presents sha256 = some tokenHash ∧
    ∃ tokens, (p.own i).returned = some (.ok (some tokens))

/-- A call that reads a token reads it while no other has the rotation of that token under way. -/
def System.Apart (p : System ι) : Move ι Unit Empty → Prop
  | .thread i _ =>
    match stage (p.own i) with
    | .reading tokenHash =>
      match p.shared.db.findHash tokenHash with
      | some token => ∀ j, j ≠ i → stage (p.own j) ≠ .rotating token.id token.familyId
      | none => True
    | _ => True
  | .world e => e.elim

instance [Fintype ι] (p : System ι) (move : Move ι Unit Empty) : Decidable (p.Apart move) :=
  match move with
  | .thread i _ => by
    unfold System.Apart
    dsimp only
    split
    · split <;> infer_instance
    · infer_instance
  | .world e => e.elim

end

/-- A family that is not revoked has at most one unused token. -/
def OneUnused (db : Db) : Prop :=
  ∀ f ∈ db.families.rows, f.isRevoked = false → ∀ a ∈ db.tokens.rows, ∀ b ∈ db.tokens.rows,
    a.familyId = f.id → b.familyId = f.id → a.isUsed = false → b.isUsed = false → a = b
deriving Decidable

/-! ### What an operation does to tokens -/

def TouchesTokens : Op → Prop
  | .rotate .. | .createToken .. => True
  | _ => False

theorem tokens_exec {op : Op} (other : ¬ TouchesTokens op) (s : State) :
    (exec op s).1.db.tokens = s.db.tokens := by
  have kept : ∀ (result : Result Db), (∀ db, result = .ok db → db.tokens = s.db.tokens) →
        (s.write result).1.db.tokens = s.db.tokens :=
    fun result => write_keeps (I := fun db => db.tokens = s.db.tokens) rfl
  cases op with
  | updateUser id data =>
    exact kept _ fun db done => by rw [(Db.updateUser_ok done).2]
  | createFamily userId tenantId =>
    exact kept _ fun db done => by rw [(Db.createFamily_ok done).2]
  | revokeFamily id reason =>
    exact kept _ fun db done => by rw [(Db.revokeFamily_ok done).2]
  | createSession row =>
    exact kept _ fun db done => by rw [(Db.createSession_ok done).2]
  | revokeSession id =>
    exact kept _ fun db done => by rw [(Db.revokeSession_ok done).2]
  | createToken familyId tokenHash expiresAt ip ua => exact absurd trivial other
  | rotate id familyId tokenHash expiresAt ip ua => exact absurd trivial other
  | _ => rfl

/-- A family that is not revoked now was not before. -/
theorem Grows.unrevoked {a b : Db} (grows : Grows a b) {f f' : RefreshTokenFamily} {id : Id}
    (before : a.families.find? id = some f) (after : b.families.find? id = some f')
    (unrevoked : f'.isRevoked = false) : f.isRevoked = false := by
  obtain ⟨g, found, -, stays⟩ := grows.families id f before
  cases found.symm.trans after
  cases revoked : f.isRevoked with
  | false => rfl
  | true => rw [stays revoked] at unrevoked; cases unrevoked

theorem OneUnused.of_tokens {a b : Db} (one : OneUnused a) (tokens : b.tokens = a.tokens)
    (grows : Grows a b) : OneUnused b := by
  intro f' mem' unrevoked x hx y hy xf yf xu yu
  rw [tokens] at hx hy
  obtain ⟨f, found⟩ := a.family_exists hx
  rw [xf] at found
  exact one f (mem_of_find? found) (grows.unrevoked found (find?_key _ mem') unrevoked)
    x hx y hy (xf.trans (key_of_find? found).symm) (yf.trans (key_of_find? found).symm)
    xu yu

/-! ### The invariant -/

section

variable {ι : Type} {sha256 : String → String} {calls : ι → Call}

/-- A call that is about to rotate holds an unused token, and no other call holds it; a call that
has exchanged a token leaves it used. -/
structure System.Inv (sha256 : String → String) (calls : ι → Call) (p : System ι) : Prop where
  behaves : ∀ i, Behaves (p.own i)
  reading : ∀ i h, stage (p.own i) = .reading h → (calls i).presents sha256 = some h
  rotating : ∀ i id f, stage (p.own i) = .rotating id f →
    ∃ k, p.shared.db.tokens.find? id = some k ∧ k.familyId = f ∧ k.isUsed = false ∧
      (calls i).presents sha256 = some k.tokenHash
  exchanged : ∀ i, stage (p.own i) = .exchanged → ∃ h k, (calls i).presents sha256 = some h ∧
    p.shared.db.findHash h = some k ∧ k.isUsed = true
  apart : ∀ i j id f, stage (p.own i) = .rotating id f → stage (p.own j) = .rotating id f → i = j
  once : ∀ i j h, stage (p.own i) = .exchanged → stage (p.own j) = .exchanged →
    (calls i).presents sha256 = some h → (calls j).presents sha256 = some h → i = j
  one : OneUnused p.shared.db

theorem System.Inv.start {s : State} (one : OneUnused s.db) :
    (System.start sha256 calls s).Inv sha256 calls := by
  have stages : ∀ i, stage ((System.start sha256 calls s).own i) =
      ((calls i).presents sha256).elim .idle .reading := fun i => stage_prog sha256 (calls i)
  refine ⟨fun i => behaves_prog sha256 (calls i), fun i h => ?_, fun i id f => ?_, fun i => ?_,
    fun i j id f => ?_, fun i j h => ?_, one⟩
  all_goals rw [stages]
  all_goals cases (calls i).presents sha256 <;> simp

variable [DecidableEq ι] {p : System ι}

/-- The other calls stand where they stood. -/
theorem stage_update (own : ι → AuthProg (Option TokenPair)) (i j : ι)
    (rest : AuthProg (Option TokenPair)) :
    stage (Function.update own i rest j) = if j = i then stage rest else stage (own j) := by
  rw [Function.update_apply]
  split <;> rfl

/-- An operation that leaves the tokens alone, after which the call is done with them or holds one
that no other call holds. -/
theorem System.Inv.hold (inv : p.Inv sha256 calls) {i : ι} {s' : State}
    {rest : AuthProg (Option TokenPair)} (tokens : s'.db.tokens = p.shared.db.tokens)
    (grows : Grows p.shared.db s'.db) (behaves : Behaves rest)
    (holds : stage rest = .idle ∨ ∃ k, stage rest = .rotating k.id k.familyId ∧
      p.shared.db.tokens.find? k.id = some k ∧ k.isUsed = false ∧
      (calls i).presents sha256 = some k.tokenHash ∧
      ∀ j, j ≠ i → stage (p.own j) ≠ .rotating k.id k.familyId) :
    System.Inv sha256 calls ⟨s', Function.update p.own i rest⟩ := by
  refine ⟨fun j => ?_, fun j h => ?_, fun j id f => ?_, fun j => ?_, fun j l id f => ?_,
    fun j l h => ?_, inv.one.of_tokens tokens grows⟩
  · dsimp only
    rw [Function.update_apply]
    split
    · exact behaves
    · exact inv.behaves j
  all_goals simp only [stage_update]
  · split
    · rcases holds with idle | ⟨k, holding, -⟩
      · simp [idle]
      · simp [holding]
    · exact inv.reading j h
  · rw [tokens]
    split
    · rename_i self
      subst self
      rcases holds with idle | ⟨k, holding, found, unused, presents, -⟩
      · simp [idle]
      · rw [holding]
        rintro ⟨rfl, rfl⟩
        exact ⟨k, found, rfl, unused, presents⟩
    · exact inv.rotating j id f
  · split
    · rcases holds with idle | ⟨k, holding, -⟩
      · simp [idle]
      · simp [holding]
    · intro done
      obtain ⟨h, k, presents, found, used⟩ := inv.exchanged j done
      obtain ⟨k', found', -, becomes⟩ := grows.token found
      exact ⟨h, k', presents, found', becomes.2.2 used⟩
  · -- Two calls hold the same token only if neither is the one that moved.
    split <;> split
    · rename_i first second
      exact fun _ _ => first.trans second.symm
    · rename_i first second
      rcases holds with idle | ⟨k, holding, -, -, -, free⟩
      · simp [idle]
      · rw [holding]
        rintro ⟨rfl, rfl⟩ other
        exact absurd other (free l second)
    · rename_i first second
      rcases holds with idle | ⟨k, holding, -, -, -, free⟩
      · simp [idle]
      · rw [holding]
        rintro other ⟨rfl, rfl⟩
        exact absurd other (free j first)
    · exact inv.apart j l id f
  · have notMoved : stage rest ≠ .exchanged := by
      rcases holds with idle | ⟨k, holding, -⟩
      · simp [idle]
      · simp [holding]
    split <;> split
    · exact fun done => absurd done notMoved
    · exact fun done => absurd done notMoved
    · exact fun _ done => absurd done notMoved
    · exact inv.once j l h

/-- The unused tokens after a rotation: the new one, and what was unused before but for the one
exchanged. -/
theorem unused_of_rotate {db db' : Db} {id familyId : Id} {tokenHash : String}
    {expiresAt : Instant} {ip ua : Option String}
    (done : db.rotate id familyId tokenHash expiresAt ip ua = .ok db') :
    ∃ new : RefreshToken, new.familyId = familyId ∧ ∀ x ∈ db'.tokens.rows, x.isUsed = false →
      x = new ∨ (x ∈ db.tokens.rows ∧ x.id ≠ id) := by
  obtain ⟨marked, new, updated, inserted, ofFamily, -⟩ := Db.rotate_ok done
  refine ⟨new, ofFamily, fun x mem unused => ?_⟩
  rcases (mem_insert inserted).mp mem with mem | rfl
  · rcases (mem_update updated).mp mem with ⟨old, differ⟩ | ⟨k, -, rfl⟩
    · exact Or.inr ⟨old, differ⟩
    · cases unused
  · exact Or.inl rfl

theorem OneUnused.rotate {db db' : Db} (one : OneUnused db) {k : RefreshToken}
    (found : db.tokens.find? k.id = some k) (unused : k.isUsed = false) {tokenHash : String}
    {expiresAt : Instant} {ip ua : Option String}
    (done : db.rotate k.id k.familyId tokenHash expiresAt ip ua = .ok db') : OneUnused db' := by
  obtain ⟨new, ofFamily, only⟩ := unused_of_rotate done
  obtain ⟨-, -, -, -, -, -, -, -, tables⟩ := Db.rotate_ok done
  have families : db'.families = db.families := by rw [tables]
  intro f mem unrevoked
  rw [families] at mem
  -- In the family of the token only the new one is unused.
  have alone : ∀ x ∈ db.tokens.rows, x.id ≠ k.id → x.isUsed = false → x.familyId = f.id →
      new.familyId ≠ f.id := by
    intro x old differ xu xf same
    have kf : k.familyId = f.id := ofFamily.symm.trans same
    have equal := one f mem unrevoked x old k (mem_of_find? found) xf kf xu unused
    exact differ (congrArg RefreshToken.id equal)
  intro x hx y hy xf yf xu yu
  rcases only x hx xu with rfl | ⟨xo, xi⟩ <;> rcases only y hy yu with rfl | ⟨yo, yi⟩
  · rfl
  · exact absurd xf (alone y yo yi yu yf)
  · exact absurd yf (alone x xo xi xu xf)
  · exact one f mem unrevoked x xo y yo xf yf xu yu

/-- A rotation of the token the call holds. -/
theorem System.Inv.rotate (inv : p.Inv sha256 calls) {i : ι} {id familyId : Id}
    {tokenHash : String} {expiresAt : Instant} {ip ua : Option String} {db' : Db}
    (holding : stage (p.own i) = .rotating id familyId)
    (done : p.shared.db.rotate id familyId tokenHash expiresAt ip ua = .ok db')
    {rest : AuthProg (Option TokenPair)} (behaves : Behaves rest)
    (exchanged : stage rest = .exchanged) (grows : Grows p.shared.db db') :
    System.Inv sha256 calls ⟨{ p.shared with db := db' }, Function.update p.own i rest⟩ := by
  obtain ⟨k, found, rfl, unused, presents⟩ := inv.rotating i id familyId holding
  obtain rfl : k.id = id := key_of_find? found
  obtain ⟨marked, new, updated, inserted, -⟩ := Db.rotate_ok done
  have usedNow : db'.findHash k.tokenHash = some (Db.use k) :=
    Tables.findHash_eq_some_iff.mpr ⟨mem_of_find? (Table.find?_insert_of_found inserted
      (find?_update_self updated found)), rfl⟩
  -- A call that has exchanged this token before would have left it used.
  have fresh : ∀ j h, stage (p.own j) = .exchanged → (calls j).presents sha256 = some h →
      h ≠ k.tokenHash := by
    rintro j h finished ofJ rfl
    obtain ⟨h', k', ofJ', found', used⟩ := inv.exchanged j finished
    obtain rfl : k.tokenHash = h' := Option.some.inj (ofJ.symm.trans ofJ')
    have same : p.shared.db.findHash k.tokenHash = some k :=
      Tables.findHash_eq_some_iff.mpr ⟨mem_of_find? found, rfl⟩
    cases found'.symm.trans same
    rw [used] at unused
    cases unused
  refine ⟨fun j => ?_, fun j h => ?_, fun j id f => ?_, fun j => ?_, fun j l id f => ?_,
    fun j l h => ?_, inv.one.rotate found unused done⟩
  · dsimp only
    rw [Function.update_apply]
    split
    · exact behaves
    · exact inv.behaves j
  all_goals simp only [stage_update]
  · split
    · simp [exchanged]
    · exact inv.reading j h
  · split
    · simp [exchanged]
    · rename_i other
      intro holds
      obtain ⟨k', found', ofFamily, unused', presents'⟩ := inv.rotating j id f holds
      have differ : id ≠ k.id := by
        rintro rfl
        cases found'.symm.trans found
        rw [← ofFamily] at holds
        exact other (inv.apart j i _ _ holds holding)
      exact ⟨k', Table.find?_insert_of_found inserted
        ((Table.find?_update_of_ne updated differ).trans found'), ofFamily, unused', presents'⟩
  · split
    · rename_i self
      subst self
      exact fun _ => ⟨k.tokenHash, Db.use k, presents, usedNow, rfl⟩
    · intro finished
      obtain ⟨h, k', presents', found', used⟩ := inv.exchanged j finished
      obtain ⟨k'', found'', -, becomes⟩ := grows.token found'
      exact ⟨h, k'', presents', found'', becomes.2.2 used⟩
  · split <;> split
    · rename_i first second
      exact fun _ _ => first.trans second.symm
    · simp [exchanged]
    · simp [exchanged]
    · exact inv.apart j l id f
  · split <;> split
    · rename_i first second
      exact fun _ _ _ _ => first.trans second.symm
    · rename_i first _
      subst first
      intro _ finished ofI ofL
      exact absurd (Option.some.inj (ofI.symm.trans presents)) (fresh l h finished ofL)
    · rename_i _ second
      subst second
      intro finished _ ofJ ofI
      exact absurd (Option.some.inj (ofI.symm.trans presents)) (fresh j h finished ofJ)
    · exact inv.once j l h

/-- One operation of one call. -/
theorem System.Inv.step (inv : p.Inv sha256 calls) (move : Move ι Unit Empty)
    (apart : p.Apart move) : (System.step p move).Inv sha256 calls := by
  rcases move with ⟨i, ⟨⟩⟩ | e
  swap
  · exact e.elim
  cases own : p.own i with
  | ret r =>
    have same : System.step p (.thread i ()) = p := by
      simp only [System.step, Threads.step, Prog.advance, own]
      rw [← own, Function.update_eq_self]
    rw [same]
    exact inv
  | step op next =>
    have moved : System.step p (.thread i ()) =
        ⟨(exec op p.shared).1, Function.update p.own i (next (exec op p.shared).2)⟩ := by
      simp [System.step, Threads.step, Prog.advance, own]
    rw [moved]
    have behaves := inv.behaves i
    rw [own] at behaves
    obtain ⟨follows, rest⟩ := behaves (exec op p.shared).2 trivial
    have grows := exec_grows op p.shared
    cases op with
    | findToken h =>
      refine inv.hold rfl grows rest (follows.imp_right ?_)
      rintro ⟨record, found, -, unused, holding⟩
      obtain ⟨ofHash, ofFamily, -⟩ := Tables.findToken_eq_some_iff.mp found
      obtain ⟨mem, hash⟩ := Tables.findHash_eq_some_iff.mp ofHash
      have familyId : record.family.id = record.token.familyId := key_of_find? ofFamily
      have reads : stage (p.own i) = .reading h := by rw [own]; rfl
      simp only [System.Apart, reads, ofHash] at apart
      exact ⟨record.token, holding.trans (by rw [familyId]), find?_key _ mem, unused,
        (inv.reading i h reads).trans (by rw [hash]), apart⟩
    | rotate id familyId tokenHash expiresAt ip ua =>
      have holding : stage (p.own i) = .rotating id familyId := by rw [own]; rfl
      cases done : p.shared.db.rotate id familyId tokenHash expiresAt ip ua with
      | error e =>
        have refused : exec (.rotate id familyId tokenHash expiresAt ip ua) p.shared =
            (p.shared, .error e) := by
          simp only [exec, done, State.write]
        rw [refused] at follows rest grows ⊢
        exact inv.hold rfl grows rest (Or.inl follows)
      | ok db' =>
        have went : exec (.rotate id familyId tokenHash expiresAt ip ua) p.shared =
            ({ p.shared with db := db' }, .ok ()) := by
          simp only [exec, done, State.write]
        rw [went] at follows rest grows ⊢
        exact inv.rotate holding done rest follows grows
    | createToken familyId tokenHash expiresAt ip ua => exact follows.elim
    | findUser | findTenant | findTenantBySlug | findActiveByPhone | findCandidates
    | findOtherCandidates | updateUser | findHash | createFamily | revokeFamily
    | revokeFamilies | createSession | findSession | revokeSession | revokeSessions
    | checkLoginAllowed | check2FAAllowed | record =>
      exact inv.hold (tokens_exec id p.shared) grows rest (Or.inl follows)

end

/-! ### Tokens are exchanged once -/

section

variable {ι : Type} [DecidableEq ι]

/-- **Single exchange.** In every interleaving in which no call reads a token whose rotation by
another is under way, no two calls exchange one token, and no family that is not revoked has two
unused tokens. -/
theorem exchanged_once (sha256 : String → String) (calls : ι → Call) (s : State)
    (one : OneUnused s.db) (moves : List (Move ι Unit Empty))
    (apart : Along System.step System.Apart (System.start sha256 calls s) moves) :
    (∀ i j tokenHash,
      (run System.step (System.start sha256 calls s) moves).Exchanged sha256 calls i tokenHash →
      (run System.step (System.start sha256 calls s) moves).Exchanged sha256 calls j tokenHash →
      i = j) ∧
    OneUnused (run System.step (System.start sha256 calls s) moves).shared.db := by
  have inv := run_invariant (I := System.Inv sha256 calls) (fun p move meets inv =>
    inv.step move meets) (System.Inv.start one) apart
  refine ⟨?_, inv.one⟩
  rintro i j h ⟨ofI, tokens, doneI⟩ ⟨ofJ, tokens', doneJ⟩
  have finished : ∀ {p : AuthProg (Option TokenPair)} {tokens : TokenPair},
      p.returned = some (.ok (some tokens)) → stage p = .exchanged := by
    intro p tokens done
    rw [Prog.returned_eq_some.mp done]
    rfl
  exact inv.once i j h (finished doneI) (finished doneJ) ofI ofJ

end

/-! ### A school's logins -/

namespace Desk

/-- SHA-256 on the tokens below. -/
def sha256 : String → String
  | "r0" => "dd191696e15e2ee293410d02454c5f9461a2249dee6d57c75f264eaeb83a3782"
  | "r1" => "82f3e9c695dc6b8d1b11818d5701919e286de8d47f7c3eb3100c485f79e57828"
  | "r2" => "db77fd01af957221a4989b64b3770a83a3c56068405b9f0e9408feae57fd17e4"
  | "r3" => "e49d63b2a8a78f048bafc4b4590029603a5a4165ee8bf98af15d62f24cd83479"
  | s => s

def tenant : Tenant := { id := 7, name := "هنرستان رکاد", slug := "rokad-boys" }

def user : User :=
  { id := 3, tenantId := 7, username := some "sara", passwordHash := "hash of pass-3",
    firstName := "سارا", lastName := "راد", role := .teacher }

def tenants : Table Tenant := ⟨[tenant], by decide +kernel, by decide +kernel⟩

/-- One user, who has not logged in. -/
def loggedOut : Db where
  tenants
  users := ⟨[user], by decide +kernel, by decide +kernel⟩
  foreignKeys := by constructor <;> decide +kernel

/-- She has logged in and holds the token `r0`. -/
def state : State :=
  ((issueTokens sha256 user { now := 1000 } "r0").run exec { db := loggedOut }).1

/-- A device that refreshes twice, and the logout of another. -/
def inTurn : Fin 3 → Call
  | 0 => .refresh "r0" { now := 2000 } "r1"
  | 1 => .refresh "r1" { now := 3000 } "r2"
  | 2 => .logout (some "r0") none

/-- One token, presented by two requests. -/
def atOnce : Fin 3 → Call
  | 0 => .refresh "r0" { now := 2000 } "r1"
  | 1 => .refresh "r0" { now := 2000 } "r2"
  | 2 => .logout none none

end Desk

theorem exchanged_once_inTurn :
    OneUnused (run System.step (System.start Desk.sha256 Desk.inTurn Desk.state)
      (moves [0, 2, 0, 1, 1, 2])).shared.db :=
  (exchanged_once Desk.sha256 Desk.inTurn Desk.state (by decide +kernel)
    (moves [0, 2, 0, 1, 1, 2]) (by decide +kernel)).2

/-- Both requests read the token before either rotates it, and both are served. -/
theorem not_exchanged_once :
    OneUnused Desk.state.db ∧
    (run System.step (System.start Desk.sha256 Desk.atOnce Desk.state)
      (moves [0, 1, 0, 1])).Exchanged Desk.sha256 Desk.atOnce 0 (Desk.sha256 "r0") ∧
    (run System.step (System.start Desk.sha256 Desk.atOnce Desk.state)
      (moves [0, 1, 0, 1])).Exchanged Desk.sha256 Desk.atOnce 1 (Desk.sha256 "r0") ∧
    ¬ OneUnused (run System.step (System.start Desk.sha256 Desk.atOnce Desk.state)
      (moves [0, 1, 0, 1])).shared.db :=
  ⟨by decide +kernel, ⟨rfl, _, rfl⟩, ⟨rfl, _, rfl⟩, by decide +kernel⟩

end Rokad.Auth
