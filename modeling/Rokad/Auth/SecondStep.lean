import Rokad.Auth.Guesses
import Rokad.Auth.LoginLockout
import Rokad.Auth.SwitchSchool

/-!
# Skipping the second factor

An attacker calls the four ways to tokens with what it has been answered so far. It may know every
password; no code of a second factor that it sends fits. Two of the ways still give it a token of an
account with a second factor: a login whose password fits, since its temporary token is signed like
an access token and read like one, and a switch to a school where the account has one. Without
either, no token it gets is accepted as such an account and no family is opened for one
(`second_factor_kept`).
-/

namespace Rokad.Auth

open Rokad.Base Rokad.Common Rokad.Security

/-! ### The attacker -/

/-- What the services take from the packages and the host. -/
structure AuthHost extends LoginHost where
  upper : String → String
  decrypt : String → Option String
  verifySync : (token secret : String) → (now : ℕ) → Bool

def AuthHost.factors (x : AuthHost) : Factors :=
  ⟨x.sha256, x.upper, x.decrypt, x.verifySync⟩

inductive AuthCall where
  | login (call : LoginCall)
  | verifyTwoFactorLogin (dto : VerifyTwoFactorDto) (client : Client) (up : Bool)
      (rawRefreshToken : String)
  | switchSchool (bearer : Jwt) (targetTenantSlug : String) (client : Client)
      (rawRefreshToken : String)
  | refreshToken (rawToken : String) (client : Client) (newRawRefreshToken : String)

namespace LoginResult

def jwt : LoginResult → Jwt
  | requiresTwoFactor tempToken => tempToken
  | tokens pair => pair.accessToken

def refreshToken : LoginResult → Option String
  | requiresTwoFactor _ => none
  | tokens pair => some pair.refreshToken

end LoginResult

section

variable (x : AuthHost) (c : JwtStrategy.Connection)

/-- A call run to its end; a switch is for the user its token is accepted as. -/
def AuthCall.run (s : State) : AuthCall → State × Result LoginResult
  | login call => (Auth.login x.toLoginHost call).run exec s
  | verifyTwoFactorLogin dto client up rawRefreshToken =>
    (Auth.verifyTwoFactorLogin x.factors x.lower dto client up rawRefreshToken >>= fun pair =>
      pure (.tokens pair)).run exec s
  | switchSchool bearer targetTenantSlug client rawRefreshToken =>
    match JwtStrategy.authenticate c s.db.toTables bearer client.now with
    | .error e => (s, .error e)
    | .ok user =>
      (Auth.switchSchool x.sha256 user.id targetTenantSlug client rawRefreshToken >>=
        fun switched => pure (.tokens switched.tokens)).run exec s
  | refreshToken rawToken client newRawRefreshToken =>
    (refreshTokenCore x.sha256 rawToken client newRawRefreshToken >>= fun pair =>
      pure (.tokens pair)).run exec s

/-- The state of the service and what the attacker has been answered. -/
structure Attacker where
  state : State
  jwts : List Jwt := []
  refreshTokens : List String := []

namespace Attacker

/-- It keeps what it is answered. -/
def learn (a : Attacker) (state : State) : Result LoginResult → Attacker
  | .ok result =>
    { state
      jwts := result.jwt :: a.jwts
      refreshTokens := result.refreshToken.toList ++ a.refreshTokens }
  | .error _ => { a with state }

@[simp] theorem learn_state (a : Attacker) (state : State)
    (answer : Result LoginResult) : (a.learn state answer).state = state := by
  cases answer <;> rfl

def step (a : Attacker) (call : AuthCall) : Attacker :=
  a.learn (call.run x c a.state).1 (call.run x c a.state).2

end Attacker

/-- The account has a second factor. -/
def Guarded (t : Tables) (id : Id) : Prop := ∃ u, t.users.find? id = some u ∧ u.twoFactorEnabled = true

/-- It presents no token it was not given, and no code that fits. -/
def Attacker.Can (a : Attacker) : AuthCall → Prop
  | .login _ => True
  | .verifyTwoFactorLogin dto client _ _ => (∀ jwt ∈ dto.tempToken, jwt ∈ a.jwts) ∧
      ∀ u, Guarded a.state.db.toTables u →
        ((verify2FAToken x.factors u dto.code client.now).run exec a.state).2 ≠ .ok true
  | .switchSchool bearer _ _ _ => bearer ∈ a.jwts
  | .refreshToken rawToken _ _ =>
    rawToken ∈ a.refreshTokens ∨ a.state.db.findHash (x.sha256 rawToken) = none

/-- No token of the attacker is accepted as an account with a second factor, and of the families
that are not in `opened` none is of such an account. -/
structure Kept (opened : List Id) (a : Attacker) : Prop where
  jwts : ∀ jwt ∈ a.jwts, ∀ r, JwtStrategy.validate c a.state.db.toTables jwt.payload = .ok r →
    ¬ Guarded a.state.db.toTables r.id
  families : ∀ f ∈ a.state.db.families.rows, f.id ∈ opened ∨ ¬ Guarded a.state.db.toTables f.userId

/-- The call does not come to an account with a second factor: a login that is let through opens
none of good standing, and a switch that is authenticated leads to none. -/
def Passes (a : Attacker) : AuthCall → Prop
  | .login call => call.check x.toLoginHost a.state = .ok () →
      ∀ u, call.opens x.toLoginHost a.state = some u → Standing a.state.db.toTables u →
        u.twoFactorEnabled = false
  | .switchSchool bearer targetTenantSlug client _ =>
    ∀ user, JwtStrategy.authenticate c a.state.db.toTables bearer client.now = .ok user →
      ∀ tenant v, a.state.db.switchTarget user.id targetTenantSlug = some (tenant, v) →
        v.twoFactorEnabled = false
  | .verifyTwoFactorLogin .. | .refreshToken .. => True

end

/-! ### What the attacker holds -/

section

variable {x : AuthHost} {c : JwtStrategy.Connection} {opened : List Id} {a : Attacker}

/-- Everything the attacker holds is of accounts without a second factor, and the families that were
there are there. -/
structure Attacker.Inv (x : AuthHost) (opened : List Id) (a : Attacker) : Prop where
  jwts : ∀ jwt ∈ a.jwts, ¬ Guarded a.state.db.toTables jwt.payload.sub
  refreshTokens : ∀ raw ∈ a.refreshTokens, ∀ k ∈ a.state.db.tokens.rows,
    k.tokenHash = x.sha256 raw → ∀ f ∈ a.state.db.families.rows, f.id = k.familyId →
      ¬ Guarded a.state.db.toTables f.userId
  families : ∀ f ∈ a.state.db.families.rows, f.id ∈ opened ∨ ¬ Guarded a.state.db.toTables f.userId
  there : ∀ id ∈ opened, ∃ f, a.state.db.families.find? id = some f

theorem Attacker.Inv.kept (inv : a.Inv x opened) : Kept c opened a where
  jwts jwt mem r accepted := by
    rw [JwtStrategy.validate_id accepted]
    exact inv.jwts jwt mem
  families := inv.families

theorem guarded_congr {t t' : Tables} (users : t'.users = t.users) (id : Id) :
    Guarded t' id ↔ Guarded t id := by
  unfold Guarded
  rw [users]

theorem not_guarded {t : Tables} {u : User} (mem : u ∈ t.users.rows)
    (off : u.twoFactorEnabled = false) : ¬ Guarded t u.id := by
  rintro ⟨v, found, on⟩
  cases (find?_key _ mem).symm.trans found
  rw [off] at on
  cases on

/-- A call that adds for an account without a second factor, and answers with nothing but tokens of
that account, leaves the attacker with nothing more. -/
theorem Attacker.Inv.learn (inv : a.Inv x opened) {v : Id} {s' : State}
    {answer : Result LoginResult} (adds : AddsFor v a.state.db s'.db)
    (grows : Grows a.state.db s'.db) (off : ¬ Guarded a.state.db.toTables v)
    (own : ∀ result, answer = .ok result → result.jwt.payload.sub = v ∧
      ∀ raw ∈ result.refreshToken, OwnedBy s'.db (x.sha256 raw) v) :
    (a.learn s' answer).Inv x opened := by
  have same : ∀ id, Guarded s'.db.toTables id ↔ Guarded a.state.db.toTables id :=
    guarded_congr adds.users
  have old : ∀ raw ∈ a.refreshTokens, ∀ k ∈ s'.db.tokens.rows, k.tokenHash = x.sha256 raw →
      ∀ f ∈ s'.db.families.rows, f.id = k.familyId → ¬ Guarded s'.db.toTables f.userId := by
    intro raw known k mem hash f memF ofFamily
    rw [same]
    rcases adds.tokens k mem with new | ⟨k₀, mem₀, hash₀, family₀⟩
    · rwa [new f memF ofFamily]
    · rcases adds.families f memF with rfl | ⟨f₀, memF₀, id₀, user₀⟩
      · exact off
      · rw [← user₀]
        exact inv.refreshTokens raw known k₀ mem₀ (hash₀.trans hash) f₀ memF₀
          ((id₀.trans ofFamily).trans family₀.symm)
  have families : ∀ f ∈ s'.db.families.rows, f.id ∈ opened ∨ ¬ Guarded s'.db.toTables f.userId := by
    intro f mem
    rw [same]
    rcases adds.families f mem with rfl | ⟨f₀, mem₀, id₀, user₀⟩
    · exact Or.inr off
    · rw [← id₀, ← user₀]
      exact inv.families f₀ mem₀
  have jwts : ∀ jwt ∈ a.jwts, ¬ Guarded s'.db.toTables jwt.payload.sub := by
    intro jwt mem
    rw [same]
    exact inv.jwts jwt mem
  have there : ∀ id ∈ opened, ∃ f, s'.db.families.find? id = some f := by
    intro id mem
    obtain ⟨f, found⟩ := inv.there id mem
    obtain ⟨f', found', -⟩ := grows.families id f found
    exact ⟨f', found'⟩
  have offNow : ¬ Guarded s'.db.toTables v := mt (same v).mp off
  cases answer with
  | error e => exact ⟨jwts, old, families, there⟩
  | ok result =>
    obtain ⟨named, owned⟩ := own result rfl
    refine ⟨fun jwt mem => ?_, fun raw mem => ?_, families, there⟩
    · rcases List.mem_cons.mp mem with rfl | before
      · rw [named]
        exact offNow
      · exact jwts jwt before
    · rcases List.mem_append.mp mem with new | before
      · intro k memK hash f memF ofFamily
        rw [owned raw (Option.mem_toList.mp new) k memK hash f memF ofFamily]
        exact offNow
      · exact old raw before

/-- What holds of a pair holds of the answer that carries it. -/
theorem own_tokens {sha256 : String → String} {db : Db} {v : Id} {issued : Result TokenPair}
    (own : ∀ pair, issued = .ok pair → pair.accessToken.payload.sub = v ∧
      OwnedBy db (sha256 pair.refreshToken) v) :
    ∀ result, issued.map .tokens = .ok result → (LoginResult.jwt result).payload.sub = v ∧
      ∀ raw ∈ result.refreshToken, OwnedBy db (sha256 raw) v := by
  intro result answered
  cases issued with
  | error e => cases answered
  | ok pair =>
    cases answered
    obtain ⟨named, owned⟩ := own pair rfl
    refine ⟨named, fun raw given => ?_⟩
    cases given
    exact owned

/-- Tokens issued for an account without a second factor leave the attacker with nothing more. -/
theorem Attacker.Inv.issue (inv : a.Inv x opened) {s : State} (db : s.db = a.state.db) {v : User}
    (mem : v ∈ a.state.db.users.rows) (off : v.twoFactorEnabled = false) (client : Client)
    (rawRefreshToken : String) :
    (a.learn ((issueTokens x.sha256 v client rawRefreshToken).run exec s).1
      (((issueTokens x.sha256 v client rawRefreshToken).run exec s).2.map .tokens)).Inv x opened := by
  obtain ⟨adds, own⟩ := issueTokens_adds x.sha256 s v client rawRefreshToken
  have grows : Grows s.db ((issueTokens x.sha256 v client rawRefreshToken).run exec s).1.db :=
    run_grows _ s
  rw [db] at adds grows
  refine inv.learn adds grows (not_guarded mem off) (own_tokens fun pair issued => ?_)
  obtain ⟨rfl, owned⟩ := own pair issued
  exact ⟨rfl, owned⟩

/-- A call that leaves the database and answers nothing leaves the attacker with nothing more. -/
theorem Attacker.Inv.refuse (inv : a.Inv x opened) {s' : State} (db : s'.db = a.state.db)
    (e : Failure) : (a.learn s' (.error e)).Inv x opened := by
  unfold Attacker.learn
  refine ⟨?_, ?_, ?_, ?_⟩ <;> simp only [db]
  · exact inv.jwts
  · exact inv.refreshTokens
  · exact inv.families
  · exact inv.there

end

/-! ### The four ways -/

section

variable {x : AuthHost} {c : JwtStrategy.Connection} {opened : List Id} {a : Attacker}

/-- A code fits or does not; there is no other answer. -/
theorem verify_answer (x : Factors) (s : State) (u : Id) (code : String) (now : ℕ) :
    ∃ valid, ((verify2FAToken x u code now).run exec s).2 = .ok valid := by
  simp only [verify2FAToken, query, Prog.call_bind, Prog.run_step, exec]
  cases found : s.db.users.find? u with
  | none => exact ⟨false, rfl⟩
  | some user =>
    dsimp only
    rcases checkCode_cases x user code now with ⟨valid, same⟩ | ⟨-, same⟩
    · rw [same]
      exact ⟨valid, rfl⟩
    · obtain rfl : user.id = u := key_of_find? found
      obtain ⟨s', done, -⟩ := write_codes found
        (user.twoFactorRecoveryCodes.erase (x.recoveryHash code))
      rw [same]
      simp only [burn, Prog.run_step, done, must, Prog.ret_ok_bind, Prog.pure_eq, Prog.run_ret]
      exact ⟨true, rfl⟩

/-- No code fits an account without a second factor. -/
theorem verify_off {x : Factors} {s : State} {u : Id} (off : ¬ Guarded s.db.toTables u)
    (code : String) (now : ℕ) : ((verify2FAToken x u code now).run exec s).2 = .ok false := by
  simp only [verify2FAToken, query, Prog.call_bind, Prog.run_step, exec]
  cases found : s.db.users.find? u with
  | none => rfl
  | some user =>
    have disabled : user.twoFactorEnabled = false := by
      by_contra on
      exact off ⟨user, found, by simpa using on⟩
    simp only [checkCode, disabled, true_or, if_true, Prog.pure_eq, Prog.run_ret]

/-- With no code that fits, the second step answers with no token and leaves the database. -/
theorem verifyTwoFactorLogin_wrong {dto : VerifyTwoFactorDto} {client : Client} {up : Bool}
    {rawRefreshToken : String}
    (can : a.Can x (.verifyTwoFactorLogin dto client up rawRefreshToken)) :
    ∃ s' e, AuthCall.run x c a.state (.verifyTwoFactorLogin dto client up rawRefreshToken) =
      (s', .error e) ∧ s'.db = a.state.db := by
  simp only [AuthCall.run, verifyTwoFactorLogin]
  cases verified : tempTokenUser dto.tempToken client.now with
  | error e => exact ⟨a.state, e, rfl, rfl⟩
  | ok userId =>
    have wrong : ((verify2FAToken x.factors userId dto.code client.now).run exec a.state).2 =
        .ok false := by
      by_cases guarded : Guarded a.state.db.toTables userId
      · obtain ⟨valid, answered⟩ := verify_answer x.factors a.state userId dto.code client.now
        have unfit := can.2 userId guarded
        rw [answered] at unfit ⊢
        cases valid with
        | false => rfl
        | true => exact absurd rfl unfit
      · exact verify_off guarded dto.code client.now
    obtain ⟨s', e, refused, db⟩ : ∃ s' e, (verifyGuarded x.factors x.lower userId dto.code
        client.ipAddress up client.now (.unauthorized
          "کد ۶ رقمی یا کد بازیابی اضطراری وارد شده نادرست است")).run exec a.state =
            (s', .error e) ∧ s'.db = a.state.db := by
      rcases guarded_wrong x.lower client.ipAddress up (.unauthorized
        "کد ۶ رقمی یا کد بازیابی اضطراری وارد شده نادرست است") wrong with
        ⟨-, e, stays⟩ | ⟨-, counted⟩
      · exact ⟨_, e, stays, rfl⟩
      · exact ⟨_, _, counted, rfl⟩
    refine ⟨s', e, ?_, db⟩
    simp only [must, Prog.ret_ok_bind, Prog.run_bind, refused]

/-- The attacker after a call, by what the call did. -/
theorem step_eq {call : AuthCall} {s' : State} {answer : Result LoginResult}
    (ran : call.run x c a.state = (s', answer)) : a.step x c call = a.learn s' answer := by
  unfold Attacker.step
  rw [ran]

/-- A user who is there, active and in good standing is who a token of theirs is accepted as. -/
theorem validate_of_standing {t : Tables} {u : User} (mem : u ∈ t.users.rows)
    (active : u.status = .active) (standing : Standing t u) {payload : JwtPayload}
    (named : payload.sub = u.id) : ∃ r, JwtStrategy.validate c t payload = .ok r ∧ r.id = u.id := by
  rcases JwtStrategy.validate_cases c t payload with
    ⟨-, same⟩ | ⟨-, -, same⟩ | ⟨user, -, -, found, ⟨-, same⟩ | ⟨not, -⟩⟩
  · exact ⟨_, same, named⟩
  · exact ⟨_, same, named⟩
  · exact ⟨_, same, (JwtStrategy.validate_id same).trans named⟩
  · rw [named] at found
    cases (find?_key _ mem).symm.trans found
    exact absurd ⟨active, standing⟩ not

section

variable (inv : a.Inv x opened)
include inv

/-- A login. -/
theorem Attacker.Inv.login (call : LoginCall) :
    (Passes x c a (.login call) → (a.step x c (.login call)).Inv x opened) ∧
      (Kept c opened (a.step x c (.login call)) → Passes x c a (.login call)) := by
  rcases login_cases x.toLoginHost a.state call with
    ⟨e, checked, ran⟩ | ⟨-, opens, ran⟩ | ⟨u, checked, opens, ran⟩
  · have step : a.step x c (.login call) = _ := step_eq ran
    rw [step]
    refine ⟨fun _ => inv.refuse rfl _, fun _ passes => ?_⟩
    rw [checked] at passes
    cases passes
  · have step : a.step x c (.login call) = _ := step_eq ran
    have db : (call.recorded x.toLoginHost a.state).db = a.state.db := rfl
    rw [step]
    refine ⟨fun _ => inv.refuse db _, fun _ _ u opened => ?_⟩
    rw [opens] at opened
    cases opened
  · obtain ⟨-, mem, active⟩ := LoginCall.opens_spec opens
    rcases signIn_cases x.toLoginHost a.state call active with
      ⟨unfit, admitted⟩ | ⟨standing, on, admitted⟩ | ⟨standing, off, admitted⟩
    · have step : a.step x c (.login call) = _ := step_eq (ran.trans admitted)
      rw [step]
      refine ⟨fun _ => inv.refuse rfl _, fun _ _ u' opened standing => ?_⟩
      cases opens.symm.trans opened
      exact absurd standing unfit
    · have step : a.step x c (.login call) = _ := step_eq (ran.trans admitted)
      rw [step]
      constructor
      · intro passes
        rw [passes checked u opens standing] at on
        cases on
      · intro kept
        have named : (tempToken u call.client.now).payload.sub = u.id := rfl
        obtain ⟨r, accepted, same⟩ := validate_of_standing (c := c) mem active standing named
        have not := kept.jwts _ List.mem_cons_self r accepted
        rw [same] at not
        exact absurd ⟨u, find?_key _ mem, on⟩ not
    · have step : a.step x c (.login call) = _ := step_eq (ran.trans admitted)
      rw [step]
      refine ⟨fun _ => ?_, fun _ _ u' opened _ => ?_⟩
      · have db : (call.cleared x.toLoginHost a.state).db = a.state.db := rfl
        exact inv.issue db mem off call.client call.rawRefreshToken
      · cases opens.symm.trans opened
        exact off

/-- A second step, with no code that fits. -/
theorem Attacker.Inv.verifyTwoFactorLogin {dto : VerifyTwoFactorDto}
    {client : Client} {up : Bool} {rawRefreshToken : String}
    (can : a.Can x (.verifyTwoFactorLogin dto client up rawRefreshToken)) :
    (a.step x c (.verifyTwoFactorLogin dto client up rawRefreshToken)).Inv x opened := by
  obtain ⟨s', e, ran, db⟩ := verifyTwoFactorLogin_wrong (c := c) can
  rw [step_eq ran]
  exact inv.refuse db e

/-- A switch. -/
theorem Attacker.Inv.switchSchool (bearer : Jwt) (slug : String)
    (client : Client) (rawRefreshToken : String) :
    (Passes x c a (.switchSchool bearer slug client rawRefreshToken) →
      (a.step x c (.switchSchool bearer slug client rawRefreshToken)).Inv x opened) ∧
    (Kept c opened (a.step x c (.switchSchool bearer slug client rawRefreshToken)) →
      Passes x c a (.switchSchool bearer slug client rawRefreshToken)) := by
  cases accepted : JwtStrategy.authenticate c a.state.db.toTables bearer client.now with
  | error e =>
    have ran : AuthCall.run x c a.state (.switchSchool bearer slug client rawRefreshToken) =
        (a.state, .error e) := by
      simp only [AuthCall.run, accepted]
    rw [step_eq ran]
    refine ⟨fun _ => inv.refuse rfl e, fun _ user other => ?_⟩
    rw [accepted] at other
    cases other
  | ok user =>
    rcases switchSchool_cases x.sha256 a.state user.id slug client rawRefreshToken with
      ⟨none, e, refused⟩ | ⟨tenant, v, target, issues⟩
    · have ran : AuthCall.run x c a.state (.switchSchool bearer slug client rawRefreshToken) =
          (a.state, .error e) := by
        simp only [AuthCall.run, accepted, Prog.run_bind, refused]
      rw [step_eq ran]
      refine ⟨fun _ => inv.refuse rfl e, fun _ user' other tenant v target => ?_⟩
      cases accepted.symm.trans other
      rw [none] at target
      cases target
    · obtain ⟨_, _, -, -, -, -, mem, -, -, active⟩ := switchTarget_spec target
      have ran : AuthCall.run x c a.state (.switchSchool bearer slug client rawRefreshToken) =
          (((issueTokens x.sha256 v client rawRefreshToken).run exec a.state).1,
            ((issueTokens x.sha256 v client rawRefreshToken).run exec a.state).2.map .tokens) := by
        simp only [AuthCall.run, accepted, Prog.run_bind, issues]
        cases ((issueTokens x.sha256 v client rawRefreshToken).run exec a.state).2 <;> rfl
      rw [step_eq ran]
      constructor
      · intro passes
        have off := passes user accepted tenant v target
        exact inv.issue rfl mem off client rawRefreshToken
      · intro kept user' other tenant' v' target'
        cases accepted.symm.trans other
        cases target.symm.trans target'
        by_contra on
        obtain ⟨f, memF, fresh, ofV⟩ := issueTokens_opens x.sha256 a.state client
          rawRefreshToken mem
        obtain ⟨adds, -⟩ := issueTokens_adds x.sha256 a.state v client rawRefreshToken
        have families := kept.families f
        rw [Attacker.learn_state, ofV, fresh, guarded_congr adds.users] at families
        rcases families memF with old | off
        · obtain ⟨g, found⟩ := inv.there _ old
          rw [find?_fresh] at found
          cases found
        · exact off ⟨v, find?_key _ mem, by simpa using on⟩

/-- A refresh. -/
theorem Attacker.Inv.refreshToken {rawToken : String} {client : Client}
    {newRawRefreshToken : String}
    (can : a.Can x (.refreshToken rawToken client newRawRefreshToken)) :
    (a.step x c (.refreshToken rawToken client newRawRefreshToken)).Inv x opened := by
  cases found : a.state.db.findToken (x.sha256 rawToken) with
  | none =>
    have ran : AuthCall.run x c a.state (.refreshToken rawToken client newRawRefreshToken) =
        (a.state, .error (.unauthorized "توکن رفرش نامعتبر است")) := by
      simp only [AuthCall.run, refreshTokenCore, query, Prog.call_bind, Prog.step_bind,
        Prog.run_step, exec, found, orThrow, orFail, Prog.ret_error_bind, Prog.run_ret]
    rw [step_eq ran]
    exact inv.refuse rfl _
  | some record =>
    obtain ⟨stored, ofFamily, ofUser⟩ := Tables.findToken_eq_some_iff.mp found
    obtain ⟨memK, hash⟩ := Tables.findHash_eq_some_iff.mp stored
    have known : rawToken ∈ a.refreshTokens := by
      rcases can with known | absent
      · exact known
      · rw [stored] at absent
        cases absent
    have off : ¬ Guarded a.state.db.toTables record.user.id := by
      rw [show record.user.id = record.family.userId from key_of_find? ofUser]
      exact inv.refreshTokens rawToken known record.token memK hash record.family
        (mem_of_find? ofFamily) (key_of_find? ofFamily)
    obtain ⟨adds, own⟩ := refreshTokenCore_adds x.sha256 a.state client newRawRefreshToken found
    have ran : AuthCall.run x c a.state (.refreshToken rawToken client newRawRefreshToken) =
        (((refreshTokenCore x.sha256 rawToken client newRawRefreshToken).run exec a.state).1,
          ((refreshTokenCore x.sha256 rawToken client newRawRefreshToken).run exec
            a.state).2.map .tokens) := by
      simp only [AuthCall.run, Prog.run_bind]
      cases (refreshTokenCore x.sha256 rawToken client newRawRefreshToken).run exec a.state with
      | mk s' answer => cases answer <;> rfl
    rw [step_eq ran]
    refine inv.learn adds (run_grows _ _) off (own_tokens fun pair issued => ?_)
    obtain ⟨rfl, owned⟩ := own pair issued
    exact ⟨rfl, owned⟩

/-- One call: when it passes, the attacker is left with nothing of an account with a second factor,
and only then. -/
theorem Attacker.Inv.step {call : AuthCall} (can : a.Can x call) :
    (Passes x c a call → (a.step x c call).Inv x opened) ∧
      (Kept c opened (a.step x c call) → Passes x c a call) := by
  cases call with
  | login call => exact inv.login call
  | verifyTwoFactorLogin dto client up rawRefreshToken =>
    exact ⟨fun _ => inv.verifyTwoFactorLogin can, fun _ => trivial⟩
  | switchSchool bearer slug client rawRefreshToken =>
    exact inv.switchSchool bearer slug client rawRefreshToken
  | refreshToken rawToken client newRawRefreshToken =>
    exact ⟨fun _ => inv.refreshToken can, fun _ => trivial⟩

end

end

/-- **The second factor is kept.** Along every run of an attacker without a code that fits, in every
state reached no token it has is accepted as an account with a second factor and no family has been
opened for one, exactly if no call of the run comes to such an account by a password or a phone. -/
theorem second_factor_kept (x : AuthHost) (c : JwtStrategy.Connection) (s : State)
    (calls : List AuthCall)
    (able : Along (Attacker.step x c) (Attacker.Can x) { state := s } calls) :
    Along (Attacker.step x c)
        (fun a call => Kept c (s.db.families.rows.map (·.id)) (a.step x c call))
        { state := s } calls ↔
      Along (Attacker.step x c) (Passes x c) { state := s } calls := by
  have start : Attacker.Inv x (s.db.families.rows.map (·.id)) { state := s } := by
    refine ⟨List.forall_mem_nil _, List.forall_mem_nil _,
      fun f mem => Or.inl (List.mem_map_of_mem mem), fun id mem => ?_⟩
    obtain ⟨f, memF, rfl⟩ := List.mem_map.mp mem
    exact ⟨f, find?_key _ memF⟩
  refine along_iff (I := Attacker.Inv x (s.db.families.rows.map (·.id))) ?_ ?_ start able
  · intro a call can inv
    exact ⟨(inv.step can).2, fun passes => ((inv.step can).1 passes).kept⟩
  · intro a call can kept inv
    exact (inv.step can).1 ((inv.step can).2 kept)

namespace Desk

def authHost : AuthHost where
  toLoginHost := host
  upper := factors.upper
  decrypt := factors.decrypt
  verifySync := factors.verifySync

def omid : User :=
  { id := 4, tenantId := 7, phone := some "09121234567", passwordHash := "hash of pass-4",
    firstName := "امید", lastName := "راد", role := .teacher }

/-- His account of the other school has a second factor. -/
def omidElsewhere : User :=
  { id := 5, tenantId := 8, phone := some "09121234567", passwordHash := "hash of pass-5",
    firstName := "امید", lastName := "راد", role := .schoolAdmin, twoFactorEnabled := true,
    twoFactorSecret := some "JBSWY3DP" }

def twoSchools : Db where
  tenants := ⟨[tenant, { id := 8, name := "دبیرستان رکاد", slug := "rokad-girls" }],
    by decide +kernel, by decide +kernel⟩
  users := ⟨[omid, omidElsewhere], by decide +kernel, by decide +kernel⟩
  foreignKeys := by constructor <;> decide +kernel

def loginTo (tenantId : Id) (password : String) : AuthCall :=
  .login
    { dto := { identifier := "09121234567", password }
      currentTenantId := some tenantId
      client := { now := 1000 }
      rawRefreshToken := "r0" }

/-- The token the login to the first school answers with. -/
def omidsToken : Jwt := signAccessToken 4 7 .teacher false (some omid) (1000 : ℕ)

/-- He goes from the first school to the other. -/
def switches : List AuthCall :=
  [loginTo 7 "pass-4", .switchSchool omidsToken "rokad-girls" { now := 2000 } "r1"]

def refreshes : List AuthCall :=
  [loginTo 7 "pass-4", .refreshToken "r0" { now := 2000 } "r1"]

end Desk

/-- A login to the account without a second factor, and a refresh. -/
theorem second_factor_kept_refresh : Along (Attacker.step Desk.authHost ⟨true, true⟩)
      (fun a call => Kept ⟨true, true⟩ [] (a.step Desk.authHost ⟨true, true⟩ call))
      { state := { db := Desk.twoSchools } } Desk.refreshes := by
  refine (second_factor_kept Desk.authHost ⟨true, true⟩ { db := Desk.twoSchools } Desk.refreshes
    ⟨trivial, Or.inl (by decide +kernel), trivial⟩).mpr ⟨fun _ u opened _ => ?_, trivial, trivial⟩
  have omid : LoginCall.opens Desk.authHost.toLoginHost { db := Desk.twoSchools }
      { dto := { identifier := "09121234567", password := "pass-4" }, currentTenantId := some 7,
        client := { now := 1000 }, rawRefreshToken := "r0" } = some Desk.omid := by
    decide +kernel
  cases omid.symm.trans opened
  rfl

/-- A password alone gives a token that is accepted, and so does the phone of another account. -/
theorem not_second_factor_kept :
    (Along (Attacker.step Desk.authHost ⟨true, true⟩) (Attacker.Can Desk.authHost)
        { state := { db := Desk.twoSchools } } [Desk.loginTo 8 "pass-5"] ∧
      ¬ Kept ⟨true, true⟩ [] (run (Attacker.step Desk.authHost ⟨true, true⟩)
        { state := { db := Desk.twoSchools } } [Desk.loginTo 8 "pass-5"])) ∧
    Along (Attacker.step Desk.authHost ⟨true, true⟩) (Attacker.Can Desk.authHost)
        { state := { db := Desk.twoSchools } } Desk.switches ∧
      ¬ Kept ⟨true, true⟩ [] (run (Attacker.step Desk.authHost ⟨true, true⟩)
        { state := { db := Desk.twoSchools } } Desk.switches) := by
  have known : Desk.omidsToken ∈ (run (Attacker.step Desk.authHost ⟨true, true⟩)
      { state := { db := Desk.twoSchools } } [Desk.loginTo 7 "pass-4"]).jwts := by
    decide +kernel
  refine ⟨⟨⟨trivial, trivial⟩, fun kept => ?_⟩, ⟨trivial, known, trivial⟩, fun kept => ?_⟩
  · exact kept.jwts (tempToken Desk.omidElsewhere 1000) (by decide +kernel)
      (JwtStrategy.rowUser Desk.omidElsewhere
        (some { id := 8, name := "دبیرستان رکاد", slug := "rokad-girls" })) (by decide +kernel)
      ⟨Desk.omidElsewhere, by decide +kernel, rfl⟩
  · exact kept.jwts (signAccessToken 5 8 .schoolAdmin false (some Desk.omidElsewhere) (2000 : ℕ))
      (by decide +kernel) (JwtStrategy.rowUser Desk.omidElsewhere
        (some { id := 8, name := "دبیرستان رکاد", slug := "rokad-girls" })) (by decide +kernel)
      ⟨Desk.omidElsewhere, by decide +kernel, rfl⟩

end Rokad.Auth
