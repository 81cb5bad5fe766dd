import Rokad.Sms.Service

/-!
# Each message leaves with the account of its own school

A provider holds one pair of credentials for all schools, and every message for a school writes the
school's own into it. What the configuration of a school leaves out stays from the school before,
and a school without a configuration sends with what is there. The law is about what the gateways
are asked: `OwnAccounts` compares it with the request that the school's account makes.

* `ownAccounts_of_fits`: where each configuration is complete, what is not configured is as at the
  start, nobody writes to a provider that another call is about to use, and the account has its
  line, every message leaves with its own account.
* `not_ownAccounts`: after one school another sends with its line, or with its whole account; and
  an account that does not have its line sends through the default one.
-/

namespace Rokad.Sms

open Rokad.Base Rokad.Common

/-! ### Calls in progress -/

inductive Call where
  | dispatchSms (recipient message : String) (tenantId : Option Id)
  | updateGatewayConfig (dto : GatewayConfigDto) (tenantId : Option Id)

inductive Reply where
  | sent (result : SmsSendResult)
  | updated (update : GatewayUpdate)

def Call.program : Call → SmsProg Reply
  | .dispatchSms recipient message tenantId => do
      let result ← Sms.dispatchSms recipient message tenantId
      pure (.sent result)
  | .updateGatewayConfig dto tenantId => do
      let update ← Sms.updateGatewayConfig dto tenantId
      pure (.updated update)

def Call.isDispatch : Call → Bool
  | .dispatchSms _ _ _ => true
  | .updateGatewayConfig _ _ => false

section

variable {ι : Type} [DecidableEq ι] (gateway : Gateway)

def start (host : Host) (calls : ι → Call) : Threads Host (SmsProg Reply) ι :=
  ⟨host, fun i => (calls i).program⟩

abbrev smsStep :
    Threads Host (SmsProg Reply) ι → Move ι Unit Empty → Threads Host (SmsProg Reply) ι :=
  Prog.moveStep (SmsOp.exec gateway) fun host _ => host

/-! ### What is right -/

def configOf (host : Host) (tenantId : Option Id) : Option SmsGatewayConfig :=
  tenantId.bind host.configs.get?

/-- A provider and the key and line a message leaves with. -/
structure Account where
  provider : ProviderName
  credentials : Credentials

/-- What the gateway is asked for a message: nothing without a key. -/
def Account.requests (account : Account) (options : SmsSendSingleOptions) : List GatewayRequest :=
  if account.provider ≠ .sandbox ∧ account.credentials.apiKey = "" then []
  else match account.provider with
    | .amoot =>
      [amootRequest account.credentials options (amootLine account.credentials.senderLine)]
    | .kavenegar => [kavenegarRequest account.credentials options]
    | .sandbox => []

variable (host : Host)

/-- The account that a configuration names, or else that of the platform at the start. -/
def accountOf : Option SmsGatewayConfig → Account
  | some config => ⟨config.provider, config.credentials⟩
  | none => ⟨host.primaryProvider, host.credentials host.primaryProvider⟩

variable (calls : ι → Call)

/-- At some moment of the call in this history, its school had this configuration. -/
def Seen (tenantId : Option Id) (i : ι) (history : List (Move ι Unit Empty))
    (config : Option SmsGatewayConfig) : Prop :=
  ∃ moment, moment <+: history ∧ Move.thread i () ∈ moment ∧
    configOf (run (smsStep gateway) (start host calls) moment).shared tenantId = config

/-- Whatever a step of a dispatch asks the gateways is what the account of its school, as it is at
some moment of the call, asks for this message. -/
def OwnAccounts (moves : List (Move ι Unit Empty)) : Prop :=
  ∀ history i, history ++ [.thread i ()] <+: moves → ∀ recipient message tenantId,
    calls i = .dispatchSms recipient message tenantId → ∀ requests ≠ [],
      (run (smsStep gateway) (start host calls) (history ++ [.thread i ()])).shared.requests =
        (run (smsStep gateway) (start host calls) history).shared.requests ++ requests →
      ∃ config, Seen gateway host calls tenantId i history config ∧
        requests = (accountOf host config).requests ⟨recipient, message, tenantId⟩

/-! ### Where it is kept -/

/-- The call is about to send through the provider. -/
def AboutToSend (provider : ProviderName) : SmsProg Reply → Prop
  | .step (.sendSingle provider' _) _ => provider' = provider
  | _ => False

instance (provider : ProviderName) (prog : SmsProg Reply) :
    Decidable (AboutToSend provider prog) := by
  unfold AboutToSend
  split <;> infer_instance

def Fits (p : Threads Host (SmsProg Reply) ι) : Move ι Unit Empty → Prop
  | .thread i _ =>
    match calls i, p.own i with
    -- without a configuration, the platform's provider is the one of the start
    | .dispatchSms _ _ tenantId, .step .primaryProvider _ =>
      configOf p.shared tenantId = none → p.shared.primaryProvider = host.primaryProvider ∧
        (tenantId = none → p.shared.credentials host.primaryProvider =
          host.credentials host.primaryProvider)
    -- and so are its credentials; a configuration without a key finds none
    | .dispatchSms _ _ _, .step (.findConfig id) _ =>
      match p.shared.configs.get? id with
      | none => p.shared.credentials host.primaryProvider =
          host.credentials host.primaryProvider
      | some c => c.credentials.apiKey = "" → (p.shared.credentials c.provider).apiKey = ""
    -- a configuration without a line finds none
    | call, .step (.updateCredentials provider apiKey senderLine) _ =>
      (call.isDispatch = true → senderLine = none →
        (p.shared.credentials provider).senderLine = "") ∧
      -- and nobody else is about to send through the provider, unless all stays the same
      ∀ j, j ≠ i → AboutToSend provider (p.own j) →
        (p.shared.updateCredentials provider apiKey senderLine).credentials provider =
          p.shared.credentials provider
    -- the account has its line
    | .dispatchSms _ _ _, .step (.sendSingle provider options) _ =>
      provider = .amoot → p.shared.amootProvider.apiKey ≠ "" →
        amootRetries gateway p.shared.requests p.shared.amootProvider options = false
    | _, _ => True
  | .world e => e.elim

instance [Fintype ι] (p : Threads Host (SmsProg Reply) ι) (move : Move ι Unit Empty) :
    Decidable (Fits gateway host calls p move) := by
  rcases move with ⟨i, ⟨⟩⟩ | e
  · dsimp only [Fits]
    repeat' split
    all_goals infer_instance
  · cases e

end

/-! ### What a call still does -/

section

def sendThen (provider : ProviderName) (options : SmsSendSingleOptions) : SmsProg Reply :=
  .step (.sendSingle provider options) fun result => .ret (.ok (.sent result))

/-- A call that has looked up the configuration of its school. -/
def afterConfig (primaryProvider : ProviderName) (options : SmsSendSingleOptions) :
    Option SmsGatewayConfig → SmsProg Reply
  | none => sendThen primaryProvider options
  | some config =>
    match truthy (some config.credentials.apiKey) with
    | some apiKey =>
      .step (.updateCredentials config.provider apiKey
        (truthy (some config.credentials.senderLine))) fun _ => sendThen config.provider options
    | none => sendThen config.provider options

/-- A call that has read which provider is primary. -/
def afterPrimary (options : SmsSendSingleOptions) (primaryProvider : ProviderName) :
    SmsProg Reply :=
  match options.tenantId with
  | none => sendThen primaryProvider options
  | some id => .step (.findConfig id) (afterConfig primaryProvider options)

theorem program_dispatchSms (recipient message : String) (tenantId : Option Id) :
    (Call.dispatchSms recipient message tenantId).program =
      .step .primaryProvider (afterPrimary ⟨recipient, message, tenantId⟩) := by
  unfold Call.program dispatchSms
  simp only [perform, Prog.call_bind, Prog.step_bind]
  congr 1
  funext primaryProvider
  unfold afterPrimary
  cases tenantId with
  | none => rfl
  | some id =>
    simp only [Prog.step_bind]
    congr 1
    funext config
    unfold afterConfig useConfig
    cases config with
    | none => rfl
    | some config =>
      simp only
      cases truthy (some config.credentials.apiKey) <;> rfl

def IsSend : SmsOp → Prop
  | .sendSingle _ _ => True
  | _ => False

theorem program_updateGatewayConfig (dto : GatewayConfigDto) (tenantId : Option Id) :
    (Call.updateGatewayConfig dto tenantId).program.Avoids IsSend := by
  have gives (provider : ProviderName) (apiKey senderLine : Option String) :
      (giveCredentials provider apiKey senderLine).Avoids IsSend := by
    unfold giveCredentials
    cases apiKey with
    | none => exact trivial
    | some apiKey => exact ⟨not_false, fun _ => trivial⟩
  unfold Call.program updateGatewayConfig
  refine Prog.Avoids.bind ?_ fun _ => trivial
  refine Prog.Avoids.bind (gives ..) fun _ => Prog.Avoids.bind (gives ..) fun _ => ?_
  refine ⟨not_false, fun _ => ?_⟩
  cases tenantId with
  | none => exact ⟨not_false, fun _ => trivial⟩
  | some id => exact ⟨not_false, fun _ => ⟨not_false, fun _ => trivial⟩⟩

/-- What is known of a dispatch in progress: `seen` are the configurations its school has had. -/
inductive Stage (start host : Host) (seen : Option SmsGatewayConfig → Prop)
    (options : SmsSendSingleOptions) : SmsProg Reply → Prop where
  | begin : Stage start host seen options (.step .primaryProvider (afterPrimary options))
  | lookup {id : Id} {primaryProvider : ProviderName} (school : options.tenantId = some id)
      (same : host.configs.get? id = none → primaryProvider = start.primaryProvider) :
      Stage start host seen options (.step (.findConfig id) (afterConfig primaryProvider options))
  | giving {config : SmsGatewayConfig} (found : seen (some config))
      (key : config.credentials.apiKey ≠ "") :
      Stage start host seen options
        (.step (.updateCredentials config.provider config.credentials.apiKey
          (truthy (some config.credentials.senderLine))) fun _ => sendThen config.provider options)
  | sending {provider : ProviderName}
      (own : ∃ config, seen config ∧ Account.requests ⟨provider, host.credentials provider⟩ options =
        (accountOf start config).requests options) :
      Stage start host seen options (sendThen provider options)
  | done (reply : Result Reply) : Stage start host seen options (.ret reply)

variable {start host host' : Host} {seen seen' : Option SmsGatewayConfig → Prop}
  {options : SmsSendSingleOptions} {prog : SmsProg Reply}

theorem requests_eq_nil {account : Account} (keyless : account.credentials.apiKey = "") :
    account.requests options = [] := by
  obtain ⟨provider, credentials⟩ := account
  cases provider with
  | sandbox => rfl
  | _ => exact if_pos ⟨by simp, keyless⟩

/-- A provider that has its line asks what the account asks. -/
theorem sendSingle_requests {gateway : Gateway} {history : List GatewayRequest}
    {provider : ProviderName} {credentials : Credentials}
    (has : provider = .amoot → credentials.apiKey ≠ "" →
      amootRetries gateway history credentials options = false) :
    (sendSingle gateway history credentials options provider).1 =
      Account.requests ⟨provider, credentials⟩ options := by
  by_cases keyless : credentials.apiKey = ""
  · rw [requests_eq_nil keyless]
    cases provider <;> simp [sendSingle, amootSend, kavenegarSend, keyless]
  · cases provider with
    | amoot => simp [sendSingle, amootSend, Account.requests, keyless, has rfl keyless]
    | kavenegar =>
      simp only [sendSingle, kavenegarSend, Account.requests, keyless, and_false, if_false]
      repeat' split
      all_goals rfl
    | sandbox => rfl

theorem truthy_eq_none {s : String} (empty : s = "") : truthy (some s) = none := by
  rw [empty]
  rfl

theorem truthy_eq_some {s : String} (given : s ≠ "") : truthy (some s) = some s :=
  truthy_eq_some_iff.mpr ⟨rfl, given⟩

/-- What another call does leaves it so. -/
theorem Stage.stays (stage : Stage start host seen options prog)
    (grows : ∀ id, host'.configs.get? id = none → host.configs.get? id = none)
    (undisturbed : ∀ provider, AboutToSend provider prog →
      host'.credentials provider = host.credentials provider)
    (more : ∀ config, seen config → seen' config) : Stage start host' seen' options prog := by
  cases stage with
  | begin => exact .begin
  | lookup school same => exact .lookup school fun none => same (grows _ none)
  | giving found key => exact .giving (more _ found) key
  | sending own =>
    obtain ⟨config, found, same⟩ := own
    exact .sending ⟨config, more _ found, undisturbed _ rfl ▸ same⟩
  | done reply => exact .done reply

theorem credentials_updateCredentials_self {provider : ProviderName} {apiKey : String}
    {senderLine : Option String} (real : provider ≠ .sandbox) :
    (host.updateCredentials provider apiKey senderLine).credentials provider =
      ⟨apiKey, senderLine.getD (host.credentials provider).senderLine⟩ := by
  cases provider with
  | sandbox => exact absurd rfl real
  | _ => rfl

theorem credentials_updateCredentials_of_ne {provider other : ProviderName} {apiKey : String}
    {senderLine : Option String} (differ : other ≠ provider) :
    (host.updateCredentials provider apiKey senderLine).credentials other =
      host.credentials other := by
  cases provider <;> cases other <;> first | rfl | exact absurd rfl differ

theorem configs_updateCredentials {provider : ProviderName} {apiKey : String}
    {senderLine : Option String} :
    (host.updateCredentials provider apiKey senderLine).configs = host.configs := by
  cases provider <;> rfl

theorem requests_updateCredentials {provider : ProviderName} {apiKey : String}
    {senderLine : Option String} :
    (host.updateCredentials provider apiKey senderLine).requests = host.requests := by
  cases provider <;> rfl

theorem credentials_of_key {config : SmsGatewayConfig} (key : config.credentials.apiKey ≠ "") :
    config.provider ≠ .sandbox := by
  intro sandbox
  unfold SmsGatewayConfig.credentials at key
  rw [sandbox] at key
  exact key rfl

end

/-! ### Runs -/

section

variable {ι : Type} [DecidableEq ι] {gateway : Gateway} {host : Host} {calls : ι → Call}
  {p : Threads Host (SmsProg Reply) ι} {i : ι}

/-- A configuration that is there stays. -/
theorem configs_exec (op : SmsOp) (host : Host) (id : Id)
    (absent : (op.exec gateway host).1.configs.get? id = none) : host.configs.get? id = none := by
  cases op with
  | upsertConfig tenantId dto =>
    change (host.configs.set tenantId _).get? id = _ at absent
    rw [Dict.get?_set] at absent
    split at absent
    · cases absent
    · exact absent
  | updateCredentials provider apiKey senderLine =>
    change (host.updateCredentials provider apiKey senderLine).configs.get? id = _ at absent
    rwa [configs_updateCredentials] at absent
  | _ => exact absent

/-- Only an update of a provider changes its credentials. -/
theorem credentials_exec (op : SmsOp) (host : Host) (provider : ProviderName)
    (changed : (op.exec gateway host).1.credentials provider ≠ host.credentials provider) :
    ∃ apiKey senderLine, op = .updateCredentials provider apiKey senderLine := by
  cases op with
  | updateCredentials provider' apiKey senderLine =>
    by_cases same : provider = provider'
    · exact ⟨apiKey, senderLine, by rw [same]⟩
    · exact absurd (credentials_updateCredentials_of_ne same) changed
  | _ => cases provider <;> exact absurd rfl changed

omit [DecidableEq ι] in
/-- **What one step of a dispatch comes to.** -/
theorem Stage.moves {recipient message : String} {tenantId : Option Id}
    {seen seen' : Option SmsGatewayConfig → Prop}
    (dispatch : calls i = .dispatchSms recipient message tenantId)
    (stage : Stage host p.shared seen ⟨recipient, message, tenantId⟩ (p.own i))
    (fits : Fits gateway host calls p (.thread i ()))
    (now : seen' (configOf p.shared tenantId)) (more : ∀ config, seen config → seen' config) :
    Stage host ((p.own i).advance (SmsOp.exec gateway) p.shared).1 seen'
      ⟨recipient, message, tenantId⟩ ((p.own i).advance (SmsOp.exec gateway) p.shared).2 := by
  generalize own : p.own i = prog at stage
  unfold Fits at fits
  simp only [dispatch, own] at fits
  cases stage with
  | begin =>
    simp only at fits
    change Stage host p.shared seen' _ (afterPrimary _ p.shared.primaryProvider)
    unfold afterPrimary
    cases tenantId with
    | none =>
      obtain ⟨primary, same⟩ := fits rfl
      refine .sending ⟨none, now, ?_⟩
      rw [primary, same rfl]
      rfl
    | some id => exact .lookup rfl fun none => (fits none).1
  | @lookup id primaryProvider school same =>
    obtain rfl : tenantId = some id := school
    simp only at fits
    change Stage host p.shared seen' _ (afterConfig _ _ (p.shared.configs.get? id))
    change seen' (p.shared.configs.get? id) at now
    unfold afterConfig
    cases stored : p.shared.configs.get? id with
    | none =>
      rw [stored] at fits now
      refine .sending ⟨none, now, ?_⟩
      rw [same stored, fits]
      rfl
    | some config =>
      rw [stored] at fits now
      simp only at fits ⊢
      by_cases key : config.credentials.apiKey = ""
      · rw [truthy_eq_none key]
        refine .sending ⟨some config, now, ?_⟩
        rw [requests_eq_nil (fits key)]
        exact (requests_eq_nil key).symm
      · rw [truthy_eq_some key]
        exact .giving now key
  | @giving config found key =>
    have real := credentials_of_key key
    simp only at fits
    obtain ⟨lineless, -⟩ := fits
    refine .sending ⟨some config, more _ found, ?_⟩
    have given : (p.shared.updateCredentials config.provider config.credentials.apiKey
        (truthy (some config.credentials.senderLine))).credentials config.provider =
        config.credentials := by
      rw [credentials_updateCredentials_self real]
      by_cases line : config.credentials.senderLine = ""
      · rw [truthy_eq_none line, Option.getD_none, lineless rfl (truthy_eq_none line), ← line]
      · rw [truthy_eq_some line, Option.getD_some]
    exact congrArg (fun credentials => Account.requests ⟨_, credentials⟩ _) given
  | sending own =>
    exact .done _
  | done reply => exact .done reply

/-- What is known of a call after a history. -/
def Tracked (gateway : Gateway) (host : Host) (calls : ι → Call)
    (history : List (Move ι Unit Empty)) (i : ι) : Prop :=
  let p := run (smsStep gateway) (start host calls) history
  match calls i with
  | .dispatchSms recipient message tenantId =>
    Stage host p.shared (Seen gateway host calls tenantId i history)
      ⟨recipient, message, tenantId⟩ (p.own i)
  | .updateGatewayConfig _ _ => (p.own i).Avoids IsSend

theorem Seen.append {tenantId : Option Id} {history : List (Move ι Unit Empty)}
    {move : Move ι Unit Empty} {config : Option SmsGatewayConfig}
    (seen : Seen gateway host calls tenantId i history config) :
    Seen gateway host calls tenantId i (history ++ [move]) config := by
  obtain ⟨moment, pre, moved, has⟩ := seen
  exact ⟨moment, pre.trans (List.prefix_append _ _), moved, has⟩

omit [DecidableEq ι] in
/-- A dispatch stores no configuration. -/
theorem Stage.configs_advance {seen : Option SmsGatewayConfig → Prop}
    {options : SmsSendSingleOptions} {prog : SmsProg Reply} {now : Host}
    (stage : Stage host now seen options prog) :
    (prog.advance (SmsOp.exec gateway) now).1.configs = now.configs := by
  cases stage with
  | giving => exact configs_updateCredentials
  | _ => rfl

/-- The configuration that the school has when a call moves is one of a moment of the call. -/
theorem seen_now {recipient message : String} {tenantId : Option Id}
    {history : List (Move ι Unit Empty)}
    (stage : Stage host (run (smsStep gateway) (start host calls) history).shared
      (Seen gateway host calls tenantId i history) ⟨recipient, message, tenantId⟩
      ((run (smsStep gateway) (start host calls) history).own i)) :
    Seen gateway host calls tenantId i (history ++ [.thread i ()])
      (configOf (run (smsStep gateway) (start host calls) history).shared tenantId) := by
  refine ⟨_, List.prefix_rfl, List.mem_append_right _ List.mem_cons_self, ?_⟩
  rw [run_append, run_cons, run_nil, smsStep, Prog.moveStep_thread, Threads.shared_put]
  unfold configOf
  rw [stage.configs_advance]

omit [DecidableEq ι] in
theorem configs_advance {prog : SmsProg Reply} {now : Host} (id : Id)
    (absent : (prog.advance (SmsOp.exec gateway) now).1.configs.get? id = none) :
    now.configs.get? id = none := by
  cases prog with
  | ret r => exact absent
  | step op next => exact configs_exec op now id absent

omit [DecidableEq ι] in
/-- What a call is about to send with, nobody else changes. -/
theorem undisturbed {j : ι} {provider : ProviderName} (fits : Fits gateway host calls p (.thread j ()))
    (other : i ≠ j) (about : AboutToSend provider (p.own i)) :
    ((p.own j).advance (SmsOp.exec gateway) p.shared).1.credentials provider =
      p.shared.credentials provider := by
  by_contra changed
  generalize own : p.own j = prog at changed
  cases prog with
  | ret r => exact changed rfl
  | step op next =>
    obtain ⟨apiKey, senderLine, rfl⟩ := credentials_exec op p.shared provider changed
    unfold Fits at fits
    cases call : calls j <;>
      · simp only [call, own] at fits
        exact changed (fits.2 i other about)

theorem tracked_of_fits {history : List (Move ι Unit Empty)}
    (along : Along (smsStep gateway) (Fits gateway host calls) (start host calls) history) :
    ∀ i, Tracked gateway host calls history i := by
  induction history using List.reverseRecOn with
  | nil =>
    intro i
    unfold Tracked
    cases is : calls i with
    | dispatchSms recipient message tenantId =>
      simp only
      change Stage host host _ _ (calls i).program
      rw [is, program_dispatchSms]
      exact .begin
    | updateGatewayConfig dto tenantId =>
      change (calls i).program.Avoids IsSend
      rw [is]
      exact program_updateGatewayConfig dto tenantId
  | append_singleton history move ih =>
    obtain ⟨before, fits, -⟩ := along_append.mp along
    have tracked := ih before
    obtain ⟨j, ⟨⟩⟩ | e := move
    swap
    · exact e.elim
    intro i
    have tracked' := tracked i
    unfold Tracked at tracked' ⊢
    rw [run_append, run_cons, run_nil]
    cases is : calls i with
    | dispatchSms recipient message tenantId =>
      simp only [is] at tracked' ⊢
      rw [smsStep, Prog.moveStep_thread]
      by_cases self : i = j
      · subst self
        rw [Threads.shared_put, Threads.own_put_self]
        exact tracked'.moves is fits (seen_now tracked') fun _ => Seen.append
      · rw [Threads.shared_put, Threads.own_put_of_ne self]
        refine tracked'.stays ?_ ?_ fun _ => Seen.append
        · exact fun id absent => configs_advance id absent
        · exact fun provider about => undisturbed fits self about
    | updateGatewayConfig dto tenantId =>
      simp only [is] at tracked' ⊢
      rw [smsStep, Prog.moveStep_thread]
      by_cases self : i = j
      · subst self
        rw [Threads.own_put_self]
        exact tracked'.advance
      · rwa [Threads.own_put_of_ne self]

/-- **Where it fits, each message leaves with the account of its own school.** -/
theorem ownAccounts_of_fits {moves : List (Move ι Unit Empty)}
    (along : Along (smsStep gateway) (Fits gateway host calls) (start host calls) moves) :
    OwnAccounts gateway host calls moves := by
  rintro history i ⟨rest, rfl⟩ recipient message tenantId dispatch requests asks appended
  obtain ⟨before, fits, -⟩ := along_append.mp (along_append.mp along).1
  have tracked := tracked_of_fits before i
  unfold Tracked at tracked
  simp only [dispatch] at tracked
  rw [run_append, run_cons, run_nil, smsStep, Prog.moveStep_thread, Threads.shared_put] at appended
  generalize run (smsStep gateway) (start host calls) history = p at tracked appended fits
  generalize own : p.own i = prog at tracked appended
  cases tracked with
  | @sending provider same =>
    unfold Fits at fits
    simp only [dispatch, own, sendThen] at fits
    obtain rfl := List.append_cancel_left appended
    obtain ⟨config, seen, same⟩ := same
    refine ⟨config, seen, (sendSingle_requests fun is => ?_).trans same⟩
    subst is
    exact fits rfl
  | giving =>
    -- no other step asks a gateway
    change (p.shared.updateCredentials _ _ _).requests = _ at appended
    rw [requests_updateCredentials] at appended
    exact absurd (List.self_eq_append_right.mp appended) asks
  | _ => exact absurd (List.self_eq_append_right.mp appended) asks

end

/-! ### Two schools with one provider

The first school has a key and a line, the second a key alone, and the third has no configuration.
-/

namespace Gateways

def host : Host where
  amootProvider := ⟨"platform", "1000"⟩
  kavenegarProvider := ⟨"", "10008000"⟩
  primaryProvider := .amoot
  configs := (Dict.empty.set 1 ⟨.amoot, some "first", some "+985000", none, none⟩).set 2
    ⟨.amoot, some "second", none, none, none⟩

def gateway : Gateway := fun _ => .ok { accepted := true }

def tenant (first second : Id) (i : Fin 2) : Option Id :=
  some (if i.val = 0 then first else second)

def message (first second : Id) (i : Fin 2) : SmsSendSingleOptions :=
  ⟨"09120000000", "hi", tenant first second i⟩

/-- A message for one school, and then one for another. -/
def calls (first second : Id) (i : Fin 2) : Call :=
  .dispatchSms "09120000000" "hi" (tenant first second i)

/-- The first call to its end, and then the other. -/
def inTurn : List (Move (Fin 2) Unit Empty) := moves ((List.finRange 2).flatMap (List.replicate 4))

/-- The gateway of an account that has only the default line. -/
def lineless : Gateway := fun requests => .ok
  (if requests.length = 1 then { accepted := false, lineNotExist := true } else { accepted := true })

end Gateways

open Gateways

/-- Two calls in step: the school without a configuration sends before the other's account is
written. -/
theorem ownAccounts_gateways :
    OwnAccounts Gateways.gateway Gateways.host (calls 3 1) (moves [0, 1, 0, 1, 0, 1, 1]) :=
  ownAccounts_of_fits (by decide +kernel)

/-- After the first school the second sends with its line, and the third with its account; and a
line that the account does not have gives way to the default one. -/
theorem not_ownAccounts :
    ¬ OwnAccounts Gateways.gateway Gateways.host (calls 1 2) inTurn ∧
      ¬ OwnAccounts Gateways.gateway Gateways.host (calls 1 3) inTurn ∧
      ¬ OwnAccounts Gateways.lineless Gateways.host (calls 1 1) (moves [0, 0, 0, 0]) := by
  have moments (gateway : Gateway) (first second : Id) (i : Fin 2)
      (history : List (Move (Fin 2) Unit Empty)) (requests : List GatewayRequest)
      (wrong : ∀ moment ∈ history.inits, requests ≠ (accountOf Gateways.host
        (configOf (run (smsStep gateway) (start Gateways.host (calls first second))
          moment).shared (tenant first second i))).requests (message first second i)) :
      ¬ ∃ config, Seen gateway Gateways.host (calls first second) (tenant first second i) i history
        config ∧ requests = (accountOf Gateways.host config).requests (message first second i) := by
    rintro ⟨config, ⟨moment, pre, -, rfl⟩, same⟩
    exact wrong moment ((List.mem_inits _ _).mpr pre) same
  refine ⟨fun own => ?_, fun own => ?_, fun own => ?_⟩
  · refine moments _ 1 2 1 (inTurn.take 7) [.sendSimple "second" "5000" "hi" "09120000000"]
      (by decide +kernel) (own _ 1 ⟨[], rfl⟩ _ _ _ rfl _ (by simp) ?_)
    decide +kernel
  · refine moments _ 1 3 1 (inTurn.take 6) [.sendSimple "first" "5000" "hi" "09120000000"]
      (by decide +kernel) (own _ 1 ⟨[.thread 1 ()], rfl⟩ _ _ _ rfl _ (by simp) ?_)
    decide +kernel
  · refine moments _ 1 1 0 (inTurn.take 3) [.sendSimple "first" "5000" "hi" "09120000000",
      .sendSimple "first" "98" "hi" "09120000000"]
      (by decide +kernel) (own _ 0 ⟨[], rfl⟩ _ _ _ rfl _ (by simp) ?_)
    decide +kernel

end Rokad.Sms
