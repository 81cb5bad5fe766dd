import Rokad.Base.Dict
import Rokad.Base.Process
import Rokad.Base.Text
import Rokad.Common.Http

/-!
# Text messages

`SmsService` with the providers it sends through. The providers are objects of the host that all
schools share, each with the credentials last given to it; a school's own credentials stand in its
gateway configuration. A call is a program over steps that are atomic: reads and writes of the
database, updates of a provider, and the sending of one message.

What a gateway answers is a parameter: a function of the requests made so far.
-/

namespace Rokad.Sms

open Rokad.Base Rokad.Common

/-! ### Phone numbers and lines -/

/-- `s.length` -/
def jsLength (s : String) : ℕ := (s.toList.map fun c => if 0x10000 ≤ c.toNat then 2 else 1).sum

def startsWith (s start : String) : Bool := start.toList.isPrefixOf s.toList

def substring (s : String) (n : ℕ) : String := String.ofList (s.toList.drop n)

/-- `rawPhone.trim().replace(/[\s\-\(\)]/g, '')` -/
def cleanPhone (rawPhone : String) : String :=
  String.ofList ((trim rawPhone).toList.filter fun c => !(isSpace c || "-()".toList.contains c))

/-- Persian and Arabic digits as English ones. -/
def asciiDigit (c : Char) : Char :=
  let n := c.toNat
  if 1776 ≤ n ∧ n ≤ 1785 then Char.ofNat (n - 1776 + 48)
  else if 1632 ≤ n ∧ n ≤ 1641 then Char.ofNat (n - 1632 + 48) else c

def normalizeIranianSenderLine (rawLine : Option String) : String :=
  match truthy rawLine with
  | none => ""
  | some line =>
    let cleaned := String.ofList ((cleanPhone line).toList.map asciiDigit)
    if cleaned ∈ ["98", "+98", "Public", "Service"] then "98"
    else if startsWith cleaned "+98" then cleaned
    else if startsWith cleaned "0098" then "+98" ++ substring cleaned 4
    else if startsWith cleaned "98" ∧ 8 < jsLength cleaned then "+" ++ cleaned
    else if startsWith cleaned "0" then "+98" ++ substring cleaned 1
    else "+98" ++ cleaned

/-! ### Providers -/

inductive ProviderName where
  | amoot | kavenegar | sandbox
deriving DecidableEq

structure Credentials where
  (apiKey senderLine : String)
deriving DecidableEq

structure SmsSendSingleOptions where
  (recipient message : String)
  tenantId : Option Id

structure SmsSendResult where
  success : Bool
  provider : ProviderName
  errorMessage : Option String := none

inductive GatewayRequest where
  | sendSimple (token lineNumber smsMessageText mobiles : String)
  | kavenegarSend (apiKey sender receptor message : String)
deriving DecidableEq

structure GatewayResponse where
  accepted : Bool
  lineNotExist : Bool := false
  description : Option String := none

/-- The answer to the last of the requests, or the message of the error. -/
abbrev Gateway := List GatewayRequest → Except String GatewayResponse

section

variable (gateway : Gateway) (history : List GatewayRequest) (credentials : Credentials)
  (options : SmsSendSingleOptions)

def amootLine (senderLine : String) : String :=
  let lineToSend := (truthy (some (trim senderLine))).getD "98"
  if lineToSend ∈ ["+98", "Public", "Service"] then "98"
  else if startsWith lineToSend "+98" then substring lineToSend 3 else lineToSend

def amootPhone (recipient : String) : String :=
  let cleaned := onlyDigits recipient
  if startsWith cleaned "989" then "0" ++ substring cleaned 2
  else if startsWith cleaned "00989" then "0" ++ substring cleaned 4
  else if startsWith cleaned "9" ∧ cleaned.length = 10 then "0" ++ cleaned
  else cleaned

def amootRequest (lineNumber : String) : GatewayRequest :=
  .sendSimple credentials.apiKey lineNumber options.message (amootPhone options.recipient)

/-- The gateway answers that the account does not have its line, and this is not the default. -/
def amootRetries : Bool :=
  let lineToSend := amootLine credentials.senderLine
  lineToSend ≠ "98" &&
    match gateway (history ++ [amootRequest credentials options lineToSend]) with
    | .ok data => data.lineNotExist
    | .error _ => false

/-- The requests made and the result. A line that the account does not have is replaced by the
default. -/
def amootSend : List GatewayRequest × SmsSendResult :=
  if credentials.apiKey = "" then
    ([], { success := false, provider := .amoot
           errorMessage := some "کلید API آموت تنظیم نشده است." })
  else
    let lineToSend := amootLine credentials.senderLine
    let request := amootRequest credentials options
    let result : Except String GatewayResponse → SmsSendResult
      | .ok data =>
        if data.accepted then { success := true, provider := .amoot }
        else { success := false, provider := .amoot
               errorMessage := some (data.description.getD "خطا در وب‌سرویس آموت") }
      | .error message =>
        { success := false, provider := .amoot, errorMessage := some message }
    let requests := if amootRetries gateway history credentials options
      then [request lineToSend, request "98"] else [request lineToSend]
    (requests, result (gateway (history ++ requests)))

def kavenegarRequest : GatewayRequest :=
  .kavenegarSend credentials.apiKey credentials.senderLine options.recipient options.message

def kavenegarSend : List GatewayRequest × SmsSendResult :=
  if credentials.apiKey = "" then ([], { success := true, provider := .kavenegar })
  else
    let request := kavenegarRequest credentials options
    match gateway (history ++ [request]) with
    | .ok data =>
      if data.accepted then ([request], { success := true, provider := .kavenegar })
      else
        ([request], { success := false, provider := .kavenegar
                      errorMessage := some (data.description.getD "Kavenegar error response") })
    | .error message =>
      ([request], { success := false, provider := .kavenegar, errorMessage := some message })

def sendSingle : ProviderName → List GatewayRequest × SmsSendResult
  | .amoot => amootSend gateway history credentials options
  | .kavenegar => kavenegarSend gateway history credentials options
  | .sandbox => ([], { success := true, provider := .sandbox })

end

/-! ### The host and its database -/

structure SmsGatewayConfig where
  provider : ProviderName
  (amootApiKey amootSenderLine kavenegarApiKey kavenegarSenderLine : Option String := none)

/-- The providers as they are set at a moment, the configurations of the schools, and what the
gateways have been asked. -/
structure Host where
  (amootProvider kavenegarProvider : Credentials)
  primaryProvider : ProviderName
  configs : Dict Id SmsGatewayConfig := .empty
  requests : List GatewayRequest := []

namespace Host

def credentials (host : Host) : ProviderName → Credentials
  | .amoot => host.amootProvider
  | .kavenegar => host.kavenegarProvider
  | .sandbox => ⟨"", ""⟩

/-- `updateCredentials`: a sender line that is not given stays as it is. -/
def updateCredentials (host : Host) (provider : ProviderName) (apiKey : String)
    (senderLine : Option String) : Host :=
  let updated : Credentials := ⟨apiKey, senderLine.getD (host.credentials provider).senderLine⟩
  match provider with
  | .amoot => { host with amootProvider := updated }
  | .kavenegar => { host with kavenegarProvider := updated }
  | .sandbox => host

end Host

/-- What `updateGatewayConfig` takes. -/
structure GatewayConfigDto where
  provider : ProviderName
  (amootApiKey amootSenderLine kavenegarApiKey kavenegarSenderLine : Option String := none)

/-- What is stored; columns that are not given stay as they are. -/
def GatewayConfigDto.store (dto : GatewayConfigDto) (stored : Option SmsGatewayConfig) :
    SmsGatewayConfig where
  provider := dto.provider
  amootApiKey := dto.amootApiKey <|> stored.bind (·.amootApiKey)
  amootSenderLine := dto.amootSenderLine <|> stored.bind (·.amootSenderLine)
  kavenegarApiKey := dto.kavenegarApiKey <|> stored.bind (·.kavenegarApiKey)
  kavenegarSenderLine := dto.kavenegarSenderLine <|> stored.bind (·.kavenegarSenderLine)

/-! ### Steps -/

inductive SmsOp where
  | primaryProvider
  | setPrimaryProvider (provider : ProviderName)
  | findConfig (tenantId : Id)
  | upsertConfig (tenantId : Id) (dto : GatewayConfigDto)
  | updateCredentials (provider : ProviderName) (apiKey : String) (senderLine : Option String)
  | sendSingle (provider : ProviderName) (options : SmsSendSingleOptions)

abbrev SmsOp.Answer : SmsOp → Type
  | .primaryProvider => ProviderName
  | .findConfig _ => Option SmsGatewayConfig
  | .sendSingle _ _ => SmsSendResult
  | _ => Unit

abbrev SmsProg := Prog SmsOp SmsOp.Answer Failure

def SmsOp.exec (gateway : Gateway) : (op : SmsOp) → Host → Host × op.Answer
  | .primaryProvider, host => (host, host.primaryProvider)
  | .setPrimaryProvider provider, host => ({ host with primaryProvider := provider }, ())
  | .findConfig tenantId, host => (host, host.configs.get? tenantId)
  | .upsertConfig tenantId dto, host =>
    ({ host with configs := host.configs.set tenantId (dto.store (host.configs.get? tenantId)) },
      ())
  | .updateCredentials provider apiKey senderLine, host =>
    (host.updateCredentials provider apiKey senderLine, ())
  | .sendSingle provider options, host =>
    let (requests, result) :=
      Sms.sendSingle gateway host.requests (host.credentials provider) options provider
    ({ host with requests := host.requests ++ requests }, result)

def perform (op : SmsOp) : SmsProg op.Answer := Prog.call op

/-! ### Calls -/

/-- The credentials a configuration holds for its provider. -/
def SmsGatewayConfig.credentials (config : SmsGatewayConfig) : Credentials :=
  match config.provider with
  | .amoot => ⟨config.amootApiKey.getD "", config.amootSenderLine.getD ""⟩
  | .kavenegar => ⟨config.kavenegarApiKey.getD "", config.kavenegarSenderLine.getD ""⟩
  | .sandbox => ⟨"", ""⟩

/-- The provider of a configuration gets its credentials, if there is a key. -/
def useConfig (config : SmsGatewayConfig) : SmsProg Unit :=
  match truthy (some config.credentials.apiKey) with
  | some apiKey =>
    perform (.updateCredentials config.provider apiKey
      (truthy (some config.credentials.senderLine)))
  | none => pure ()

def dispatchSms (recipient message : String) (tenantId : Option Id) : SmsProg SmsSendResult := do
  let primaryProvider ← perform .primaryProvider
  let options : SmsSendSingleOptions := ⟨recipient, message, tenantId⟩
  match tenantId with
  | none => perform (.sendSingle primaryProvider options)
  | some id =>
    let tenantConfig ← perform (.findConfig id)
    match tenantConfig with
    | none => perform (.sendSingle primaryProvider options)
    | some config =>
      useConfig config
      perform (.sendSingle config.provider options)

structure GatewayUpdate where
  activeProvider : ProviderName
  formattedSenderLine : Option String

/-- A line that is given is stored in its normal form. -/
def GatewayConfigDto.formatted (dto : GatewayConfigDto) : GatewayConfigDto :=
  let format (line : Option String) : Option String :=
    line.map fun line => normalizeIranianSenderLine (some line)
  { dto with
    amootSenderLine := format dto.amootSenderLine
    kavenegarSenderLine := format dto.kavenegarSenderLine }

def giveCredentials (provider : ProviderName) (apiKey senderLine : Option String) : SmsProg Unit :=
  match apiKey with
  | some apiKey => perform (.updateCredentials provider apiKey senderLine)
  | none => pure ()

def updateGatewayConfig (dto : GatewayConfigDto) (tenantId : Option Id) :
    SmsProg GatewayUpdate := do
  let formatted := dto.formatted
  giveCredentials .amoot formatted.amootApiKey formatted.amootSenderLine
  giveCredentials .kavenegar formatted.kavenegarApiKey formatted.kavenegarSenderLine
  perform (.setPrimaryProvider dto.provider)
  match tenantId with
  | some id => perform (.upsertConfig id formatted)
  | none => pure ()
  let activeProvider ← perform .primaryProvider
  return ⟨activeProvider, formatted.amootSenderLine⟩

end Rokad.Sms
