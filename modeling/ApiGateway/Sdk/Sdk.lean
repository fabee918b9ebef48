import ApiGateway.Domain

/-!
`pkg/sdk`: the library a backend uses to serve the gateway.

A backend describes itself with global `HandlerSettings` and one `Handler` per
API method; `New` validates the options and registers the handlers, and
`RegisterHandler` adds more until `Run` starts the server. The SDK's states
are the `Reachable` ones, and on each of them the handler map is keyed by the
handlers' own method names and holds only validated handlers
(`Reachable.inv`), and the global settings pass `validate`
(`Reachable.globalHandlerSettings_validate`). What a registered handler
receives and what the server answers are in `Sdk.Server`.

Registration is first-wins, and once `Run` has set its flag no call succeeds
(`Step.handlers_first_wins_until_run`). `Run` sets the flag even when it then
fails to listen, which leaves the SDK unusable. These are calls made one after
the other; `Sdk.Concurrent` interleaves them.
-/

namespace ApiGateway

namespace Sdk

/-- `sdk.HTTPMethod`, a `uint8` enum:
`ENUM(unspecified, get, put, post, delete, patch)`. -/
structure HTTPMethod where
  val : UInt8
deriving DecidableEq

namespace HTTPMethod

def unspecified : HTTPMethod := ⟨0⟩
def get : HTTPMethod := ⟨1⟩
def put : HTTPMethod := ⟨2⟩
def post : HTTPMethod := ⟨3⟩
def delete : HTTPMethod := ⟨4⟩
def patch : HTTPMethod := ⟨5⟩

end HTTPMethod

/-- `sdk.RateLimitDescriptionBy`, a `uint8` enum: `ENUM(ip, subject_id)`. -/
structure RateLimitDescriptionBy where
  val : UInt8
deriving DecidableEq

def RateLimitDescriptionBy.ip : RateLimitDescriptionBy := ⟨0⟩
def RateLimitDescriptionBy.subjectId : RateLimitDescriptionBy := ⟨1⟩

/-- `sdk.RateLimiterDescription`. -/
structure RateLimiterDescription where
  «by» : RateLimitDescriptionBy
  rate : UInt64
  burst : UInt64
  period : Duration
deriving DecidableEq

/-- `RateLimiterDescription.validate`. -/
def RateLimiterDescription.validate (r : RateLimiterDescription) : Except String Unit :=
  if r.rate = 0 then .error "rate cannot be 0"
  else if r.burst = 0 then .error "burst cannot be 0"
  else if r.period.nanoseconds ≤ 0 then .error "period cannot be less or equal than 0"
  else .ok ()

theorem RateLimiterDescription.validate_eq_ok {r : RateLimiterDescription} :
    r.validate = .ok () ↔ r.rate ≠ 0 ∧ r.burst ≠ 0 ∧ 0 < r.period.nanoseconds := by
  unfold RateLimiterDescription.validate
  split_ifs <;> simp_all

/-- `sdk.HandlerSettings`. -/
structure HandlerSettings where
  auditEnabled : Bool
  rateLimiterDescription : Option RateLimiterDescription
  requiredAuthentication : Bool
  requiredPermissions : List String
deriving DecidableEq

/-- `HandlerSettings.validate`. -/
def HandlerSettings.validate (s : HandlerSettings) : Except String Unit :=
  match s.rateLimiterDescription.map RateLimiterDescription.validate with
  | some (.error err) => .error ("invalid rate limiter description: " ++ err)
  | _ => .ok ()

theorem HandlerSettings.validate_eq_ok {s : HandlerSettings} :
    s.validate = .ok () ↔ ∀ l ∈ s.rateLimiterDescription, l.validate = .ok () := by
  unfold HandlerSettings.validate
  rcases s.rateLimiterDescription with _ | l
  · simp
  · cases hl : l.validate <;> simp [hl]

/-- `sdk.SubjectInformation`. -/
structure SubjectInformation where
  id : String
  permissions : List String
deriving DecidableEq

/-- `url.Values`. -/
abbrev Values := GoMap String (List String)

/-- `sdk.ProcessRequest`: what a handler receives. -/
structure ProcessRequest where
  httpMethod : HTTPMethod
  path : String
  query : Values
  body : Bytes
  headers : Header
  subjectInformation : Option SubjectInformation
deriving DecidableEq

/-- `sdk.ProcessResponse`. -/
structure ProcessResponse where
  body : Bytes
  statusCode : Int
  headers : Header
deriving DecidableEq

/-- `sdk.HandlerFunc`: a response, `none` where it is nil, or an error. -/
abbrev HandlerFunc := ProcessRequest → Except String (Option ProcessResponse)

/-- `sdk.Handler`; `processFunc` is `none` where the Go field is nil. -/
structure Handler where
  method : String
  settings : HandlerSettings
  allowedHTTPMethods : List HTTPMethod
  processFunc : Option HandlerFunc

/-- `Handler.validate`. -/
def Handler.validate (h : Handler) : Except String Unit :=
  if h.method = "" then .error "method is required"
  else match h.settings.validate with
    | .error err => .error ("invalid handler settings: " ++ err)
    | .ok () => if h.processFunc.isNone then .error "process function is required" else .ok ()

theorem Handler.validate_settings {h : Handler} (hv : h.validate = .ok ()) :
    h.settings.validate = .ok () := by
  cases hs : h.settings.validate with
  | ok u => rfl
  | error err =>
    unfold Handler.validate at hv
    rw [hs] at hv
    split_ifs at hv

/-- The `tokenParser` the SDK checks M2M tokens with. -/
abbrev TokenParser := String → Except String ApiGateway.SubjectInformation

/-- `*slog.Logger`: the model does not log, it only tells a nil logger apart. -/
structure Logger

/-- `sdk.NewOptions`. -/
structure NewOptions where
  serverAddress : String
  auth0Domain : String
  auth0Audience : String
  m2mValidation : Bool
  globalHandlerSettings : HandlerSettings
  handlers : List Handler
  serverCloseTimeout : Duration
  logger : Option Logger

namespace NewOptions

/-- `NewOptions.setDefault`. -/
def setDefault (opts : NewOptions) : NewOptions :=
  { opts with
    serverAddress := if opts.serverAddress = "" then ":8081" else opts.serverAddress
    serverCloseTimeout :=
      if opts.serverCloseTimeout.nanoseconds ≤ 0 then ⟨10000000000, by omega, by omega⟩
      else opts.serverCloseTimeout
    logger := some (opts.logger.getD ⟨⟩) }

/-- The first handler `validate` rejects, with its error. -/
def firstInvalidHandler : List Handler → Option String
  | [] => none
  | h :: hs =>
    match h.validate with
    | .error err => some err
    | .ok () => firstInvalidHandler hs

/-- `NewOptions.validate`. -/
def validate (opts : NewOptions) : Except String Unit :=
  if opts.serverAddress = "" then .error "server address is required"
  else if opts.m2mValidation ∧ opts.auth0Domain = "" then .error "auth0 domain is required"
  else if opts.m2mValidation ∧ opts.auth0Audience = "" then .error "auth0 audience is required"
  else match opts.globalHandlerSettings.validate, firstInvalidHandler opts.handlers with
    | .error err, _ => .error ("failed to validate handlers settings: " ++ err)
    | .ok (), some err => .error ("failed to validate handler: " ++ err)
    | .ok (), none =>
      if opts.serverCloseTimeout.nanoseconds ≤ 0 then .error "server close-timeout is required"
      else if opts.logger.isNone then .error "logger is required"
      else .ok ()

end NewOptions

end Sdk

/-- `sdk.SDK`. -/
structure Sdk where
  serverAddress : String
  tokenParser : Option Sdk.TokenParser
  m2mValidation : Bool
  globalHandlerSettings : Sdk.HandlerSettings
  handlers : GoMap String Sdk.Handler
  serverCloseTimeout : Duration
  logger : Option Sdk.Logger
  run : Bool

namespace Sdk

/-- `SDK.RegisterHandler`. -/
def registerHandler (s : Sdk) (h : Handler) : Except String Sdk :=
  if s.run then .error "already running"
  else match h.validate with
    | .error err => .error ("failed to validate handler: " ++ err)
    | .ok () =>
      if (s.handlers.get? h.method).isSome then .error "handler already registered"
      else .ok { s with handlers := s.handlers.insert h.method h }

/-- The loop of `New` that registers the option's handlers in order. -/
def registerHandlers (s : Sdk) : List Handler → Except String Sdk
  | [] => .ok s
  | h :: hs =>
    match s.registerHandler h with
    | .error err => .error ("failed to register handler for method " ++ h.method ++ ": " ++ err)
    | .ok s => registerHandlers s hs

/-- `sdk.New`. `authNew` is `auth.New`, which builds the token parser for a
domain and an audience. -/
def new (authNew : String → String → Except String TokenParser) (opts : NewOptions) :
    Except String Sdk :=
  let opts := opts.setDefault
  match opts.validate with
  | .error err => .error ("invalid options: " ++ err)
  | .ok () =>
    let tokenParser : Except String (Option TokenParser) :=
      if opts.auth0Domain ≠ "" ∨ opts.auth0Audience ≠ "" then
        match authNew opts.auth0Domain opts.auth0Audience with
        | .error err => .error ("failed to create auth: " ++ err)
        | .ok parser => .ok (some parser)
      else .ok none
    match tokenParser with
    | .error err => .error err
    | .ok tokenParser =>
      registerHandlers ⟨opts.serverAddress, tokenParser, opts.m2mValidation,
        opts.globalHandlerSettings, ∅, opts.serverCloseTimeout, opts.logger, false⟩ opts.handlers

/-- The start of `SDK.Run`: `s.run.Swap(true)`. -/
def startRun (s : Sdk) : Except String Sdk :=
  if s.run then .error "already running" else .ok { s with run := true }

/-- The SDK states a program can hold: built by `New`, then changed by
`RegisterHandler` and `Run`. -/
inductive Reachable : Sdk → Prop
  | new {authNew : String → String → Except String TokenParser} {opts : NewOptions} {s : Sdk} :
      new authNew opts = .ok s → Reachable s
  | registerHandler {s s' : Sdk} {h : Handler} :
      Reachable s → s.registerHandler h = .ok s' → Reachable s'
  | startRun {s s' : Sdk} : Reachable s → s.startRun = .ok s' → Reachable s'

/-- The handler map is keyed by each handler's method and holds only handlers
that pass `validate`. -/
def Inv (s : Sdk) : Prop :=
  ∀ k h, s.handlers.get? k = some h → h.method = k ∧ h.validate = .ok ()

theorem registerHandler_eq_ok {s s' : Sdk} {h : Handler} (hr : s.registerHandler h = .ok s') :
    h.validate = .ok () ∧ s' = { s with handlers := s.handlers.insert h.method h } := by
  unfold registerHandler at hr
  split at hr
  · cases hr
  · split at hr
    · cases hr
    · rename_i hv
      split at hr
      · cases hr
      · exact ⟨hv, (Except.ok.inj hr).symm⟩

theorem Inv.registerHandler {s s' : Sdk} {h : Handler} (hi : s.Inv)
    (hr : s.registerHandler h = .ok s') : s'.Inv := by
  obtain ⟨hv, rfl⟩ := registerHandler_eq_ok hr
  intro k h' hk
  simp only [GoMap.get?_insert] at hk
  split at hk
  next hk' => cases hk; exact ⟨hk'.symm, hv⟩
  next => exact hi k h' hk

theorem Inv.registerHandlers {s s' : Sdk} {hs : List Handler} (hi : s.Inv)
    (hr : s.registerHandlers hs = .ok s') : s'.Inv := by
  induction hs generalizing s with
  | nil => cases hr; exact hi
  | cons h hs ih =>
    unfold Sdk.registerHandlers at hr
    split at hr
    · cases hr
    · exact ih (hi.registerHandler ‹_›) hr

theorem new_inv {authNew : String → String → Except String TokenParser} {opts : NewOptions}
    {s : Sdk} (h : new authNew opts = .ok s) : s.Inv := by
  unfold new at h
  dsimp only at h
  split at h
  · cases h
  · split at h
    · cases h
    · exact Inv.registerHandlers (fun k h' hk => by simp at hk) h

theorem registerHandlers_tokenParser {s s' : Sdk} {hs : List Handler}
    (hr : s.registerHandlers hs = .ok s') : s'.tokenParser = s.tokenParser := by
  induction hs generalizing s with
  | nil => cases hr; rfl
  | cons h hs ih =>
    unfold Sdk.registerHandlers at hr
    split at hr
    · cases hr
    · rename_i s₁ h₁
      obtain ⟨-, rfl⟩ := registerHandler_eq_ok h₁
      rw [ih hr]

/-- `New` builds a token parser exactly when an Auth0 domain or audience is
given, whatever `M2MValidation` says. -/
theorem new_tokenParser {authNew : String → String → Except String TokenParser} {opts : NewOptions}
    {s : Sdk} (h : new authNew opts = .ok s) :
    if opts.auth0Domain ≠ "" ∨ opts.auth0Audience ≠ "" then
      ∃ parser, authNew opts.auth0Domain opts.auth0Audience = .ok parser ∧ s.tokenParser = some parser
    else s.tokenParser = none := by
  unfold new at h
  simp only [NewOptions.setDefault] at h
  split at h <;> [cases h; skip]
  split at h <;> [cases h; skip]
  next tp htp =>
  rw [registerHandlers_tokenParser h]
  split at htp
  next hc =>
    rw [if_pos hc]
    split at htp <;> cases htp
    next parser hp => exact ⟨parser, hp, rfl⟩
  next hc => cases htp; rw [if_neg hc]

theorem registerHandlers_globalHandlerSettings {s s' : Sdk} {hs : List Handler}
    (hr : s.registerHandlers hs = .ok s') : s'.globalHandlerSettings = s.globalHandlerSettings := by
  induction hs generalizing s with
  | nil => cases hr; rfl
  | cons h hs ih =>
    unfold Sdk.registerHandlers at hr
    split at hr
    · cases hr
    · rename_i s₁ h₁
      obtain ⟨-, rfl⟩ := registerHandler_eq_ok h₁
      rw [ih hr]

/-- **Every reachable SDK keeps its handler map well keyed and validated.** -/
theorem Reachable.inv {s : Sdk} (h : Reachable s) : s.Inv := by
  induction h with
  | new h => exact new_inv h
  | registerHandler _ hr ih => exact ih.registerHandler hr
  | startRun _ hr ih =>
    unfold Sdk.startRun at hr
    split at hr
    · cases hr
    · cases hr; exact ih

/-- Everything `RegisterHandler` checks before its write. -/
theorem registerHandler_cases {s s' : Sdk} {h : Handler} (hr : s.registerHandler h = .ok s') :
    s.run = false ∧ s.handlers.get? h.method = none ∧
      s' = { s with handlers := s.handlers.insert h.method h } := by
  unfold registerHandler at hr
  split at hr <;> [cases hr; skip]
  next hrun =>
  split at hr <;> [cases hr; skip]
  split at hr <;> [cases hr; skip]
  next hnew =>
  exact ⟨Bool.eq_false_iff.mpr hrun, Option.not_isSome_iff_eq_none.mp hnew, (Except.ok.inj hr).symm⟩

theorem startRun_eq_ok {s s' : Sdk} (hr : s.startRun = .ok s') :
    s.run = false ∧ s' = { s with run := true } := by
  unfold startRun at hr
  split at hr
  · cases hr
  · exact ⟨Bool.eq_false_iff.mpr ‹_›, (Except.ok.inj hr).symm⟩

/-- `New` accepts only global settings that pass `validate`. -/
theorem NewOptions.validate_globalHandlerSettings {opts : NewOptions} (h : opts.validate = .ok ()) :
    opts.globalHandlerSettings.validate = .ok () := by
  cases hg : opts.globalHandlerSettings.validate with
  | ok u => rfl
  | error err =>
    unfold NewOptions.validate at h
    simp only [hg] at h
    split_ifs at h

theorem new_globalHandlerSettings {authNew : String → String → Except String TokenParser}
    {opts : NewOptions} {s : Sdk} (h : new authNew opts = .ok s) :
    s.globalHandlerSettings.validate = .ok () := by
  unfold new at h
  dsimp only at h
  split at h <;> [cases h; skip]
  next hv =>
  split at h <;> [cases h; skip]
  rw [registerHandlers_globalHandlerSettings h]
  exact NewOptions.validate_globalHandlerSettings hv

/-- The global settings of every reachable SDK pass `validate`. -/
theorem Reachable.globalHandlerSettings_validate {s : Sdk} (h : Reachable s) :
    s.globalHandlerSettings.validate = .ok () := by
  induction h with
  | new h => exact new_globalHandlerSettings h
  | registerHandler _ hr ih => rw [(registerHandler_eq_ok hr).2]; exact ih
  | startRun _ hr ih => rw [(startRun_eq_ok hr).2]; exact ih

/-! ### Registration and `Run` -/

/-- One successful call on an SDK a program holds. A failed `RegisterHandler`
returns before its write; a `Run` whose listen then fails has already set the
flag, which `startRun` is. -/
inductive Step : Sdk → Sdk → Prop
  | registerHandler {s s' : Sdk} (h : Handler) : s.registerHandler h = .ok s' → Step s s'
  | startRun {s s' : Sdk} : s.startRun = .ok s' → Step s s'

/-- A call succeeds only before `Run`, and keeps every registered handler. -/
theorem Step.before_run_keeps_handlers {s s' : Sdk} (h : Step s s') :
    s.run = false ∧ ∀ k v, s.handlers.get? k = some v → s'.handlers.get? k = some v := by
  cases h with
  | registerHandler h hr =>
    obtain ⟨hrun, hnew, rfl⟩ := registerHandler_cases hr
    refine ⟨hrun, fun k v hk => ?_⟩
    rw [GoMap.get?_insert, if_neg fun hkm => by simp [hkm, hnew] at hk]
    exact hk
  | startRun hr =>
    obtain ⟨hrun, rfl⟩ := startRun_eq_ok hr
    exact ⟨hrun, fun _ _ => id⟩

/-- **Registration is first-wins and ends at `Run`**: along any sequence of
successful calls, a registered handler is never replaced or removed, and once
`Run` has set the flag no call succeeds, so the server serves the handlers
registered before `Run`, and a `Run` that failed to listen leaves the SDK
unusable. -/
theorem Step.handlers_first_wins_until_run {s s' : Sdk} (h : Relation.ReflTransGen Step s s') :
    (∀ k v, s.handlers.get? k = some v → s'.handlers.get? k = some v) ∧ (s.run = true → s' = s) := by
  induction h with
  | refl => exact ⟨fun _ _ => id, fun _ => rfl⟩
  | tail _ step ih =>
    obtain ⟨hrun, hkeep⟩ := step.before_run_keeps_handlers
    refine ⟨fun k v hk => hkeep k v (ih.1 k v hk), fun hs => ?_⟩
    rw [ih.2 hs, hs] at hrun
    cases hrun

/-- A valid handler for the method `ping`, answering nothing. -/
def pingHandler : Handler := ⟨"ping", ⟨false, none, false, []⟩, [.get], some fun _ => .ok none⟩

/-- An SDK without an Auth0 parser that has registered `pingHandler` and not
yet run. -/
def pingSdk : Sdk :=
  ⟨":8081", none, false, ⟨false, none, false, []⟩, (∅ : GoMap String Handler).insert "ping" pingHandler,
    Duration.second, some ⟨⟩, false⟩

theorem ping_kept_after_run :
    Relation.ReflTransGen Step pingSdk { pingSdk with run := true } ∧
      (∀ k v, pingSdk.handlers.get? k = some v → ({ pingSdk with run := true } : Sdk).handlers.get? k = some v) ∧
      (pingSdk.run = true → ({ pingSdk with run := true } : Sdk) = pingSdk) :=
  have steps : Relation.ReflTransGen Step pingSdk { pingSdk with run := true } := .single (.startRun rfl)
  ⟨steps, Step.handlers_first_wins_until_run steps⟩

end Sdk

end ApiGateway
