import ApiGateway.Sdk.Sdk
import ApiGateway.Provider.Proto

/-!
`pkg/sdk/server.go`: the gRPC server `SDK.Run` starts.

`descriptionResponse` is the body of `Description`, built from the global
settings and the registered handlers; `handlerRequest` is the request
`Process` hands to the handler of the called method. A call gets through only
when `validateM2M` accepts its metadata. On an SDK a program can hold, the
server panics only when a handler's function answers a nil response
(`Reachable.process_panics_only_on_nil_response`).
-/

namespace ApiGateway

namespace Sdk

/-- A gRPC status code the server answers with. -/
inductive Code
  /-- `codes.Unknown`: what gRPC makes of a handler's plain error. -/
  | unknown
  | notFound
  | unauthenticated
deriving DecidableEq

/-- A gRPC status error. -/
structure Status where
  code : Code
  message : String
deriving DecidableEq

/-- Incoming gRPC metadata. -/
abbrev Metadata := GoMap String (List String)

/-- `sdk.server`, as `SDK.Run` registers it. -/
structure Server where
  tokenParser : Option TokenParser
  globalHandlerSettings : HandlerSettings
  handlers : GoMap String Handler

/-- The server `SDK.Run` starts. It holds the SDK's own handler map, not a
copy, so at every later state of the SDK `s.server` is the server that runs:
a handler written after `Run` is served (`Sdk.Concurrent`). -/
def server (s : Sdk) : Server := ⟨s.tokenParser, s.globalHandlerSettings, s.handlers⟩

@[simp] theorem server_handlers (s : Sdk) : s.server.handlers = s.handlers := rfl

@[simp] theorem server_tokenParser (s : Sdk) : s.server.tokenParser = s.tokenParser := rfl

@[simp] theorem server_globalHandlerSettings (s : Sdk) :
    s.server.globalHandlerSettings = s.globalHandlerSettings := rfl

/-! ### Converters -/

/-- `httpMethodToProto`. -/
def httpMethodToProto (method : HTTPMethod) : Pb.HttpMethod := .ofEnum method.val

/-- `httpMethodFromProto`. -/
def httpMethodFromProto (method : Pb.HttpMethod) : HTTPMethod := ⟨method.toEnum⟩

/-- `headersToProto`. -/
def headersToProto (headers : Header) : GoMap String Pb.HeaderValue := Pb.headerValues headers

/-- `headersFromProto`. -/
def headersFromProto (headers : GoMap String Pb.HeaderValue) : Header := Pb.headerLists headers

/-- `subjectInformationFromProto`: nil stays nil. -/
def subjectInformationFromProto : Option Pb.SubjectInformation → Option SubjectInformation
  | none => none
  | some info => some ⟨info.id, info.permissions⟩

/-- The `switch` of `rateLimiterToProto`: a value outside the two named ones
leaves the zero value. -/
def rateLimitByToProto (by_ : RateLimitDescriptionBy) : Pb.RateLimitBy :=
  if by_ = .ip then .ip
  else if by_ = .subjectId then .subjectId
  else .unspecified

/-- `rateLimiterToProto`. -/
def rateLimiterToProto : Option RateLimiterDescription → Option Pb.RateLimiter
  | none => none
  | some rateLimiter =>
    some ⟨rateLimitByToProto rateLimiter.by, rateLimiter.rate, rateLimiter.burst,
      some (Pb.Duration.new rateLimiter.period)⟩

/-- The `DescriptionMethod` that `Description` sends for a handler. -/
def descriptionMethod (method : Handler) : Pb.DescriptionMethod where
  method := method.method
  auditEnabled := method.settings.auditEnabled
  requiredAuthentication := method.settings.requiredAuthentication
  rateLimiter := rateLimiterToProto method.settings.rateLimiterDescription
  requiredPermissions := method.settings.requiredPermissions
  allowedHttpMethods := convertFunc httpMethodToProto method.allowedHTTPMethods

namespace Server

/-! ### The two operations -/

/-- `server.validateM2M`: with no token parser every call passes; otherwise
the first `x-m2m-token` value must parse. -/
def validateM2M (s : Server) (md : Option Metadata) : Bool :=
  match s.tokenParser, md with
  | none, _ => true
  | some _, none => false
  | some parser, some md =>
    match (md.get? "x-m2m-token").getD [] with
    | [] => false
    | val :: _ =>
      match parser val with
      | .error _ => false
      | .ok _ => true

/-- The first `x-m2m-token` value of a call's metadata, if there is one. -/
def firstM2MToken (md : Option Metadata) : Option String :=
  md.bind fun md => ((md.get? "x-m2m-token").getD []).head?

/-- A call passes exactly when there is no token parser, or the parser accepts
the call's first `x-m2m-token` value. -/
theorem validateM2M_eq_true {s : Server} {md : Option Metadata} :
    s.validateM2M md = true ↔ s.tokenParser = none ∨
      ∃ parser val subject, s.tokenParser = some parser ∧ firstM2MToken md = some val ∧
        parser val = .ok subject := by
  unfold validateM2M firstM2MToken
  split
  next hp => simp [hp]
  next hp => simp [hp]
  next parser md hp =>
    split
    next hv => simp [hp, hv]
    next val rest hv =>
      split <;> rename_i hparse <;> simp [hp, hv, hparse]

/-- The response `Description` sends; the handlers go out in the map's
order. -/
def descriptionResponse (s : Server) : Pb.DescriptionResponse where
  auditEnabled := s.globalHandlerSettings.auditEnabled
  requiredAuthentication := s.globalHandlerSettings.requiredAuthentication
  rateLimiter := rateLimiterToProto s.globalHandlerSettings.rateLimiterDescription
  requiredPermissions := s.globalHandlerSettings.requiredPermissions
  methods := s.handlers.entries.map fun e => descriptionMethod e.2

/-- `server.Description`. -/
def description (s : Server) (md : Option Metadata) : Except Status Pb.DescriptionResponse :=
  if s.validateM2M md then .ok s.descriptionResponse
  else .error ⟨.unauthenticated, "Failed to validate M2M token"⟩

/-- The request `Process` hands to the handler; `parseQuery` is the values
`url.ParseQuery` returns, its error ignored. -/
def handlerRequest (parseQuery : String → Values) (req : Pb.ProcessRequest) : ProcessRequest where
  httpMethod := httpMethodFromProto req.httpMethod
  path := req.path
  query := parseQuery req.query
  body := req.body
  headers := headersFromProto req.headers
  subjectInformation := subjectInformationFromProto req.subjectInformation

/-- `server.Process`: a panic (a nil handler function or a nil response), or
the status error or the response the gateway receives. -/
def process (parseQuery : String → Values) (s : Server) (md : Option Metadata)
    (req : Pb.ProcessRequest) : Except Panic (Except Status Pb.ProcessResponse) :=
  if !s.validateM2M md then .ok (.error ⟨.unauthenticated, "Failed to validate M2M token"⟩)
  else match s.handlers.get? req.apiMethod with
    | none => .ok (.error ⟨.notFound, "API method not found"⟩)
    | some handler =>
      match handler.processFunc with
      | none => .error .nilPointerDereference
      | some processFunc =>
        match processFunc (handlerRequest parseQuery req) with
        | .error err => .ok (.error ⟨.unknown, err⟩)
        | .ok none => .error .nilPointerDereference
        | .ok (some resp) =>
          .ok (.ok ⟨resp.body, toUInt32 resp.statusCode, headersToProto resp.headers⟩)

end Server

/-- An `auth.New` whose parser accepts no token. -/
def rejectingAuth (_ _ : String) : Except String TokenParser := .ok fun _ => .error "token is malformed"

/-- **M2M validation follows the Auth0 options, not `M2MValidation`**: for an
SDK that `New` builds with an Auth0 domain or audience, both `Description` and
`Process` let a call through exactly when the parser accepts its first
`x-m2m-token` value. This holds whatever `M2MValidation` says, since `New`
stores the flag and nothing reads it. -/
theorem validateM2M_ignores_m2mValidation {authNew : String → String → Except String TokenParser}
    {opts : NewOptions} {s : Sdk} (hnew : new authNew opts = .ok s)
    (hauth : opts.auth0Domain ≠ "" ∨ opts.auth0Audience ≠ "") (md : Option Metadata) :
    s.server.validateM2M md = true ↔
      ∃ parser val subject, authNew opts.auth0Domain opts.auth0Audience = .ok parser ∧
        Server.firstM2MToken md = some val ∧ parser val = .ok subject := by
  have hp := new_tokenParser hnew
  rw [if_pos hauth] at hp
  obtain ⟨parser, hparser, hs⟩ := hp
  simp [Server.validateM2M_eq_true, hs, hparser]

/-- A backend that turns M2M validation off but gives its Auth0 domain. -/
def unvalidatedOptions : NewOptions :=
  ⟨":8081", "tenant.example.com", "", false, ⟨false, none, false, []⟩, [], Duration.second, some ⟨⟩⟩

/-- With `M2MValidation` off, the SDK still refuses a call that carries no
metadata. -/
theorem unvalidated_sdk_refuses_call_without_token :
    unvalidatedOptions.m2mValidation = false ∧
      ∃ s, new rejectingAuth unvalidatedOptions = .ok s ∧ s.server.validateM2M none = false :=
  ⟨rfl, _, rfl, Bool.eq_false_iff.mpr fun h => by
    obtain ⟨_, _, _, -, hv, -⟩ := (@validateM2M_ignores_m2mValidation rejectingAuth unvalidatedOptions _
      rfl (.inl (by decide)) none).mp h
    cases hv⟩

end Sdk

end ApiGateway
