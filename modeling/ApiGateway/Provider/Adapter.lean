import ApiGateway.Provider.Proto
import ApiGateway.Processor.Audit
import ApiGateway.M2m

/-!
`internal/clients/provider`: the gateway's gRPC client of a backend.

The adapters convert between the domain records and the wire messages;
`description` and `process` are the client's two operations, given the
backend's answer (`rpc`). The client converts without checking:

* `descriptionFromProto` keeps a declared limiter's rate and burst as sent,
  so a limit of 2^63 or more reaches `redisLimiter.Allow`, whose `int(...)`
  turns it negative (`oversized_rate_reaches_redis`);
* `subjectInformationToProto` dereferences the subject, so `process` panics
  exactly on requests without one (`process_eq_error_iff`), and the processor
  forwards such requests for public methods
  (`public_request_without_token_panics`).
-/

namespace ApiGateway

namespace Provider

/-! ### Adapters -/

/-- `httpMethodFromProto`. -/
def httpMethodFromProto (method : Pb.HttpMethod) : HTTPMethod := ⟨method.toEnum⟩

/-- `httpMethodToProto`. -/
def httpMethodToProto (method : HTTPMethod) : Pb.HttpMethod := .ofEnum method.val

/-- `rateLimitByFromProto`: anything but `SUBJECT_ID` limits by IP. -/
def rateLimitByFromProto (by_ : Pb.RateLimitBy) : RateLimitDescriptionBy :=
  if by_ = .ip then .ip
  else if by_ = .subjectId then .subjectId
  else .ip

/-- `rateLimiterFromProto`: the fields copied as sent; a nil period reads as
zero. -/
def rateLimiterFromProto : Option Pb.RateLimiter → Option RateLimiterDescription
  | none => none
  | some rateLimiter =>
    some ⟨rateLimitByFromProto rateLimiter.by, rateLimiter.limit, rateLimiter.burst,
      (rateLimiter.period.getD ⟨0, 0⟩).asDuration⟩

/-- `descriptionMethodFromProto`. -/
def descriptionMethodFromProto (desc : Pb.DescriptionMethod) : ProviderDescriptionMethod where
  method := desc.method
  auditEnabled := desc.auditEnabled
  rateLimiter := rateLimiterFromProto desc.rateLimiter
  requiredAuthentication := desc.requiredAuthentication
  requiredPermissions := desc.requiredPermissions
  allowedHTTPMethods := MapSet.ofList (convertFunc httpMethodFromProto desc.allowedHttpMethods)

/-- `descriptionFromProto`: the methods keyed by name, a later entry
replacing an earlier one of the same name. -/
def descriptionFromProto (desc : Pb.DescriptionResponse) : ProviderDescription where
  auditEnabled := desc.auditEnabled
  rateLimiter := rateLimiterFromProto desc.rateLimiter
  requireAuthentication := desc.requiredAuthentication
  requiredPermissions := desc.requiredPermissions
  descriptionByMethod :=
    GoMap.ofList (desc.methods.map fun method => (method.method, descriptionMethodFromProto method))

/-- `headersToProto`. -/
def headersToProto (headers : Header) : GoMap String Pb.HeaderValue := Pb.headerValues headers

/-- `headersFromProto`. -/
def headersFromProto (headers : GoMap String Pb.HeaderValue) : Header := Pb.headerLists headers

/-- `subjectInformationToProto`: reads `info.ID` whether or not `info` is
nil. -/
def subjectInformationToProto : Option SubjectInformation → Except Panic Pb.SubjectInformation
  | none => .error .nilPointerDereference
  | some info => .ok ⟨info.id, info.permissions.toSlice⟩

/-! ### The client -/

/-- `impl.Description`, given the backend's answer. -/
def description (rpc : Except String Pb.DescriptionResponse) : Except String ProviderDescription :=
  match rpc with
  | .error err => .error ("could not get provider description: " ++ err)
  | .ok resp => .ok (descriptionFromProto resp)

/-- The message `impl.Process` sends for a request, or the panic building it
raises. -/
def processRequestToProto (req : ProviderProcessRequest) : Except Panic Pb.ProcessRequest := do
  let subjectInformation ← subjectInformationToProto req.subjectInformation
  pure ⟨req.apiMethod, httpMethodToProto req.httpMethod, req.path, req.query, req.body,
    headersToProto req.headers, some subjectInformation⟩

/-- `impl.Process`, given the backend's `Process` (`rpc`): a panic, or the
call's error or response. -/
def process (rpc : Pb.ProcessRequest → Except String Pb.ProcessResponse)
    (req : ProviderProcessRequest) : Except Panic (Except String ProviderProcessResponse) := do
  let processRequest ← processRequestToProto req
  pure <| match rpc processRequest with
    | .error err => .error ("could not process: " ++ err)
    | .ok resp => .ok ⟨resp.body, resp.statusCode, headersFromProto resp.headers⟩

/-- **The client panics exactly on a request without a subject.** -/
theorem process_eq_error_iff {rpc : Pb.ProcessRequest → Except String Pb.ProcessResponse}
    {req : ProviderProcessRequest} {p : Panic} :
    process rpc req = .error p ↔ req.subjectInformation = none ∧ p = .nilPointerDereference := by
  unfold process processRequestToProto
  cases req.subjectInformation <;>
    simp [subjectInformationToProto, bind, Except.bind, pure, Except.pure, eq_comm]

/-- The message sent for a request with a subject. -/
theorem processRequestToProto_of_subject {req : ProviderProcessRequest} {s : SubjectInformation}
    (hs : req.subjectInformation = some s) :
    processRequestToProto req = .ok ⟨req.apiMethod, httpMethodToProto req.httpMethod, req.path,
      req.query, req.body, headersToProto req.headers, some ⟨s.id, s.permissions.toSlice⟩⟩ := by
  simp [processRequestToProto, hs, subjectInformationToProto, bind, Except.bind, pure, Except.pure]

/-- `m2mTokenMetadataKey`. -/
def m2mTokenMetadataKey : String := "x-m2m-token"

/-- `impl.addM2MToken`: the outgoing metadata of a call from a client with the
token source `m2mTokenSource` (`none` where it is nil), given the metadata the
call's context already carries. `AppendToOutgoingContext` adds the current
token after the key's values. -/
def addM2MToken (m2mTokenSource : Option M2m.Impl) (md : GoMap String (List String)) :
    GoMap String (List String) :=
  match m2mTokenSource with
  | none => md
  | some src => md.insert m2mTokenMetadataKey ((md.get? m2mTokenMetadataKey).getD [] ++ [src.token])

/-! ### What a decoded description holds -/

/-- Every method of a decoded description is a decoded `DescriptionMethod`. -/
theorem descriptionFromProto_method {resp : Pb.DescriptionResponse} {m : String}
    {md : ProviderDescriptionMethod}
    (h : (descriptionFromProto resp).descriptionByMethod.get? m = some md) :
    ∃ pm ∈ resp.methods, md = descriptionMethodFromProto pm := by
  rw [descriptionFromProto, GoMap.get?_ofList] at h
  obtain ⟨l₁, l₂, hl, -⟩ := List.lookup_eq_some_iff.mp h
  have hmem : (m, md) ∈ (resp.methods.map fun pm => (pm.method, descriptionMethodFromProto pm)) :=
    List.mem_reverse.mp (hl ▸ List.mem_append_right _ (List.mem_cons_self _ _))
  obtain ⟨pm, hpm, he⟩ := List.mem_map.mp hmem
  exact ⟨pm, hpm, (Prod.mk.inj he).2.symm⟩

/-- A decoded method allows only the five named methods and `unspecified`. -/
theorem allowed_val_le {pm : Pb.DescriptionMethod} {x : HTTPMethod}
    (h : x ∈ (descriptionMethodFromProto pm).allowedHTTPMethods.elems) : x.val.toNat ≤ 5 := by
  simp only [descriptionMethodFromProto, MapSet.mem_ofList, convertFunc_eq_map, List.mem_map] at h
  obtain ⟨y, -, rfl⟩ := h
  exact Pb.HttpMethod.toEnum_le y

/-! ### The processor's limiter calls -/

section Limits

variable {p : Processor} {r : ProcessRequest}

/-- Every limit the processor passes to `Allow` is the selected limiter's,
unchecked. -/
theorem process_allow_limit {key : Key} {limit : Limit}
    (h : Call.allow key limit ∈ (p.process r).calls) :
    ∃ a limiter svc, p.admitted r = .ok a ∧
      a.description.selectRateLimiter r.apiMethod = (some limiter, svc) ∧
      limit = Processor.rateLimit limiter := by
  unfold Processor.process at h
  split at h
  next => cases h
  next a ha =>
    simp only [Processor.auditCalls, List.mem_append] at h
    refine h.elim (fun h => ?_) fun h => by split at h <;> simp at h
    rcases Processor.serve_cases p r a with
      ⟨-, -, hserve⟩ | ⟨limiter, svc, hsel, ⟨_, -, hserve⟩ | ⟨-, -, hserve⟩ | ⟨-, -, hserve⟩⟩ <;>
      simp [hserve, Processor.dispatch_calls] at h
    all_goals exact ⟨a, limiter, svc, ha, hsel, h.2⟩

end Limits

/-! ### Failing inputs -/

/-- A backend's description that declares a service-level limiter of 2^63
requests a second per IP; its method `hello` allows GET. -/
def wrappingResponse : Pb.DescriptionResponse where
  auditEnabled := false
  requiredAuthentication := false
  rateLimiter := some ⟨.ip, 9223372036854775808, 1, some ⟨1, 0⟩⟩
  requiredPermissions := []
  methods := [⟨"hello", false, false, none, [], [.get]⟩]

/-- A gateway whose store holds `wrappingResponse`, decoded; the limiter lets
everything through. -/
def wrappingGateway : Processor where
  descriptionStore service :=
    if service = "greet" then some (descriptionFromProto wrappingResponse) else none
  clientStore service := if service = "greet" then some Processor.greetClient else none
  tokenParser _ := .error "token is missing"
  reteLimiter _ _ := ⟨true, Duration.ofInt (-1), none⟩

/-- **A declared rate of 2^63 reaches Redis negative**: the processor passes
the declared limit to `Allow`, and `redisLimiter.Allow` hands the token bucket
the rate `-2^63`. -/
theorem oversized_rate_reaches_redis :
    Call.allow ⟨"greet", true, "hello", "10.0.0.1"⟩ ⟨9223372036854775808, 1, Duration.second⟩ ∈
        (wrappingGateway.process Processor.helloRequest).calls ∧
      (redisLimit ⟨9223372036854775808, 1, Duration.second⟩).rate = -2 ^ 63 := by
  decide

/-- The spec's first scenario: `greet` with the public method `hello`,
allowing GET, with no limiter and no audit. -/
def publicDescription : ProviderDescription where
  auditEnabled := false
  rateLimiter := none
  requireAuthentication := false
  requiredPermissions := []
  descriptionByMethod :=
    GoMap.ofList [("hello", ⟨"hello", false, none, false, [], MapSet.ofList [.get]⟩)]

/-- A gateway that serves `publicDescription`; no token parses. -/
def publicGateway : Processor where
  descriptionStore service := if service = "greet" then some publicDescription else none
  clientStore service := if service = "greet" then some Processor.greetClient else none
  tokenParser _ := .error "token is missing"
  reteLimiter _ _ := ⟨true, Duration.ofInt (-1), none⟩

/-- **A public request without a token crashes the provider client**: the
processor forwards `GET /greet/hello` with no subject, and whatever the
backend would answer, the provider client panics building its message. -/
theorem public_request_without_token_panics
    (rpc : Pb.ProcessRequest → Except String Pb.ProcessResponse) :
    ∃ req, Call.process req ∈ (publicGateway.process Processor.helloRequest).calls ∧
      req.subjectInformation = none ∧ process rpc req = .error .nilPointerDereference :=
  ⟨Processor.forwardedRequest Processor.helloRequest none, by decide, rfl,
    process_eq_error_iff.mpr ⟨rfl, rfl⟩⟩

end Provider

end ApiGateway
