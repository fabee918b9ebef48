import ApiGateway.Sdk.Server
import ApiGateway.Provider.Adapter

/-!
The gateway and an SDK backend, end to end.

The two sides were written apart: the SDK encodes, the gateway's provider
client decodes, and each has its own method and limiter enums. Between the
SDK's records and the domain's, `toDomain` keeps every field and reads each
enum by its number. The results:

* `descriptionFromProto_descriptionResponse`: the policy the gateway decodes
  from a reachable SDK's `Description` resolves, for every registered method,
  to the SDK's global settings combined with the handler's;
* `handlerRequest_of_dispatch`: a request the processor dispatches with a
  subject reaches the backend's handler with its method, path, query and body,
  its headers less `Authorization`, and the subject's id and permissions;
* `allow_limit_valid_of_sdk`: a limit an SDK backend declares reaches `Allow`
  with a non-zero rate and burst and a positive period, since the SDK
  validates every limiter before it describes it;
* `validateM2M_addM2MToken`: the token the gateway's client attaches passes
  the SDK's M2M check exactly when the SDK's parser accepts it.
-/

namespace ApiGateway

namespace Sdk

/-- The domain limiter an SDK limiter stands for: the same fields, the `by`
enum read by its number. -/
def RateLimiterDescription.toDomain (l : RateLimiterDescription) :
    ApiGateway.RateLimiterDescription :=
  ⟨⟨l.by.val⟩, l.rate, l.burst, l.period⟩

/-- The domain method an SDK method stands for. -/
def HTTPMethod.toDomain (m : HTTPMethod) : ApiGateway.HTTPMethod := ⟨m.val⟩

/-! ### The description -/

theorem rateLimitByFromProto_toProto {by_ : RateLimitDescriptionBy} (h : by_.val.toNat ≤ 1) :
    Provider.rateLimitByFromProto (rateLimitByToProto by_) = ⟨by_.val⟩ := by
  obtain ⟨⟨⟨n, hn⟩⟩⟩ := by_
  change n ≤ 1 at h
  match n, hn, h with
  | 0, _, _ | 1, _, _ => rfl
  | _ + 2, _, h => omega

theorem rateLimiterFromProto_toProto {l : Option RateLimiterDescription}
    (h : ∀ x ∈ l, x.by.val.toNat ≤ 1) :
    Provider.rateLimiterFromProto (rateLimiterToProto l) = l.map RateLimiterDescription.toDomain := by
  cases l with
  | none => rfl
  | some x =>
    simp only [rateLimiterToProto, Provider.rateLimiterFromProto, Option.getD_some,
      Pb.Duration.asDuration_new, rateLimitByFromProto_toProto (h x rfl)]
    rfl

theorem httpMethodFromProto_toProto {m : HTTPMethod} (h : m.val.toNat ≤ 5) :
    Provider.httpMethodFromProto (httpMethodToProto m) = m.toDomain := by
  simp only [Provider.httpMethodFromProto, httpMethodToProto, Pb.HttpMethod.toEnum_ofEnum h]
  rfl

/-- The gateway decodes a handler's `DescriptionMethod` to the handler's own
settings. -/
theorem descriptionMethodFromProto_descriptionMethod {h : Handler}
    (hby : ∀ l ∈ h.settings.rateLimiterDescription, l.by.val.toNat ≤ 1)
    (hm : ∀ x ∈ h.allowedHTTPMethods, x.val.toNat ≤ 5) :
    Provider.descriptionMethodFromProto (descriptionMethod h) =
      ⟨h.method, h.settings.auditEnabled,
        h.settings.rateLimiterDescription.map RateLimiterDescription.toDomain,
        h.settings.requiredAuthentication, h.settings.requiredPermissions,
        MapSet.ofList (h.allowedHTTPMethods.map HTTPMethod.toDomain)⟩ := by
  simp only [Provider.descriptionMethodFromProto, descriptionMethod, rateLimiterFromProto_toProto hby,
    convertFunc_eq_map, List.map_map]
  congr 2
  exact List.map_congr_left fun x hx => httpMethodFromProto_toProto (hm x hx)

/-- On a handler map keyed by method names, the decoded description has one
method per handler, under the same key. -/
theorem descriptionByMethod_get? {srv : Server}
    (hkeys : ∀ k h, srv.handlers.get? k = some h → h.method = k) (m : String) :
    (Provider.descriptionFromProto srv.descriptionResponse).descriptionByMethod.get? m =
      (srv.handlers.get? m).map fun h => Provider.descriptionMethodFromProto (descriptionMethod h) := by
  simp only [Provider.descriptionFromProto, Server.descriptionResponse, List.map_map]
  exact GoMap.get?_ofList_map srv.handlers _ (fun e he => hkeys e.1 e.2 (GoMap.get?_of_mem he)) m

/-- **The SDK's description decodes to its settings**: for a reachable SDK
whose limiters limit by one of the two named keys and whose handlers allow
named methods, the gateway's policy has a method for each handler name, and
each resolves audit, authentication, permissions, limiter and allowed
methods to the global settings combined with the handler's. -/
theorem descriptionFromProto_descriptionResponse {s : Sdk} (hs : Reachable s)
    (hG : ∀ l ∈ s.globalHandlerSettings.rateLimiterDescription, l.by.val.toNat ≤ 1)
    (hH : ∀ m h, s.handlers.get? m = some h →
      (∀ l ∈ h.settings.rateLimiterDescription, l.by.val.toNat ≤ 1) ∧
        ∀ x ∈ h.allowedHTTPMethods, x.val.toNat ≤ 5) :
    let D := Provider.descriptionFromProto s.server.descriptionResponse
    let G := s.globalHandlerSettings
    (∀ m, (D.descriptionByMethod.get? m).isSome ↔ ∃ k h, s.handlers.get? k = some h ∧ h.method = m) ∧
    ∀ m h, s.handlers.get? m = some h →
      D.needAudit m = (G.auditEnabled || h.settings.auditEnabled) ∧
      D.needAuthentication m = (G.requiredAuthentication || h.settings.requiredAuthentication) ∧
      (∀ perm, perm ∈ D.permissions m ↔
        perm ∈ G.requiredPermissions ∨ perm ∈ h.settings.requiredPermissions) ∧
      D.selectRateLimiter m =
        (match h.settings.rateLimiterDescription with
          | some l => (some l.toDomain, false)
          | none => (G.rateLimiterDescription.map RateLimiterDescription.toDomain, true)) ∧
      ∃ desc, D.descriptionByMethod.get? m = some desc ∧
        ∀ x, x ∈ desc.allowedHTTPMethods.elems ↔ ∃ y ∈ h.allowedHTTPMethods, x = y.toDomain := by
  intro D G
  have hkeys : ∀ k h, s.server.handlers.get? k = some h → h.method = k :=
    fun k h hk => (hs.inv k h hk).1
  have hget := descriptionByMethod_get? hkeys
  refine ⟨fun m => ?_, fun m h hm => ?_⟩
  case refine_1 =>
    rw [hget, Option.isSome_map', server_handlers]
    constructor
    · intro hsome
      obtain ⟨h, hh⟩ := Option.isSome_iff_exists.mp hsome
      exact ⟨m, h, hh, hkeys m h hh⟩
    · rintro ⟨k, h, hk, rfl⟩
      rw [hkeys k h hk, hk]; rfl
  case refine_2 =>
    obtain ⟨hby, hmeth⟩ := hH m h hm
    have hd := hget m
    rw [server_handlers, hm, Option.map_some', descriptionMethodFromProto_descriptionMethod hby hmeth] at hd
    have hlim : D.rateLimiter = G.rateLimiterDescription.map RateLimiterDescription.toDomain :=
      rateLimiterFromProto_toProto hG
    refine ⟨?_, ?_, fun perm => ?_, ?_, _, hd, fun x => ?_⟩
    · exact ProviderDescription.serviceOrMethodFlag_of_get? _ _ hd
    · exact ProviderDescription.serviceOrMethodFlag_of_get? _ _ hd
    · rw [ProviderDescription.permissions_of_get? hd, mem_merge]; rfl
    · rw [ProviderDescription.selectRateLimiter_of_get? hd, hlim]
      cases h.settings.rateLimiterDescription <;> rfl
    · simp [eq_comm]

/-- The `hello` handler: public, GET only, limited per subject, answering
`hi`. -/
def helloHandler : Handler where
  method := "hello"
  settings := ⟨false, some ⟨.subjectId, 10, 5, Duration.second⟩, false, ["read:greeting"]⟩
  allowedHTTPMethods := [.get]
  processFunc := some fun _ => .ok (some ⟨bytesOf "hi", 200, ∅⟩)

/-- A backend audited as a whole, limited per IP, with the `hello` handler;
the address, close timeout and logger are left to `setDefault`. -/
def greetOptions : NewOptions where
  serverAddress := ""
  auth0Domain := ""
  auth0Audience := ""
  m2mValidation := false
  globalHandlerSettings := ⟨true, some ⟨.ip, 100, 10, Duration.minute⟩, false, []⟩
  handlers := [helloHandler]
  serverCloseTimeout := ⟨0, by omega, by omega⟩
  logger := none

/-- The SDK `New` builds from `greetOptions`. -/
def greetSdk : Sdk :=
  ⟨":8081", none, false, greetOptions.globalHandlerSettings,
    (∅ : GoMap String Handler).insert "hello" helloHandler, ⟨10000000000, by omega, by omega⟩,
    some ⟨⟩, false⟩

theorem greet_description_decodes :
    let D := Provider.descriptionFromProto greetSdk.server.descriptionResponse
    let G := greetSdk.globalHandlerSettings
    (∀ m, (D.descriptionByMethod.get? m).isSome ↔
      ∃ k h, greetSdk.handlers.get? k = some h ∧ h.method = m) ∧
    ∀ m h, greetSdk.handlers.get? m = some h →
      D.needAudit m = (G.auditEnabled || h.settings.auditEnabled) ∧
      D.needAuthentication m = (G.requiredAuthentication || h.settings.requiredAuthentication) ∧
      (∀ perm, perm ∈ D.permissions m ↔
        perm ∈ G.requiredPermissions ∨ perm ∈ h.settings.requiredPermissions) ∧
      D.selectRateLimiter m =
        (match h.settings.rateLimiterDescription with
          | some l => (some l.toDomain, false)
          | none => (G.rateLimiterDescription.map RateLimiterDescription.toDomain, true)) ∧
      ∃ desc, D.descriptionByMethod.get? m = some desc ∧
        ∀ x, x ∈ desc.allowedHTTPMethods.elems ↔ ∃ y ∈ h.allowedHTTPMethods, x = y.toDomain :=
  descriptionFromProto_descriptionResponse
    (@Reachable.new (fun _ _ => .error "auth0 is not configured") greetOptions greetSdk rfl)
    (by decide) fun m h hm => by
      simp only [greetSdk, GoMap.get?_insert, GoMap.get?_empty] at hm
      split_ifs at hm
      cases hm
      decide

/-! ### The limits an SDK backend declares -/

theorem rateLimiterFromProto_toProto_valid {l : Option RateLimiterDescription}
    (hv : ∀ x ∈ l, x.validate = .ok ()) {l' : ApiGateway.RateLimiterDescription}
    (h : Provider.rateLimiterFromProto (rateLimiterToProto l) = some l') :
    l'.rate ≠ 0 ∧ l'.burst ≠ 0 ∧ 0 < l'.period.nanoseconds := by
  cases l with
  | none => cases h
  | some x =>
    simp only [rateLimiterToProto, Provider.rateLimiterFromProto, Option.getD_some,
      Pb.Duration.asDuration_new, Option.some.injEq] at h
    subst h
    exact RateLimiterDescription.validate_eq_ok.mp (hv x rfl)

/-- Every limiter the gateway can select from a reachable SDK's description
passed the SDK's `validate`. -/
theorem selectRateLimiter_descriptionResponse {s : Sdk} (hs : Reachable s) {m : String}
    {l : ApiGateway.RateLimiterDescription} {svc : Bool}
    (h : (Provider.descriptionFromProto s.server.descriptionResponse).selectRateLimiter m = (some l, svc)) :
    l.rate ≠ 0 ∧ l.burst ≠ 0 ∧ 0 < l.period.nanoseconds := by
  rcases ProviderDescription.selectRateLimiter_eq_some h with hl | ⟨desc, hdesc, hl⟩
  · exact rateLimiterFromProto_toProto_valid
      (HandlerSettings.validate_eq_ok.mp hs.globalHandlerSettings_validate) hl
  · rw [descriptionByMethod_get? (fun k h hk => (hs.inv k h hk).1)] at hdesc
    obtain ⟨handler, hh, rfl⟩ := Option.map_eq_some'.mp hdesc
    exact rateLimiterFromProto_toProto_valid
      (HandlerSettings.validate_eq_ok.mp (Handler.validate_settings (hs.inv _ _ hh).2)) hl

/-- **A limit declared through the SDK reaches `Allow` valid**: when the
description store holds, for the request's service, what a reachable SDK
describes, every limit the processor passes to `Allow` has a non-zero rate and
burst and a positive period. Only a rate or burst of 2^63 or more still wraps
in Redis. -/
theorem allow_limit_valid_of_sdk {s : Sdk} (hs : Reachable s) {p : Processor}
    {r : ApiGateway.ProcessRequest}
    (hstore : p.descriptionStore r.service =
      some (Provider.descriptionFromProto s.server.descriptionResponse))
    {key : Key} {limit : Limit} (hcall : Call.allow key limit ∈ (p.process r).calls) :
    limit.rate ≠ 0 ∧ limit.burst ≠ 0 ∧ 0 < limit.period.nanoseconds := by
  obtain ⟨a, limiter, svc, ha, hsel, rfl⟩ := Provider.process_allow_limit hcall
  obtain ⟨-, hd, -, -⟩ := Processor.lookup_eq_ok.mp (Processor.admitted_eq_ok.mp ha).1
  rw [hstore, Option.some.injEq] at hd
  rw [← hd] at hsel
  exact selectRateLimiter_descriptionResponse hs hsel

/-- A gateway whose store holds what `greetSdk` describes; every token stands
for `user-1`, who may read greetings. -/
def sdkGateway : Processor where
  descriptionStore service :=
    if service = "greet" then some (Provider.descriptionFromProto greetSdk.server.descriptionResponse)
    else none
  clientStore service := if service = "greet" then some Processor.greetClient else none
  tokenParser _ := .ok ⟨"user-1", MapSet.ofList ["read:greeting"]⟩
  reteLimiter _ _ := ⟨true, Duration.ofInt (-1), none⟩

theorem greet_sdk_limit_reaches_allow_valid :
    let limit : Limit := ⟨10, 5, Duration.second⟩
    Call.allow ⟨"greet", false, "hello", "user-1"⟩ limit ∈
        (sdkGateway.process Processor.helloRequest).calls ∧
      limit.rate ≠ 0 ∧ limit.burst ≠ 0 ∧ 0 < limit.period.nanoseconds :=
  have hcall : Call.allow ⟨"greet", false, "hello", "user-1"⟩ ⟨10, 5, Duration.second⟩ ∈
      (sdkGateway.process Processor.helloRequest).calls := by decide
  ⟨hcall, allow_limit_valid_of_sdk
    (@Reachable.new (fun _ _ => .error "auth0 is not configured") greetOptions greetSdk rfl)
    (p := sdkGateway) (r := Processor.helloRequest) rfl hcall⟩

/-! ### The M2M token -/

/-- **The gateway's M2M token meets the SDK's check**: a call from a provider
client, whatever other metadata it carries, passes the SDK's `validateM2M`
exactly when the SDK checks no token, or the client has a token source whose
current token the SDK's parser accepts. A client without a source is refused
by every SDK that checks. -/
theorem validateM2M_addM2MToken (srv : Server) (src : Option M2m.Impl) {md : Metadata}
    (hmd : md.get? Provider.m2mTokenMetadataKey = none) :
    srv.validateM2M (some (Provider.addM2MToken src md)) = true ↔
      srv.tokenParser = none ∨ ∃ impl parser subject, src = some impl ∧
        srv.tokenParser = some parser ∧ parser impl.token = .ok subject := by
  rw [Provider.m2mTokenMetadataKey] at hmd
  rw [Server.validateM2M_eq_true]
  cases src <;> simp [Server.firstM2MToken, Provider.addM2MToken, Provider.m2mTokenMetadataKey, hmd]

/-- An SDK server that accepts the token `t0k3n` only. -/
def checkingServer : Server where
  tokenParser := some fun token =>
    if token = "t0k3n" then .ok ⟨"m2m-client", MapSet.ofList []⟩ else .error "invalid token"
  globalHandlerSettings := greetOptions.globalHandlerSettings
  handlers := ∅

/-- A token source holding `t0k3n`. -/
def tokenSource : M2m.Impl := ⟨"greet-api", some ⟨"t0k3n", "Bearer", 86400⟩, .returned⟩

theorem token_source_passes_checking_server :
    (∅ : Metadata).get? Provider.m2mTokenMetadataKey = none ∧
      (checkingServer.validateM2M (some (Provider.addM2MToken (some tokenSource) ∅)) = true ↔
        checkingServer.tokenParser = none ∨ ∃ impl parser subject, some tokenSource = some impl ∧
          checkingServer.tokenParser = some parser ∧ parser impl.token = .ok subject) :=
  ⟨rfl, validateM2M_addM2MToken checkingServer (some tokenSource) rfl⟩

/-! ### The request a handler receives -/

/-- **A dispatched request reaches the handler intact**: when the
description store holds only decoded descriptions, as the synchronizer writes
them, a request the processor dispatches with a subject is sent for the same
API method, and the SDK hands the handler the client's method, path, query and
body, the client's headers less `Authorization`, and the subject's id with its
permissions listed once each. -/
theorem handlerRequest_of_dispatch (parseQuery : String → Values) {p : Processor}
    {r : ApiGateway.ProcessRequest}
    (hstore : ∀ service d, p.descriptionStore service = some d →
      ∃ resp, d = Provider.descriptionFromProto resp)
    {req : ProviderProcessRequest} {s : ApiGateway.SubjectInformation}
    (hcall : Call.process req ∈ (p.process r).calls) (hs : req.subjectInformation = some s) :
    ∃ msg, Provider.processRequestToProto req = .ok msg ∧ msg.apiMethod = r.apiMethod ∧
      let handed := Server.handlerRequest parseQuery msg
      handed.httpMethod.val = r.httpMethod.val ∧ handed.path = r.path ∧
      handed.query = parseQuery r.query ∧ handed.body = r.body ∧
      (∀ k, handed.headers.get? k = if k = "Authorization" then none else r.headers.get? k) ∧
      ∃ subject, handed.subjectInformation = some subject ∧ subject.id = s.id ∧
        subject.permissions.Nodup ∧ ∀ x, x ∈ subject.permissions ↔ x ∈ s.permissions.elems := by
  obtain ⟨a, ha, hserve⟩ := Processor.process_mem_process_calls.mp hcall
  obtain ⟨rfl, -⟩ := Processor.process_mem_serve_calls.mp hserve
  obtain ⟨hl, -⟩ := Processor.admitted_eq_ok.mp ha
  obtain ⟨-, hd, ⟨md, hmd, hallowed⟩, -⟩ := Processor.lookup_eq_ok.mp hl
  obtain ⟨resp, hresp⟩ := hstore _ _ hd
  obtain ⟨pm, -, rfl⟩ := Provider.descriptionFromProto_method (hresp ▸ hmd)
  have hle : r.httpMethod.val.toNat ≤ 5 := Provider.allowed_val_le hallowed
  have hauth : canonicalMIMEHeaderKey "Authorization" = "Authorization" := by decide
  refine ⟨_, Provider.processRequestToProto_of_subject hs, rfl, ?_, rfl, rfl, rfl, fun k => ?_,
    ⟨s.id, s.permissions.toSlice⟩, rfl, rfl, s.permissions.toSlice_nodup, fun x => Iff.rfl⟩
  · exact Pb.HttpMethod.toEnum_ofEnum hle
  · simp [Server.handlerRequest, headersFromProto, Provider.headersToProto, Processor.forwardedRequest,
      ProviderProcessRequest.preprocess, Header.del, hauth]

/-- A backend's description of `greet`: its method `hello` allows GET and
needs the `read:greeting` permission. -/
def greetResponse : Pb.DescriptionResponse :=
  ⟨false, false, none, ["read:greeting"], [⟨"hello", false, false, none, [], [.get]⟩]⟩

/-- A gateway whose store holds `greetResponse`, decoded; the token `t0k3n`
stands for `user-1`, who may read greetings. -/
def tokenGateway : Processor where
  descriptionStore service :=
    if service = "greet" then some (Provider.descriptionFromProto greetResponse) else none
  clientStore service := if service = "greet" then some Processor.greetClient else none
  tokenParser token :=
    if token = "t0k3n" then .ok ⟨"user-1", MapSet.ofList ["read:greeting"]⟩ else .error "invalid token"
  reteLimiter _ _ := ⟨true, Duration.ofInt (-1), none⟩

/-- `GET /greet/hello?name=ada` with the bearer token `t0k3n`. -/
def bearerRequest : ApiGateway.ProcessRequest :=
  ⟨"greet", .get, "hello", "", "name=ada", [], GoMap.ofList [("Authorization", ["Bearer t0k3n"])],
    "10.0.0.1:5555"⟩

theorem bearer_request_reaches_handler :
    ∃ msg, Provider.processRequestToProto
        (Processor.forwardedRequest bearerRequest (some ⟨"user-1", MapSet.ofList ["read:greeting"]⟩)) =
          .ok msg ∧ msg.apiMethod = bearerRequest.apiMethod ∧
      let handed := Server.handlerRequest (fun _ => ∅) msg
      handed.httpMethod.val = bearerRequest.httpMethod.val ∧ handed.path = bearerRequest.path ∧
      handed.query = ∅ ∧ handed.body = bearerRequest.body ∧
      (∀ k, handed.headers.get? k =
        if k = "Authorization" then none else bearerRequest.headers.get? k) ∧
      ∃ subject, handed.subjectInformation = some subject ∧ subject.id = "user-1" ∧
        subject.permissions.Nodup ∧
        ∀ x, x ∈ subject.permissions ↔ x ∈ (MapSet.ofList ["read:greeting"]).elems :=
  @handlerRequest_of_dispatch (fun _ => ∅) tokenGateway bearerRequest
    (fun service d h => ⟨greetResponse, by
      simp only [tokenGateway] at h
      split_ifs at h
      exact (Option.some.inj h).symm⟩)
    (Processor.forwardedRequest bearerRequest (some ⟨"user-1", MapSet.ofList ["read:greeting"]⟩))
    ⟨"user-1", MapSet.ofList ["read:greeting"]⟩ (by decide) rfl

end Sdk

end ApiGateway
