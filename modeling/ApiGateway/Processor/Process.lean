import ApiGateway.Domain
import ApiGateway.RateLimit

/-!
`internal/processor`: the request pipeline `impl.Process`.

The processor's collaborators are given by what they answer: the two stores,
the token parser, the limiter and each client's `Process`. A run of `process`
records the outbound calls with side effects in order: the limiter's `Allow`,
the backend's `Process`, and the auditor's `Write` made by the deferred
function. The steps are split where the source's control flow splits:

* `lookup` (validation, the description and method lookups, the HTTP-method
  check, the client lookup) and `authenticate` (token parsing and the
  permission loop) make up `admitted`, everything before the audit `defer`;
* `serve` is everything after it: the rate limiter, then `dispatch`.

Each early return is a `Rejection`, and `Rejection.response` is the
`newErrorResponse` call at that return.
-/

namespace ApiGateway

/-- `provider.Client`, the interface the processor and the description
synchronizer call. -/
structure Client where
  description : Except String ProviderDescription
  process : ProviderProcessRequest → Except String ProviderProcessResponse

/-- `processor.impl`: the stores and collaborators `Process` reads, each given
by what it answers. The auditor only receives: its records are the `write`
calls of a run. -/
structure Processor where
  descriptionStore : String → Option ProviderDescription
  clientStore : String → Option Client
  tokenParser : String → Except String SubjectInformation
  reteLimiter : Key → Limit → Allowance

/-- `audit.Result`. -/
inductive AuditResult
  | ok
  | error
deriving DecidableEq

/-- `audit.Fields`. -/
structure AuditFields where
  service : String
  method : String
  subject : Option SubjectInformation
  result : AuditResult
deriving DecidableEq

/-- An outbound call of `Process`. -/
inductive Call
  | allow (key : Key) (limit : Limit)
  | process (request : ProviderProcessRequest)
  | write (fields : AuditFields)
deriving DecidableEq

/-- The early returns of `impl.Process`, in pipeline order. -/
inductive Rejection
  | invalidRequest (err : String)
  | descriptionNotFound
  | methodNotFound
  | httpMethodNotAllowed
  | clientNotFound
  | unauthenticated (err : String)
  | forbidden (permission : String)
  | rateLimiterFailed (err : String)
  | rateLimitExceeded (retryAfter : Duration)
  | processFailed (err : String)

/-- `newErrorResponse`: the JSON error envelope, with `Content-Type` set on the
given headers. -/
def newErrorResponse (code : Nat) (msg : String) (headers : Header) : ProviderProcessResponse :=
  { body := marshalJSONError msg
    statusCode := code.toUInt32
    headers := headers.set "Content-Type" "application/json" }

/-- The response `Process` returns at each early return. -/
def Rejection.response (r : ProcessRequest) : Rejection → ProviderProcessResponse
  | .invalidRequest err =>
    newErrorResponse statusBadRequest ("failed to validate process request: " ++ err) ∅
  | .descriptionNotFound =>
    newErrorResponse statusNotFound ("description for service " ++ r.service ++ " not found") ∅
  | .methodNotFound =>
    newErrorResponse statusNotFound
      ("description for method " ++ r.apiMethod ++ " of service " ++ r.service ++ " not found") ∅
  | .httpMethodNotAllowed =>
    newErrorResponse statusMethodNotAllowed ("http method " ++ r.httpMethod.string ++ " not allowed") ∅
  | .clientNotFound =>
    newErrorResponse statusNotFound ("client for service " ++ r.service ++ " not found") ∅
  | .unauthenticated err =>
    newErrorResponse statusUnauthorized ("failed to auntificate: " ++ err) ∅
  | .forbidden permission =>
    newErrorResponse statusForbidden ("subject don\x27t have required permission " ++ permission) ∅
  | .rateLimiterFailed err =>
    newErrorResponse statusInternalServerError ("internal server error with ratelimiter: " ++ err) ∅
  | .rateLimitExceeded retryAfter =>
    newErrorResponse statusTooManyRequests ("rate limit exceeded, retry after " ++ retryAfter.string)
      (GoMap.ofList [("Retry-After", [toString retryAfter.ceilSeconds])])
  | .processFailed err =>
    newErrorResponse statusInternalServerError ("failed to process request: " ++ err) ∅

namespace Processor

/-- `getAuthorizationHeaderValue`. -/
def getAuthorizationHeaderValue (headers : Header) : String :=
  trimPrefix (headers.get "Authorization") "Bearer "

/-- A bearer header hands `ParseToken` its token. -/
theorem getAuthorizationHeaderValue_bearer {headers : Header} {token : String}
    (h : headers.get "Authorization" = "Bearer " ++ token) :
    getAuthorizationHeaderValue headers = token := by
  rw [getAuthorizationHeaderValue, h, trimPrefix_append]

/-- Any other header, an absent one (`""`) included, is handed over as it is. -/
theorem getAuthorizationHeaderValue_of_not_bearer {headers : Header}
    (h : ∀ token, headers.get "Authorization" ≠ "Bearer " ++ token) :
    getAuthorizationHeaderValue headers = headers.get "Authorization" :=
  trimPrefix_of_ne_append h

/-- `getRealIP`: `X-Forwarded-For` if set, else the host of the remote
address. -/
def getRealIP (remoteAddr : String) (headers : Header) : String :=
  let realIP := headers.get "X-Forwarded-For"
  if realIP = "" then splitHostPort remoteAddr else realIP

/-! ### Before the audit `defer` -/

/-- Steps 1–5: validation, the description, method and client lookups and the
HTTP-method check. -/
def lookup (p : Processor) (r : ProcessRequest) : Except Rejection (ProviderDescription × Client) :=
  match r.validate with
  | .error err => .error (.invalidRequest err)
  | .ok () =>
    match p.descriptionStore r.service with
    | none => .error .descriptionNotFound
    | some description =>
      match description.descriptionByMethod.get? r.apiMethod with
      | none => .error .methodNotFound
      | some methodDescription =>
        if !methodDescription.allowedHTTPMethods.containsOne r.httpMethod then
          .error .httpMethodNotAllowed
        else
          match p.clientStore r.service with
          | none => .error .clientNotFound
          | some client => .ok (description, client)

/-- The permission loop: the first required permission the subject lacks. -/
def missingPermission (requiredPermissions : List String) (subject : SubjectInformation) :
    Option String :=
  requiredPermissions.find? fun permission => !subject.permissions.containsOne permission

/-- Authentication is needed when the policy asks for it or names a
permission. -/
def needsAuthentication (description : ProviderDescription) (method : String) : Bool :=
  description.needAuthentication method || (description.permissions method).length != 0

/-- Steps 6–8: parse the bearer token; when authentication is needed, a failed
parse or a missing permission ends the request. The subject is the parser's
answer, absent when it failed. -/
def authenticate (p : Processor) (r : ProcessRequest) (description : ProviderDescription) :
    Except Rejection (Option SubjectInformation) :=
  match p.tokenParser (getAuthorizationHeaderValue r.headers),
      needsAuthentication description r.apiMethod with
  | .error err, true => .error (.unauthenticated err)
  | .error _, false => .ok none
  | .ok subject, true =>
    match missingPermission (description.permissions r.apiMethod) subject with
    | some permission => .error (.forbidden permission)
    | none => .ok (some subject)
  | .ok subject, false => .ok (some subject)

/-- What the steps before the audit `defer` hand on. -/
structure Admission where
  description : ProviderDescription
  client : Client
  subjectInformation : Option SubjectInformation

/-- Steps 1–8. -/
def admitted (p : Processor) (r : ProcessRequest) : Except Rejection Admission := do
  let (description, client) ← p.lookup r
  let subjectInformation ← p.authenticate r description
  pure ⟨description, client, subjectInformation⟩

/-! ### After the audit `defer` -/

/-- The outcome of the steps after the audit `defer`: the calls made, the early
return or the backend's response, and the `Result` the deferred write reads. -/
structure Served where
  calls : List Call
  outcome : Except Rejection ProviderProcessResponse
  result : AuditResult

/-- The rate-limit entity: the client's IP or the subject's id (empty without
a subject). -/
def rateLimitEntity (r : ProcessRequest) (subject : Option SubjectInformation)
    (by_ : RateLimitDescriptionBy) : String :=
  if by_ = .ip then getRealIP r.remoteAddr r.headers
  else if by_ = .subjectId then (subject.map (·.id)).getD ""
  else ""

/-- The bucket key `Process` passes to `Allow`. -/
def rateLimitKey (r : ProcessRequest) (subject : Option SubjectInformation)
    (limiter : RateLimiterDescription) (isServiceRateLimiter : Bool) : Key :=
  ⟨r.service, isServiceRateLimiter, r.apiMethod, rateLimitEntity r subject limiter.by⟩

/-- The limit `Process` passes to `Allow`. -/
def rateLimit (limiter : RateLimiterDescription) : Limit :=
  ⟨limiter.rate, limiter.burst, limiter.period⟩

/-- The request `Process` forwards: the inbound one with the subject attached,
after `Preprocess`. -/
def forwardedRequest (r : ProcessRequest) (subject : Option SubjectInformation) :
    ProviderProcessRequest :=
  ProviderProcessRequest.preprocess
    { apiMethod := r.apiMethod, httpMethod := r.httpMethod, path := r.path, query := r.query,
      body := r.body, headers := r.headers, subjectInformation := subject }

/-- Steps 12–13: call the backend; a transport error is a 500 and marks the
audit record as an error. -/
def dispatch (client : Client) (r : ProcessRequest) (subject : Option SubjectInformation) : Served :=
  let processRequest := forwardedRequest r subject
  match client.process processRequest with
  | .error err => ⟨[.process processRequest], .error (.processFailed err), .error⟩
  | .ok processResp => ⟨[.process processRequest], .ok processResp.setDefaults, .ok⟩

/-- Steps 9–13: consult the limiter when the policy selects one, then
dispatch. -/
def serve (p : Processor) (r : ProcessRequest) (a : Admission) : Served :=
  match a.description.selectRateLimiter r.apiMethod with
  | (none, _) => dispatch a.client r a.subjectInformation
  | (some limiter, isServiceRateLimiter) =>
    let key := rateLimitKey r a.subjectInformation limiter isServiceRateLimiter
    let limit := rateLimit limiter
    let answer := p.reteLimiter key limit
    let served : Served :=
      match answer.err with
      | some err => ⟨[], .error (.rateLimiterFailed err), .ok⟩
      | none =>
        if answer.allowed then dispatch a.client r a.subjectInformation
        else ⟨[], .error (.rateLimitExceeded answer.retryAfter), .ok⟩
    { served with calls := .allow key limit :: served.calls }

/-- A run of `Process`: its outbound calls in order, and its response. -/
structure Run where
  calls : List Call
  response : ProviderProcessResponse

/-- The audit `defer`: one record when the method needs auditing. -/
def auditCalls (r : ProcessRequest) (a : Admission) (result : AuditResult) : List Call :=
  if a.description.needAudit r.apiMethod then
    [.write ⟨r.service, r.apiMethod, a.subjectInformation, result⟩]
  else []

/-- `impl.Process`. -/
def process (p : Processor) (r : ProcessRequest) : Run :=
  match p.admitted r with
  | .error rejection => ⟨[], rejection.response r⟩
  | .ok a =>
    let served := p.serve r a
    ⟨served.calls ++ auditCalls r a served.result,
      match served.outcome with
      | .error rejection => rejection.response r
      | .ok processResp => processResp⟩

/-- The early return a run takes, or the backend's response it returns. -/
def outcome (p : Processor) (r : ProcessRequest) : Except Rejection ProviderProcessResponse :=
  match p.admitted r with
  | .error rejection => .error rejection
  | .ok a => (p.serve r a).outcome

theorem process_response (p : Processor) (r : ProcessRequest) :
    (p.process r).response =
      match p.outcome r with
      | .error rejection => rejection.response r
      | .ok resp => resp := by
  unfold process outcome; split <;> rfl

/-! ### What each stage can do -/

/-- The subject the token parser answers for a request, absent when it
failed. -/
def subjectOf (p : Processor) (r : ProcessRequest) : Option SubjectInformation :=
  (p.tokenParser (getAuthorizationHeaderValue r.headers)).toOption

/-- The limiter lets the request through: no limiter is selected, or `Allow`
answers `(true, _, nil)`. -/
def LimiterPasses (p : Processor) (r : ProcessRequest) (a : Admission) : Prop :=
  ∀ limiter isServiceRateLimiter,
    a.description.selectRateLimiter r.apiMethod = (some limiter, isServiceRateLimiter) →
      let answer := p.reteLimiter (rateLimitKey r a.subjectInformation limiter isServiceRateLimiter)
        (rateLimit limiter)
      answer.err = none ∧ answer.allowed = true

theorem subjectOf_eq_some {p : Processor} {r : ProcessRequest} {s : SubjectInformation} :
    p.subjectOf r = some s ↔ p.tokenParser (getAuthorizationHeaderValue r.headers) = .ok s := by
  unfold subjectOf
  cases p.tokenParser (getAuthorizationHeaderValue r.headers) <;> simp [Except.toOption]

theorem subjectOf_eq_none {p : Processor} {r : ProcessRequest} :
    p.subjectOf r = none ↔ ∃ err, p.tokenParser (getAuthorizationHeaderValue r.headers) = .error err := by
  unfold subjectOf
  cases p.tokenParser (getAuthorizationHeaderValue r.headers) <;> simp [Except.toOption]

@[simp] theorem forwardedRequest_subjectInformation (r : ProcessRequest)
    (s : Option SubjectInformation) : (forwardedRequest r s).subjectInformation = s := rfl

theorem needsAuthentication_iff {d : ProviderDescription} {method : String} :
    needsAuthentication d method = true ↔
      d.needAuthentication method = true ∨ d.permissions method ≠ [] := by
  simp [needsAuthentication]

theorem missingPermission_eq_none {required : List String} {subject : SubjectInformation} :
    missingPermission required subject = none ↔ ∀ perm ∈ required, perm ∈ subject.permissions.elems := by
  simp [missingPermission]

section Inversion

variable {p : Processor} {r : ProcessRequest}

theorem lookup_eq_ok {d : ProviderDescription} {c : Client} :
    p.lookup r = .ok (d, c) ↔
      r.validate = .ok () ∧ p.descriptionStore r.service = some d ∧
      (∃ m, d.descriptionByMethod.get? r.apiMethod = some m ∧
        r.httpMethod ∈ m.allowedHTTPMethods.elems) ∧
      p.clientStore r.service = some c := by
  constructor
  · intro h
    unfold lookup at h
    split at h <;> [cases h; skip]
    next hv =>
    split at h <;> [cases h; skip]
    next hd =>
    split at h <;> [cases h; skip]
    next m hm =>
    split at h <;> [cases h; skip]
    next hh =>
    split at h <;> cases h
    next hc => exact ⟨hv, hd, ⟨m, hm, by simpa [MapSet.containsOne] using hh⟩, hc⟩
  · rintro ⟨hv, hd, ⟨m, hm, hh⟩, hc⟩
    simp [lookup, hv, hd, hm, hc, MapSet.containsOne, hh]

theorem authenticate_eq_ok {d : ProviderDescription} {s : Option SubjectInformation} :
    p.authenticate r d = .ok s ↔ s = p.subjectOf r ∧
      (needsAuthentication d r.apiMethod = true →
        ∃ subject, p.tokenParser (getAuthorizationHeaderValue r.headers) = .ok subject ∧
          ∀ perm ∈ d.permissions r.apiMethod, perm ∈ subject.permissions.elems) := by
  unfold authenticate subjectOf
  split
  next hp hn => simp [hp, hn]
  next hp hn => simp [hp, hn, Except.toOption, eq_comm]
  next subject hp hn =>
    cases hm : missingPermission (d.permissions r.apiMethod) subject with
    | some perm =>
      have hmem := List.mem_of_find?_eq_some hm
      have hlack := List.find?_some hm
      simp only [hp, hn, reduceCtorEq, false_iff, not_and, Except.ok.injEq, exists_eq_left',
        forall_const, not_forall]
      exact fun _ => ⟨perm, hmem, by simpa [MapSet.containsOne] using hlack⟩
    | none =>
      simp only [hp, hn, Except.ok.injEq, Except.toOption, eq_comm, exists_eq_left', forall_const,
        iff_self_and]
      exact fun _ => missingPermission_eq_none.mp hm
  next subject hp hn => simp [hp, hn, Except.toOption, eq_comm]

theorem admitted_eq_ok {a : Admission} :
    p.admitted r = .ok a ↔
      p.lookup r = .ok (a.description, a.client) ∧ p.authenticate r a.description = .ok a.subjectInformation := by
  unfold admitted
  rcases h : p.lookup r with e | ⟨d, c⟩
  · simp [bind, Except.bind]
  rcases h' : p.authenticate r d with e | s
  · simp only [bind, Except.bind, h', reduceCtorEq, false_iff, not_and, Except.ok.injEq]
    rintro ⟨rfl, rfl⟩; simp [h']
  · cases a
    simp only [bind, Except.bind, h', pure, Except.pure, Except.ok.injEq, Admission.mk.injEq,
      Prod.mk.injEq]
    constructor
    · rintro ⟨rfl, rfl, rfl⟩; exact ⟨⟨rfl, rfl⟩, h'⟩
    · rintro ⟨⟨rfl, rfl⟩, hs⟩; exact ⟨rfl, rfl, Except.ok.inj (h'.symm.trans hs)⟩

theorem dispatch_calls (c : Client) (r : ProcessRequest) (s : Option SubjectInformation) :
    (dispatch c r s).calls = [.process (forwardedRequest r s)] := by
  unfold dispatch; dsimp only; split <;> rfl

theorem dispatch_outcome_eq_error {c : Client} {r : ProcessRequest} {s : Option SubjectInformation}
    {rej : Rejection} :
    (dispatch c r s).outcome = .error rej ↔
      ∃ err, c.process (forwardedRequest r s) = .error err ∧ rej = .processFailed err := by
  unfold dispatch; dsimp only; split <;> simp [*, eq_comm]

theorem dispatch_outcome_eq_ok {c : Client} {r : ProcessRequest} {s : Option SubjectInformation}
    {resp : ProviderProcessResponse} :
    (dispatch c r s).outcome = .ok resp ↔
      ∃ processResp, c.process (forwardedRequest r s) = .ok processResp ∧
        resp = processResp.setDefaults := by
  unfold dispatch; dsimp only; split <;> simp [*, eq_comm]

/-- What `serve` can do: dispatch when no limiter is selected; otherwise call
`Allow` and stop at its error or its denial, or dispatch. -/
theorem serve_cases (p : Processor) (r : ProcessRequest) (a : Admission) :
    (∃ svc, a.description.selectRateLimiter r.apiMethod = (none, svc) ∧
      p.serve r a = dispatch a.client r a.subjectInformation) ∨
    ∃ limiter svc, a.description.selectRateLimiter r.apiMethod = (some limiter, svc) ∧
      ((∃ err, (p.reteLimiter (rateLimitKey r a.subjectInformation limiter svc)
          (rateLimit limiter)).err = some err ∧
        p.serve r a = ⟨[.allow (rateLimitKey r a.subjectInformation limiter svc) (rateLimit limiter)],
          .error (.rateLimiterFailed err), .ok⟩) ∨
      ((p.reteLimiter (rateLimitKey r a.subjectInformation limiter svc) (rateLimit limiter)).err = none ∧
        (p.reteLimiter (rateLimitKey r a.subjectInformation limiter svc)
          (rateLimit limiter)).allowed = false ∧
        p.serve r a = ⟨[.allow (rateLimitKey r a.subjectInformation limiter svc) (rateLimit limiter)],
          .error (.rateLimitExceeded (p.reteLimiter (rateLimitKey r a.subjectInformation limiter svc)
            (rateLimit limiter)).retryAfter), .ok⟩) ∨
      ((p.reteLimiter (rateLimitKey r a.subjectInformation limiter svc) (rateLimit limiter)).err = none ∧
        (p.reteLimiter (rateLimitKey r a.subjectInformation limiter svc)
          (rateLimit limiter)).allowed = true ∧
        p.serve r a =
          { dispatch a.client r a.subjectInformation with
            calls := .allow (rateLimitKey r a.subjectInformation limiter svc) (rateLimit limiter) ::
              (dispatch a.client r a.subjectInformation).calls })) := by
  unfold serve
  split
  next svc h => exact .inl ⟨svc, h, rfl⟩
  next limiter svc h =>
    refine .inr ⟨limiter, svc, h, ?_⟩
    dsimp only
    cases (p.reteLimiter (rateLimitKey r a.subjectInformation limiter svc) (rateLimit limiter)).err with
    | some err => exact .inl ⟨err, rfl, rfl⟩
    | none =>
      cases (p.reteLimiter (rateLimitKey r a.subjectInformation limiter svc) (rateLimit limiter)).allowed
      · exact .inr (.inl ⟨rfl, rfl, rfl⟩)
      · exact .inr (.inr ⟨rfl, rfl, rfl⟩)

theorem process_mem_serve_calls {a : Admission} {req : ProviderProcessRequest} :
    Call.process req ∈ (p.serve r a).calls ↔
      req = forwardedRequest r a.subjectInformation ∧ LimiterPasses p r a := by
  rcases serve_cases p r a with
    ⟨svc, hsel, hs⟩ | ⟨limiter, svc, hsel, ⟨err, herr, hs⟩ | ⟨herr, hden, hs⟩ | ⟨herr, hallow, hs⟩⟩
  · simp [hs, dispatch_calls, LimiterPasses, hsel]
  · simp [hs, LimiterPasses, hsel, herr]
  · simp [hs, LimiterPasses, hsel, hden]
  · simp [hs, LimiterPasses, hsel, herr, hallow, dispatch_calls]

theorem process_mem_process_calls {req : ProviderProcessRequest} :
    Call.process req ∈ (p.process r).calls ↔
      ∃ a, p.admitted r = .ok a ∧ Call.process req ∈ (p.serve r a).calls := by
  unfold process
  split
  next h => simp [h]
  next a h => simp [h, auditCalls]

end Inversion

end Processor

end ApiGateway
