import ApiGateway.Processor.Audit

/-!
`internal/auth`: the bearer-token parser, `Auth.ParseToken`.

The JWT validator (`validator.ValidateToken`, with the JWKS it fetches) is
given by what it answers: the validated claims or an error. `New` configures it
to decode the custom claims into `customClaims`, so the claims always carry
their `permissions` list. `claimsToSubjectInformationAdapter` turns the
claims into the subject the processor reads.

* `ParseToken` yields a subject exactly when the validator accepts the token
  and its `sub` claim is not empty; the subject's permissions are the token's,
  each once (`parseToken_eq_ok`).
* With `ParseToken` as the processor's parser, every subject the gateway
  forwards to a backend is that of the bearer token, with a non-empty id
  (`forwarded_subject_of_parseToken`).
-/

namespace ApiGateway

namespace Auth

/-- `validator.ValidatedClaims`, as far as the adapter reads it: the `sub`
claim and the permissions of the `customClaims` that `New` configures. -/
structure ValidatedClaims where
  subject : String
  permissions : List String
deriving DecidableEq

/-- `customClaims.UniquePermissions`. -/
def uniquePermissions (permissions : List String) : MapSet String := MapSet.ofList permissions

/-- `claimsToSubjectInformationAdapter`. -/
def claimsToSubjectInformationAdapter (claims : ValidatedClaims) : Except String SubjectInformation :=
  let subjectInfo : SubjectInformation := ⟨claims.subject, uniquePermissions claims.permissions⟩
  match subjectInfo.validate with
  | .error err => .error ("failed to validate SubjectInformation: " ++ err)
  | .ok () => .ok subjectInfo

/-- `Auth.ParseToken`, given the validator's answer for each token. -/
def parseToken (validateToken : String → Except String ValidatedClaims) (token : String) :
    Except String SubjectInformation :=
  match validateToken token with
  | .error err => .error ("validate token: " ++ err)
  | .ok claims => claimsToSubjectInformationAdapter claims

theorem claimsToSubjectInformationAdapter_eq_ok {claims : ValidatedClaims} {s : SubjectInformation} :
    claimsToSubjectInformationAdapter claims = .ok s ↔
      claims.subject ≠ "" ∧ s = ⟨claims.subject, uniquePermissions claims.permissions⟩ := by
  unfold claimsToSubjectInformationAdapter SubjectInformation.validate
  by_cases h : claims.subject = "" <;> simp [h, eq_comm]

/-- `ParseToken` yields a subject exactly when the validator accepts the token
with a non-empty `sub`; the subject carries the token's permissions. -/
theorem parseToken_eq_ok {validateToken : String → Except String ValidatedClaims} {token : String}
    {s : SubjectInformation} :
    parseToken validateToken token = .ok s ↔
      ∃ claims, validateToken token = .ok claims ∧ claims.subject ≠ "" ∧
        s = ⟨claims.subject, uniquePermissions claims.permissions⟩ := by
  unfold parseToken
  cases validateToken token <;> simp [claimsToSubjectInformationAdapter_eq_ok]

/-- **Every subject the gateway forwards is its bearer token's**: with
`ParseToken` as the processor's parser, a request the processor sends to a
backend with a subject carries the bearer token's `sub` claim, never empty,
and exactly the token's permissions. -/
theorem forwarded_subject_of_parseToken {validateToken : String → Except String ValidatedClaims}
    {p : Processor} (hp : p.tokenParser = parseToken validateToken) {r : ProcessRequest}
    {req : ProviderProcessRequest} (hcall : Call.process req ∈ (p.process r).calls)
    {s : SubjectInformation} (hs : req.subjectInformation = some s) :
    ∃ claims, validateToken (Processor.getAuthorizationHeaderValue r.headers) = .ok claims ∧
      s.id = claims.subject ∧ s.id ≠ "" ∧ ∀ x, x ∈ s.permissions.elems ↔ x ∈ claims.permissions := by
  obtain ⟨a, ha, hserve⟩ := Processor.process_mem_process_calls.mp hcall
  obtain ⟨rfl, -⟩ := Processor.process_mem_serve_calls.mp hserve
  obtain ⟨-, hauth⟩ := Processor.admitted_eq_ok.mp ha
  rw [Processor.forwardedRequest_subjectInformation, (Processor.authenticate_eq_ok.mp hauth).1,
    Processor.subjectOf_eq_some, hp, parseToken_eq_ok] at hs
  obtain ⟨claims, hv, hsub, rfl⟩ := hs
  exact ⟨claims, hv, rfl, hsub, fun x => MapSet.mem_ofList _ x⟩

/-- A validator that accepts the token `t0k3n`, issued to `user-1` with the
permission `read:greeting` listed twice. -/
def greetValidator (token : String) : Except String ValidatedClaims :=
  if token = "t0k3n" then .ok ⟨"user-1", ["read:greeting", "read:greeting"]⟩
  else .error "token is malformed"

/-- The gateway of `Processor.greetDescription`, authenticating with
`ParseToken`; its limiter lets everything through. -/
def authGateway : Processor where
  descriptionStore service := if service = "greet" then some Processor.greetDescription else none
  clientStore service := if service = "greet" then some Processor.greetClient else none
  tokenParser := parseToken greetValidator
  reteLimiter _ _ := ⟨true, Duration.ofInt (-1), none⟩

/-- `GET /greet/hello` with the bearer token `t0k3n`. -/
def bearerHello : ProcessRequest :=
  ⟨"greet", .get, "hello", "", "", [], GoMap.ofList [("Authorization", ["Bearer t0k3n"])],
    "10.0.0.1:5555"⟩

theorem bearer_hello_forwards_token_subject :
    let s : SubjectInformation := ⟨"user-1", uniquePermissions ["read:greeting", "read:greeting"]⟩
    Call.process (Processor.forwardedRequest bearerHello (some s)) ∈ (authGateway.process bearerHello).calls ∧
      ∃ claims, greetValidator (Processor.getAuthorizationHeaderValue bearerHello.headers) = .ok claims ∧
        s.id = claims.subject ∧ s.id ≠ "" ∧ ∀ x, x ∈ s.permissions.elems ↔ x ∈ claims.permissions :=
  have hcall : Call.process (Processor.forwardedRequest bearerHello
      (some ⟨"user-1", uniquePermissions ["read:greeting", "read:greeting"]⟩)) ∈
      (authGateway.process bearerHello).calls := by decide
  ⟨hcall, forwarded_subject_of_parseToken (p := authGateway) rfl hcall rfl⟩

end Auth

end ApiGateway
