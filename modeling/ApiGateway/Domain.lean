import ApiGateway.Go.Http
import ApiGateway.Go.Time
import ApiGateway.Slice

/-!
`internal/domain`: the gateway's records and the policy-resolution rules.

A `ProviderDescription` is what a backend declares about itself; the four
resolution functions read it for one API method:

* `needAudit`, `needAuthentication` — the service flag short-circuits, else
  the method's flag when the method is described (`serviceOrMethodFlag`);
* `selectRateLimiter` — the method's limiter if it has one, else the
  service's, with `true` exactly in the second case;
* `permissions` — `slice.Merge` of the service's and the method's lists,
  which keeps a permission the service lists twice
  (`merge_keeps_repeats_of_first_list`).

Pointers the program never leaves nil (map values, the description in the
store) are plain values here; a nil limiter or subject is `none`.
-/

namespace ApiGateway

/-- `domain.HTTPMethod`, a `uint8` enum:
`ENUM(unspecified, get, put, post, delete, patch)`. -/
structure HTTPMethod where
  val : UInt8
deriving DecidableEq

namespace HTTPMethod

def unspecified : HTTPMethod := ⟨0⟩
def get : HTTPMethod := ⟨1⟩
def put : HTTPMethod := ⟨2⟩
def post : HTTPMethod := ⟨3⟩
def delete : HTTPMethod := ⟨4⟩
def patch : HTTPMethod := ⟨5⟩

/-- Modelled from the spec: `HTTPMethod.String`, generated by go-enum from the
`ENUM` comment (the generated file is not under src/; its sibling for
`RateLimitDescriptionBy` shows the pattern). A value outside the enum prints as
`HTTPMethod(n)`. -/
def string (m : HTTPMethod) : String :=
  match m.val.toNat with
  | 0 => "unspecified"
  | 1 => "get"
  | 2 => "put"
  | 3 => "post"
  | 4 => "delete"
  | 5 => "patch"
  | n => s!"HTTPMethod({n})"

end HTTPMethod

/-- `domain.RateLimitDescriptionBy`, a `uint8` enum: `ENUM(ip, subject_id)`. -/
structure RateLimitDescriptionBy where
  val : UInt8
deriving DecidableEq

def RateLimitDescriptionBy.ip : RateLimitDescriptionBy := ⟨0⟩
def RateLimitDescriptionBy.subjectId : RateLimitDescriptionBy := ⟨1⟩

/-- `domain.RateLimiterDescription`. -/
structure RateLimiterDescription where
  «by» : RateLimitDescriptionBy
  rate : UInt64
  burst : UInt64
  period : Duration
deriving DecidableEq

/-- `domain.ProviderDescriptionMethod`. -/
structure ProviderDescriptionMethod where
  method : String
  auditEnabled : Bool
  rateLimiter : Option RateLimiterDescription
  requiredAuthentication : Bool
  requiredPermissions : List String
  allowedHTTPMethods : MapSet HTTPMethod
deriving DecidableEq

/-- `domain.ProviderDescription`: a backend's declared policy. -/
structure ProviderDescription where
  auditEnabled : Bool
  rateLimiter : Option RateLimiterDescription
  requireAuthentication : Bool
  requiredPermissions : List String
  descriptionByMethod : GoMap String ProviderDescriptionMethod
deriving DecidableEq

namespace ProviderDescription

/-! ### Policy resolution -/

/-- The shape `NeedAudit` and `NeedAuthentication` share: the service's flag
short-circuits, else the method's flag if the method is described. -/
def serviceOrMethodFlag (service : Bool) (flag : ProviderDescriptionMethod → Bool)
    (p : ProviderDescription) (method : String) : Bool :=
  if service then true
  else match p.descriptionByMethod.get? method with
    | some desc => flag desc
    | none => false

/-- `ProviderDescription.NeedAudit`. -/
def needAudit (p : ProviderDescription) (method : String) : Bool :=
  serviceOrMethodFlag p.auditEnabled (·.auditEnabled) p method

/-- `ProviderDescription.NeedAuthentication`. -/
def needAuthentication (p : ProviderDescription) (method : String) : Bool :=
  serviceOrMethodFlag p.requireAuthentication (·.requiredAuthentication) p method

/-- `ProviderDescription.SelectRateLimiter`: the method's limiter when the
method is described and has one (`false`), else the service's (`true`). -/
def selectRateLimiter (p : ProviderDescription) (method : String) :
    Option RateLimiterDescription × Bool :=
  match (p.descriptionByMethod.get? method).bind (·.rateLimiter) with
  | some desc => (some desc, false)
  | none => (p.rateLimiter, true)

/-- `ProviderDescription.Permissions`. -/
def permissions (p : ProviderDescription) (method : String) : List String :=
  match p.descriptionByMethod.get? method with
  | some desc => merge p.requiredPermissions desc.requiredPermissions
  | none => p.requiredPermissions

section Described

variable {p : ProviderDescription} {method : String} {desc : ProviderDescriptionMethod}

theorem serviceOrMethodFlag_of_get? (service : Bool) (flag : ProviderDescriptionMethod → Bool)
    (h : p.descriptionByMethod.get? method = some desc) :
    serviceOrMethodFlag service flag p method = (service || flag desc) := by
  cases service <;> simp [serviceOrMethodFlag, h]

theorem selectRateLimiter_of_get? (h : p.descriptionByMethod.get? method = some desc) :
    p.selectRateLimiter method =
      match desc.rateLimiter with
      | some l => (some l, false)
      | none => (p.rateLimiter, true) := by
  cases hl : desc.rateLimiter <;> simp [selectRateLimiter, h, hl]

theorem permissions_of_get? (h : p.descriptionByMethod.get? method = some desc) :
    p.permissions method = merge p.requiredPermissions desc.requiredPermissions := by
  simp [permissions, h]

end Described

/-- A selected limiter is the service's or a described method's. -/
theorem selectRateLimiter_eq_some {p : ProviderDescription} {method : String}
    {l : RateLimiterDescription} {svc : Bool} (h : p.selectRateLimiter method = (some l, svc)) :
    p.rateLimiter = some l ∨
      ∃ desc, p.descriptionByMethod.get? method = some desc ∧ desc.rateLimiter = some l := by
  unfold selectRateLimiter at h
  split at h
  next hd =>
    cases h
    obtain ⟨desc, hdesc, hl⟩ := Option.bind_eq_some.mp hd
    exact .inr ⟨desc, hdesc, hl⟩
  next => exact .inl (Prod.mk.inj h).1

/-- A service that lists `read:greeting` twice; its method `hello` adds no
permission. -/
def repeatedPermissions : ProviderDescription where
  auditEnabled := false
  rateLimiter := none
  requireAuthentication := false
  requiredPermissions := ["read:greeting", "read:greeting"]
  descriptionByMethod :=
    GoMap.ofList [("hello", ⟨"hello", false, none, false, [], MapSet.ofList [.get]⟩)]

/-- **`Merge` keeps the repeats of its first list**: it holds every element of
both lists and nothing else, but it is free of duplicates exactly when the part
of `s1` outside `s2` is. So a service that lists a permission twice resolves a
described method's permissions with that permission twice. -/
theorem merge_keeps_repeats_of_first_list :
    (∀ {α : Type} [DecidableEq α] (s1 s2 : List α),
      (∀ a, a ∈ merge s1 s2 ↔ a ∈ s1 ∨ a ∈ s2) ∧
        ((merge s1 s2).Nodup ↔ (s1.filter fun a => a ∉ s2).Nodup)) ∧
      repeatedPermissions.permissions "hello" = ["read:greeting", "read:greeting"] :=
  ⟨fun s1 s2 => ⟨mem_merge s1 s2, merge_nodup_iff s1 s2⟩, by decide⟩

end ProviderDescription

/-- `domain.SubjectInformation`: the identity a validated bearer token
carries. -/
structure SubjectInformation where
  id : String
  permissions : MapSet String
deriving DecidableEq

/-- `SubjectInformation.Validate`. -/
def SubjectInformation.validate (u : SubjectInformation) : Except String Unit :=
  if u.id = "" then .error "ID cannot be empty" else .ok ()

/-- `domain.ProcessRequest`: an inbound request as the handler builds it. -/
structure ProcessRequest where
  service : String
  httpMethod : HTTPMethod
  apiMethod : String
  path : String
  query : String
  body : Bytes
  headers : Header
  remoteAddr : String

/-- `ProcessRequest.Validate`. -/
def ProcessRequest.validate (r : ProcessRequest) : Except String Unit :=
  if r.service = "" then .error "service might be not empty"
  else if r.apiMethod = "" then .error "API method might be not empty"
  else if r.httpMethod.val = 0 then .error "HTTP method might be not empty"
  else .ok ()

/-- `domain.ProviderProcessRequest`: what the gateway sends a backend. -/
structure ProviderProcessRequest where
  apiMethod : String
  httpMethod : HTTPMethod
  path : String
  query : String
  body : Bytes
  headers : Header
  subjectInformation : Option SubjectInformation
deriving DecidableEq

/-- `ProviderProcessRequest.Preprocess`: drop the bearer token. -/
def ProviderProcessRequest.preprocess (p : ProviderProcessRequest) : ProviderProcessRequest :=
  { p with headers := p.headers.del "Authorization" }

/-- `domain.ProviderProcessResponse`. A nil header map is the empty one. -/
structure ProviderProcessResponse where
  body : Bytes
  statusCode : UInt32
  headers : Header
deriving DecidableEq

/-- `ProviderProcessResponse.SetDefaults`: a non-empty body without a
`Content-Type` gets `application/json`. -/
def ProviderProcessResponse.setDefaults (p : ProviderProcessResponse) : ProviderProcessResponse :=
  if p.body.length ≠ 0 then
    if p.headers.get "Content-Type" = "" then
      { p with headers := p.headers.set "Content-Type" "application/json" }
    else p
  else p

namespace ProviderProcessResponse

@[simp] theorem setDefaults_statusCode (p : ProviderProcessResponse) :
    p.setDefaults.statusCode = p.statusCode := by
  unfold setDefaults; split_ifs <;> rfl

@[simp] theorem setDefaults_body (p : ProviderProcessResponse) : p.setDefaults.body = p.body := by
  unfold setDefaults; split_ifs <;> rfl

theorem setDefaults_headers (p : ProviderProcessResponse) :
    p.setDefaults.headers =
      if p.body.length ≠ 0 ∧ p.headers.get "Content-Type" = "" then
        p.headers.set "Content-Type" "application/json"
      else p.headers := by
  unfold setDefaults; split_ifs <;> simp_all

end ProviderProcessResponse

end ApiGateway
