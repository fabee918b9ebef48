import ApiGateway.Go.Map
import ApiGateway.Go.Strings
import ApiGateway.Go.Time

/-!
The gateway–backend wire format, `contract/v1`, and `durationpb`.

The generated package `pkg/pb/contract/v1` is not part of the sources; its
messages are modelled from the spec's description of the two operations and
from the fields the adapters read and write. Enums are open, as proto3 enums
are: a value outside the named ones can arrive. A message field is `Option`
where the Go code sees a pointer that can be nil.

`Duration.new` and `Duration.asDuration` are `durationpb.New` and
`AsDuration`; every `time.Duration` survives the round trip
(`asDuration_new`).
-/

namespace ApiGateway

namespace Pb

/-- Modelled from the spec: the generated enum `HttpMethod`. -/
structure HttpMethod where
  val : Int
deriving DecidableEq

namespace HttpMethod

/-- `HTTP_METHOD_UNSPECIFIED`. -/
def unspecified : HttpMethod := ⟨0⟩
/-- `HTTP_METHOD_GET`. -/
def get : HttpMethod := ⟨1⟩
/-- `HTTP_METHOD_PUT`. -/
def put : HttpMethod := ⟨2⟩
/-- `HTTP_METHOD_POST`. -/
def post : HttpMethod := ⟨3⟩
/-- `HTTP_METHOD_DELETE`. -/
def delete : HttpMethod := ⟨4⟩
/-- `HTTP_METHOD_PATCH`. -/
def patch : HttpMethod := ⟨5⟩

end HttpMethod

/-- Modelled from the spec: the generated enum `RateLimitBy`. -/
structure RateLimitBy where
  val : Int
deriving DecidableEq

namespace RateLimitBy

/-- `RATE_LIMIT_BY_UNSPECIFIED`, the zero value. -/
def unspecified : RateLimitBy := ⟨0⟩
/-- `RATE_LIMIT_BY_IP`. -/
def ip : RateLimitBy := ⟨1⟩
/-- `RATE_LIMIT_BY_SUBJECT_ID`. -/
def subjectId : RateLimitBy := ⟨2⟩

end RateLimitBy

/-- `durationpb.Duration`: `int64` seconds and `int32` nanoseconds. -/
structure Duration where
  seconds : Int
  nanos : Int
deriving DecidableEq

/-- Modelled from the spec: the generated message `RateLimiter`. -/
structure RateLimiter where
  «by» : RateLimitBy
  limit : UInt64
  burst : UInt64
  period : Option Duration
deriving DecidableEq

/-- Modelled from the spec: the generated message `DescriptionMethod`. -/
structure DescriptionMethod where
  method : String
  auditEnabled : Bool
  requiredAuthentication : Bool
  rateLimiter : Option RateLimiter
  requiredPermissions : List String
  allowedHttpMethods : List HttpMethod
deriving DecidableEq

/-- Modelled from the spec: the generated message `DescriptionResponse`, a
backend's answer to `Description`. -/
structure DescriptionResponse where
  auditEnabled : Bool
  requiredAuthentication : Bool
  rateLimiter : Option RateLimiter
  requiredPermissions : List String
  methods : List DescriptionMethod
deriving DecidableEq

/-- Modelled from the spec: the generated message `HeaderValue`. -/
structure HeaderValue where
  values : List String
deriving DecidableEq

/-- Modelled from the spec: the generated message `SubjectInformation`. -/
structure SubjectInformation where
  id : String
  permissions : List String
deriving DecidableEq

/-- Modelled from the spec: the generated message `ProcessRequest`. -/
structure ProcessRequest where
  apiMethod : String
  httpMethod : HttpMethod
  path : String
  query : String
  body : Bytes
  headers : GoMap String HeaderValue
  subjectInformation : Option SubjectInformation
deriving DecidableEq

/-- Modelled from the spec: the generated message `ProcessResponse`. -/
structure ProcessResponse where
  body : Bytes
  statusCode : UInt32
  headers : GoMap String HeaderValue
deriving DecidableEq

/-! ### Conversions the gateway and the SDK share

Both sides convert their own `uint8` method enum, numbered alike, with the same
switch, and copy header maps with the same loop. -/

namespace HttpMethod

/-- The switch of `httpMethodToProto`, on the enum's value: a value outside
the five methods is `UNSPECIFIED`. -/
def ofEnum (v : UInt8) : HttpMethod :=
  if v = 1 then .get
  else if v = 2 then .put
  else if v = 3 then .post
  else if v = 4 then .delete
  else if v = 5 then .patch
  else .unspecified

/-- The switch of `httpMethodFromProto`, to the enum's value: an unnamed
method is `unspecified`, 0. -/
def toEnum (method : HttpMethod) : UInt8 :=
  if method = .get then 1
  else if method = .put then 2
  else if method = .post then 3
  else if method = .delete then 4
  else if method = .patch then 5
  else 0

theorem toEnum_le (method : HttpMethod) : (toEnum method).toNat ≤ 5 := by
  unfold toEnum; split_ifs <;> decide

/-- The method switches invert each other on the six named values. -/
theorem toEnum_ofEnum {v : UInt8} (h : v.toNat ≤ 5) : (ofEnum v).toEnum = v := by
  obtain ⟨⟨⟨n, hn⟩⟩⟩ := v
  change n ≤ 5 at h
  match n, hn, h with
  | 0, _, _ | 1, _, _ | 2, _, _ | 3, _, _ | 4, _, _ | 5, _, _ => rfl
  | _ + 6, _, h => omega

end HttpMethod

/-- The loop of `headersToProto`. -/
def headerValues (headers : GoMap String (List String)) : GoMap String HeaderValue :=
  headers.mapValues fun values => ⟨values⟩

/-- The loop of `headersFromProto`. -/
def headerLists (headers : GoMap String HeaderValue) : GoMap String (List String) :=
  headers.mapValues (·.values)

@[simp] theorem get?_headerLists_headerValues (headers : GoMap String (List String)) (k : String) :
    (headerLists (headerValues headers)).get? k = headers.get? k := by
  simp [headerLists, headerValues]
  cases headers.get? k <;> rfl

/-! ### `durationpb` -/

namespace Duration

/-- `durationpb.New`: whole seconds and the remaining nanoseconds, both
truncated toward zero. -/
def new (d : ApiGateway.Duration) : Duration :=
  let nanos := d.nanoseconds
  let secs := nanos.tdiv 1000000000
  ⟨secs, nanos - secs * 1000000000⟩

/-- `(*durationpb.Duration).AsDuration`: `seconds * time.Second + nanos` in
`int64`, saturated when it overflows. A nil message reads as zero. -/
def asDuration (x : Duration) : ApiGateway.Duration :=
  let secs := x.seconds
  let nanos := x.nanos
  let d := wrapInt64 (secs * 1000000000)
  let overflow := d.tdiv 1000000000 != secs
  let d := wrapInt64 (d + nanos)
  let overflow := overflow || (secs < 0 && nanos < 0 && d > 0) || (secs > 0 && nanos > 0 && d < 0)
  if overflow && secs < 0 then .ofInt (-2 ^ 63)
  else if overflow && secs > 0 then .ofInt (2 ^ 63 - 1)
  else .ofInt d

/-- The remainder `New` stores has the sign of the duration and is below a
second in magnitude. -/
theorem tmod_second_bounds (n : Int) :
    (0 ≤ n → 0 ≤ n.tmod 1000000000 ∧ n.tmod 1000000000 < 1000000000) ∧
    (n < 0 → -1000000000 < n.tmod 1000000000 ∧ n.tmod 1000000000 ≤ 0) := by
  have neg : n.tmod 1000000000 = -((-n).tmod 1000000000) := by
    rw [Int.tmod_def, Int.tmod_def, Int.neg_tdiv]; omega
  refine ⟨fun h => ⟨Int.tmod_nonneg _ h, Int.tmod_lt_of_pos _ (by decide)⟩, fun h => ?_⟩
  have := Int.tmod_nonneg 1000000000 (by omega : 0 ≤ -n)
  have := Int.tmod_lt_of_pos (-n) (by decide : (0 : Int) < 1000000000)
  omega

/-- **`durationpb` round trip**: `AsDuration` inverts `New` on every
`time.Duration`, with no overflow on the way. -/
theorem asDuration_new (d : ApiGateway.Duration) : (new d).asDuration = d := by
  obtain ⟨n, h₁, h₂⟩ := d
  have hb := tmod_second_bounds n
  have hdm := Int.tdiv_add_tmod' n 1000000000
  have hsecs : wrapInt64 (n.tdiv 1000000000 * 1000000000) = n.tdiv 1000000000 * 1000000000 :=
    wrapInt64_of_mem (by omega) (by omega)
  have hsum :
      wrapInt64 (n.tdiv 1000000000 * 1000000000 + (n - n.tdiv 1000000000 * 1000000000)) = n :=
    (congrArg wrapInt64 (by omega)).trans (wrapInt64_of_mem h₁ h₂)
  simp only [new, asDuration, hsecs, hsum, Int.mul_tdiv_cancel _ (by decide : (1000000000 : Int) ≠ 0),
    bne_self_eq_false, Bool.false_or]
  rw [if_neg (by simp; omega), if_neg (by simp; omega)]
  exact ApiGateway.Duration.ofInt_nanoseconds_eq ⟨n, h₁, h₂⟩

end Duration

end Pb

end ApiGateway
