import ApiGateway.Go.Runtime

/-!
`time.Duration`.

`Duration` carries its `int64` range as fields, so every duration the model
builds is one Go can hold. `Duration.string` is `Duration.String`, which the
rate-limit error message prints.
-/

namespace ApiGateway

/-- `time.Duration`: a signed 64-bit count of nanoseconds. -/
structure Duration where
  nanoseconds : Int
  ge_min : -2 ^ 63 ≤ nanoseconds
  lt_max : nanoseconds < 2 ^ 63
deriving DecidableEq

namespace Duration

/-- The duration a Go expression of type `time.Duration` holds when its exact
value is `x`. -/
def ofInt (x : Int) : Duration :=
  ⟨wrapInt64 x, by unfold wrapInt64; omega, by unfold wrapInt64; omega⟩

@[simp] theorem ofInt_nanoseconds (x : Int) : (ofInt x).nanoseconds = wrapInt64 x := rfl

theorem ofInt_nanoseconds_eq (d : Duration) : ofInt d.nanoseconds = d := by
  have := wrapInt64_of_mem d.ge_min d.lt_max
  cases d; simp_all [ofInt]

/-- `time.Second`. -/
def second : Duration := ⟨1000000000, by omega, by omega⟩

/-- `time.Minute`. -/
def minute : Duration := ⟨60000000000, by omega, by omega⟩

/-- `fmtFrac`: the digits of `v % 10^prec` after a point, trailing zeros (and
the point, when all of them are zero) dropped; and `v / 10^prec`. -/
def fmtFrac (v prec : Nat) : String × Nat :=
  let digits := ((List.range prec).map fun i => v / 10 ^ i % 10).dropWhile (· = 0)
  (if digits = [] then "" else "." ++ String.mk (digits.reverse.map Nat.digitChar), v / 10 ^ prec)

/-- `d.String()`: `72h3m0.5s`, `1.5s`, `2ms`, `0s`. -/
def string (d : Duration) : String :=
  let u := d.nanoseconds.natAbs
  let s :=
    if u = 0 then "0s"
    else if u < 1000000000 then
      let (unit, prec) :=
        if u < 1000 then ("ns", 0) else if u < 1000000 then ("µs", 3) else ("ms", 6)
      let (frac, w) := fmtFrac u prec
      toString w ++ frac ++ unit
    else
      let (frac, secs) := fmtFrac u 9
      let s := toString (secs % 60) ++ frac ++ "s"
      let mins := secs / 60
      if mins = 0 then s
      else
        let s := toString (mins % 60) ++ "m" ++ s
        let hours := mins / 60
        if hours = 0 then s else toString hours ++ "h" ++ s
  if d.nanoseconds < 0 then "-" ++ s else s

/-- `int(math.Ceil(d.Seconds()))`, computed exactly. The source goes through
`float64`, which rounds to this integer for every duration under 2^23 seconds
in magnitude. -/
def ceilSeconds (d : Duration) : Int := -(-d.nanoseconds / 1000000000)

end Duration

end ApiGateway
