import Mathlib.Algebra.Group.Int
import Mathlib.Data.List.Basic

/-!
Go's machine integers and run-time panics.

Machine integers are `Int`s with the wraparound made explicit: `wrapInt64` is
the value a two's-complement `int64` stores for an exact result, `toGoInt` is
the conversion `int(x)` from a `uint64` on a 64-bit target, and `toUInt32` is
`uint32(x)` from an `int`. A function that can panic returns `Except Panic`.
-/

namespace ApiGateway

/-- The `int64` a Go computation stores for the exact result `x`. -/
def wrapInt64 (x : Int) : Int := (x + 2 ^ 63) % 2 ^ 64 - 2 ^ 63

theorem wrapInt64_of_mem {x : Int} (h₁ : -2 ^ 63 ≤ x) (h₂ : x < 2 ^ 63) : wrapInt64 x = x := by
  unfold wrapInt64; omega

/-- A computation stores its exact result exactly when the result fits. -/
theorem wrapInt64_eq_self_iff {x : Int} : wrapInt64 x = x ↔ -2 ^ 63 ≤ x ∧ x < 2 ^ 63 :=
  ⟨fun h => by unfold wrapInt64 at h; omega, fun h => wrapInt64_of_mem h.1 h.2⟩

/-- `int(x)` for a `uint64` `x`: the same 64 bits read as signed. -/
def toGoInt (x : UInt64) : Int := wrapInt64 x.toNat

theorem toGoInt_of_lt {x : UInt64} (h : x.toNat < 2 ^ 63) : toGoInt x = x.toNat :=
  wrapInt64_of_mem (by omega) (by exact_mod_cast h)

theorem toGoInt_neg_of_ge {x : UInt64} (h : 2 ^ 63 ≤ x.toNat) : toGoInt x < 0 := by
  have : x.toNat < 2 ^ 64 := x.toNat_lt_size
  unfold toGoInt wrapInt64; omega

/-- `uint32(x)` for an `int` `x`: its low 32 bits. -/
def toUInt32 (x : Int) : UInt32 := UInt32.ofNat (x % 2 ^ 32).toNat

/-- A run-time panic of the Go program. -/
inductive Panic
  /-- `runtime error: invalid memory address or nil pointer dereference`. -/
  | nilPointerDereference
  /-- `http: invalid WriteHeader code`, raised by `ResponseWriter.WriteHeader`
  for a code outside `[100, 999]`. -/
  | invalidWriteHeaderCode (code : Int)
deriving DecidableEq

end ApiGateway
