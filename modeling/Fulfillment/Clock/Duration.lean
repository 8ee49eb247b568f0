/-!
# Spans of time

A `Duration` is a signed count of nanoseconds that fits in 64 bits. A span given in
milliseconds is turned into nanoseconds with 64-bit arithmetic, so a count too large for it wraps
around: 18446744073710 ms is 448384 ns, and 9223372036855 ms is a negative span. A span is read
back in whole milliseconds by truncating toward zero.

`wrapInt64` reduces an integer into the signed 64-bit range modulo `2 ^ 64`, and `clampInt64`
cuts it at the ends of that range.
-/

namespace Fulfillment

theorem int_pow_two_63 : Int.pow 2 63 = 9223372036854775808 := rfl

theorem int_pow_two_64 : Int.pow 2 64 = 18446744073709551616 := rfl

/-- The integer in `[-2 ^ 63, 2 ^ 63)` congruent to `n` modulo `2 ^ 64`. -/
def wrapInt64 (n : Int) : Int := (n + Int.pow 2 63) % Int.pow 2 64 - Int.pow 2 63

/-- The integer of `[-2 ^ 63, 2 ^ 63)` nearest to `n`. -/
def clampInt64 (n : Int) : Int := max (-(Int.pow 2 63)) (min (Int.pow 2 63 - 1) n)

/-- Wrapping a partial sum first wraps the whole sum the same way. -/
theorem wrapInt64_wrapInt64_add (a b : Int) : wrapInt64 (wrapInt64 a + b) = wrapInt64 (a + b) := by
  unfold wrapInt64
  rw [int_pow_two_63, int_pow_two_64]
  omega

theorem wrapInt64_lt (n : Int) : wrapInt64 n < Int.pow 2 63 := by
  unfold wrapInt64
  rw [int_pow_two_63, int_pow_two_64]
  omega

/-- A signed span of time in nanoseconds, within 64 bits. -/
structure Duration where
  ns : Int
  deriving DecidableEq, Inhabited, Repr

namespace Duration

/-- The span of a count of milliseconds, wrapped into 64-bit nanoseconds. -/
def ofMillis (ms : Int) : Duration := ⟨wrapInt64 (ms * 1000000)⟩

/-- The span in whole milliseconds, truncated toward zero. -/
def toMillis (d : Duration) : Int := d.ns.tdiv 1000000

/-- A span of whole seconds. -/
def ofSeconds (s : Nat) : Duration := ⟨s * 1000000000⟩

/-- The span, or `fallback` when the span is not positive. -/
def orDefault (d fallback : Duration) : Duration := if d.ns ≤ 0 then fallback else d

theorem wrapInt64_of_fits {n : Int} (lo : -(Int.pow 2 63) ≤ n) (hi : n < Int.pow 2 63) :
    wrapInt64 n = n := by
  rw [int_pow_two_63] at lo hi
  unfold wrapInt64
  rw [int_pow_two_63, int_pow_two_64, Int.emod_eq_of_lt (by omega) (by omega)]
  omega

end Duration

end Fulfillment
