/-!
# Binary32 numbers

The 32-bit binary floating point format, as far as this library needs it: rounding an exact quotient,
comparing two numbers, and the bits of a number. A number other than NaN is a sign and a magnitude; the
magnitude is kept as its bit pattern, since the patterns of magnitudes are ordered as the magnitudes
are, with the largest for infinity.
-/

namespace ShaderBundle

/-- A binary32 number. -/
inductive Binary32 where
  /-- No number. -/
  | nan
  /-- A sign, and the bits of a magnitude. -/
  | signed (negative : Bool) (magnitude : Nat)
deriving DecidableEq

namespace Binary32

/-- The bits of the magnitude of infinity. -/
def infinity : Nat := 0x7F800000

/-- The bit that stands for a minus. -/
def signBit : Nat := 0x80000000

/-- The number with the given bits. -/
def ofBits (bits : UInt32) : Binary32 :=
  let magnitude := bits.toNat % signBit
  if magnitude ≤ infinity then .signed (signBit ≤ bits.toNat) magnitude else .nan

/-- The bits of a number; NaN has no bits of its own. -/
def bits? : Binary32 → Option Nat
  | .nan => none
  | .signed negative magnitude => some (if negative then signBit + magnitude else magnitude)

/-- The integer nearest to a quotient; of two that are equally near, the even one. -/
def divNearest (num den : Nat) : Nat :=
  let quotient := num / den
  match compare (2 * (num % den)) den with
  | .lt => quotient
  | .gt => quotient + 1
  | .eq => quotient + quotient % 2

/-- The greatest `e` with `2 ^ e` at most the quotient of two positive numbers. -/
def exponent (num den : Nat) : Int :=
  let e : Int := num.log2 - den.log2
  if den <<< e.toNat ≤ num <<< (-e).toNat then e else e - 1

/--
The bits of the magnitude nearest to a quotient of positive numbers. With 24 bits for the significand and
units no smaller than `2 ^ -149`, the number of units is added to the bits of the binade's start less its
first unit count, so that a count that rounds up to the next binade needs no care.
-/
def magnitudeOf (num den : Nat) : Nat :=
  let unit := max (exponent num den - 23) (-149)
  let units := divNearest (num <<< (-unit).toNat) (den <<< unit.toNat)
  min infinity ((unit + 149).toNat <<< 23 + units)

/-- The number nearest to the quotient of two natural numbers, the second of which is not zero. -/
def ofRatio (negative : Bool) (num den : Nat) : Binary32 :=
  .signed negative (if num = 0 then 0 else magnitudeOf num den)

/-- Whether the first number is greater than the second; NaN is neither greater nor less. -/
def exceeds : Binary32 → Binary32 → Bool
  | .signed n₁ m₁, .signed n₂ m₂ => value n₂ m₂ < value n₁ m₁
  | _, _ => false
where
  /-- An integer that grows with the number; both zeros have zero. -/
  value (negative : Bool) (magnitude : Nat) : Int := if negative then -magnitude else magnitude

end Binary32

end ShaderBundle
