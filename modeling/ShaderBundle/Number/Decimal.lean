import ShaderBundle.Number.Binary32
import ShaderBundle.Text.Digit
/-!
# Decimal numbers

The written form of a binary32 number: a sign or none, digits with a point among them or none, and an
exponent or none; or one of the words for infinity and NaN. The number read is the one nearest to what
is written.
-/

namespace ShaderBundle.Binary32

/-- A text as digits before and after a point, at least one in all, and what follows them. -/
def pointed? (t : Text) : Option (Text × Text × Text) :=
  let whole := t.takeWhile Char.isDigit
  let rest := t.dropWhile Char.isDigit
  let (fraction, rest) :=
    match rest with
    | '.' :: behind => (behind.takeWhile Char.isDigit, behind.dropWhile Char.isDigit)
    | _ => ([], rest)
  if whole ++ fraction = [] then none else some (whole, fraction, rest)

/-- A text without a sign at its start, and whether that was a minus. -/
def unsign : Text → Bool × Text
  | '-' :: rest => (true, rest)
  | '+' :: rest => (false, rest)
  | t => (false, t)

/-- The exponent that is all of a text; the empty text is the exponent zero. -/
def exponent? : Text → Option Int
  | [] => some 0
  | mark :: rest =>
    if mark = 'e' ∨ mark = 'E' then
      let (negative, digits) := unsign rest
      (Text.numeral? digits).map fun n => if negative then -n else n
    else none

/--
The number nearest to `digits * 10 ^ e`. A number that is surely too large or too small for the format
is not worked out, so that a long exponent costs no time.
-/
def ofDecimal (negative : Bool) (digits : Nat) (e : Int) : Binary32 :=
  let places : Int := (Text.decimal digits).length + e
  if digits = 0 ∨ places < -50 then .signed negative 0
  else if 50 < places then .signed negative infinity
  else ofRatio negative (digits * Nat.pow 10 e.toNat) (Nat.pow 10 (-e).toNat)

/-- Reads a number. -/
def ofText? (t : Text) : Option Binary32 :=
  let (negative, t) := unsign t
  let word := Text.upper t
  if word = "INF".toList ∨ word = "INFINITY".toList then some (.signed negative infinity)
  else if word = "NAN".toList then some .nan
  else do
    let (whole, fraction, rest) ← pointed? t
    let e ← exponent? rest
    return ofDecimal negative (Text.digitsValue 0 (whole ++ fraction)) (e - fraction.length)

end ShaderBundle.Binary32
