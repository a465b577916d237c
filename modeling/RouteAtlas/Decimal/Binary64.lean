/-!
# Binary floating point numbers

A number of the 64-bit binary format is a significand of at most 53 bits times a power of
two. Arithmetic on them is exact arithmetic followed by rounding to the nearest such number,
of two equally near ones the one with an even significand.
-/

namespace RouteAtlas.Decimal

/-- The finite number `significand * 2 ^ exponent`, negated if `negative`. -/
structure Binary64 where
  negative : Bool
  significand : Nat
  exponent : Int
  deriving DecidableEq, Repr

namespace Binary64

/-- The exponent of the smallest positive number. -/
def minExponent : Int := -1074

/-- The largest exponent of a finite number. -/
def maxExponent : Int := 971

/-- `numerator / (denominator * 2 ^ exponent)` as a fraction. -/
def scaled (numerator denominator : Nat) (exponent : Int) : Nat × Nat :=
  if exponent < 0 then (numerator * Nat.pow 2 exponent.natAbs, denominator)
  else (numerator, denominator * Nat.pow 2 exponent.natAbs)

/-- A fraction rounded to a whole number, a half to the even neighbour. -/
def roundHalfEven (numerator denominator : Nat) : Nat :=
  let quotient := numerator / denominator
  let rest := numerator % denominator
  if 2 * rest > denominator || (2 * rest == denominator && quotient % 2 == 1) then quotient + 1
  else quotient

/-- The exponent at which a fraction has a significand of 53 bits, or the smallest one. -/
def exponentOf (numerator denominator : Nat) : Int :=
  let guess : Int := numerator.log2 - denominator.log2 - 52
  let fraction := scaled numerator denominator guess
  let quotient := fraction.1 / fraction.2
  let exact := if quotient < Nat.pow 2 52 then guess - 1 else guess
  max exact minExponent

/-- The number nearest to a fraction; none when it is too large. -/
def ofFraction? (negative : Bool) (numerator denominator : Nat) : Option Binary64 :=
  if numerator = 0 then some ⟨negative, 0, minExponent⟩
  else
    let exponent := exponentOf numerator denominator
    let fraction := scaled numerator denominator exponent
    let significand := roundHalfEven fraction.1 fraction.2
    let number : Binary64 :=
      if significand = Nat.pow 2 53 then ⟨negative, Nat.pow 2 52, exponent + 1⟩
      else ⟨negative, significand, exponent⟩
    if number.exponent > maxExponent then none else some number

def ofNat? (n : Nat) : Option Binary64 :=
  ofFraction? false n 1

/-- The number as a fraction, without its sign. -/
def fraction (number : Binary64) : Nat × Nat :=
  if number.exponent < 0 then (number.significand, Nat.pow 2 number.exponent.natAbs)
  else (number.significand * Nat.pow 2 number.exponent.natAbs, 1)

def mul? (left right : Binary64) : Option Binary64 :=
  ofFraction? false (left.fraction.1 * right.fraction.1) (left.fraction.2 * right.fraction.2)

def div? (left right : Binary64) : Option Binary64 :=
  ofFraction? false (left.fraction.1 * right.fraction.2) (left.fraction.2 * right.fraction.1)

/-- The number nearest to a decimal fraction `digits * 10 ^ exponent`. Exponents far outside
the format's range are told apart without computing the power. -/
def ofDecimal? (negative : Bool) (digits : Nat) (exponent : Int) : Option Binary64 :=
  let size : Int := (Nat.toDigits 10 digits).length + exponent
  if digits = 0 then some ⟨negative, 0, minExponent⟩
  else if size > 400 then none
  else if size < -400 then some ⟨negative, 0, minExponent⟩
  else if exponent < 0 then ofFraction? negative digits (Nat.pow 10 exponent.natAbs)
  else ofFraction? negative (digits * Nat.pow 10 exponent.natAbs) 1

end Binary64

end RouteAtlas.Decimal
