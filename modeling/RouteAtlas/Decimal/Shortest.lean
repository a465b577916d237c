import RouteAtlas.Decimal.Binary64

/-!
# Shortest decimals

A binary floating point number is written with the fewest decimal digits that read back as the
same number, and among those with the digits nearest to it. Where two decimals of that length
are equally near, a rule says which one it is.
-/

namespace RouteAtlas.Decimal

/-- The decimal fraction `digits * 10 ^ exponent`. -/
structure Digits where
  digits : Nat
  exponent : Int
  deriving DecidableEq, Repr

/-- Which one of two equally near decimals is taken. -/
inductive Tie where
  /-- The one with an even last digit. -/
  | even
  /-- The larger one. -/
  | up
  deriving DecidableEq, Repr

/-- Whether `below` is taken and not the number after it, both being equally near. -/
def Tie.takesBelow (tie : Tie) (below : Nat) : Bool :=
  match tie with
  | .even => below % 2 == 0
  | .up => false

namespace Shortest

/-- A positive number with the ends of the interval of fractions that round to it, all over
one denominator. -/
structure Interval where
  value : Nat
  low : Nat
  high : Nat
  denominator : Nat
  /-- Whether the ends themselves round to the number. -/
  closed : Bool

/-- The fractions that round to a number. Below a power of two the next number is only half as
far away. -/
def Interval.of (number : Binary64) : Interval :=
  let fraction := number.fraction
  let unit := if number.exponent < 0 then 1 else Nat.pow 2 number.exponent.natAbs
  let below := if number.significand = Nat.pow 2 52 ∧ number.exponent > Binary64.minExponent
    then unit else 2 * unit
  ⟨4 * fraction.1, 4 * fraction.1 - below, 4 * fraction.1 + 2 * unit, 4 * fraction.2,
    number.significand % 2 = 0⟩

/-- The fraction `count * 10 ^ power` over the interval's denominator, scaled so that all four
stay whole: the scale and the scaled count. -/
def scaledPoint (interval : Interval) (count : Nat) (power : Int) : Nat × Nat :=
  if power < 0 then (Nat.pow 10 power.natAbs, count * interval.denominator)
  else (1, count * Nat.pow 10 power.natAbs * interval.denominator)

/-- Whether `count * 10 ^ power` rounds to the number. -/
def Interval.holds (interval : Interval) (count : Nat) (power : Int) : Bool :=
  let (scale, point) := scaledPoint interval count power
  if interval.closed then interval.low * scale ≤ point && point ≤ interval.high * scale
  else interval.low * scale < point && point < interval.high * scale

/-- How far `count * 10 ^ power` is from the number, in scaled units. -/
def Interval.distance (interval : Interval) (count : Nat) (power : Int) : Nat :=
  let (scale, point) := scaledPoint interval count power
  max point (interval.value * scale) - min point (interval.value * scale)

/-- The number divided by `10 ^ power`, rounded down. -/
def Interval.floorAt (interval : Interval) (power : Int) : Nat :=
  if power < 0 then interval.value * Nat.pow 10 power.natAbs / interval.denominator
  else interval.value / (interval.denominator * Nat.pow 10 power.natAbs)

/-- The power of ten of the number's first digit. -/
def leadingPower (number : Binary64) (interval : Interval) : Int :=
  let bits : Int := number.significand.log2 + number.exponent
  let guess := Int.fdiv (bits * 30103) 100000
  if interval.floorAt (guess + 1) ≥ 1 then guess + 1
  else if interval.floorAt guess = 0 then guess - 1
  else guess

/-- The nearest decimal at a power of ten that rounds to the number, if there is one. -/
def nearest? (tie : Tie) (interval : Interval) (power : Int) : Option Nat :=
  let below := interval.floorAt power
  match interval.holds below power, interval.holds (below + 1) power with
  | true, true =>
    match compare (interval.distance below power) (interval.distance (below + 1) power) with
    | .lt => some below
    | .eq => some (if tie.takesBelow below then below else below + 1)
    | .gt => some (below + 1)
  | true, false => some below
  | false, true => some (below + 1)
  | false, false => none

/-- Tries more and more digits; `left` counts the tries that remain. -/
def search (tie : Tie) (interval : Interval) (power : Int) : (left : Nat) → Digits
  | 0 => ⟨interval.floorAt power, power⟩
  | left + 1 =>
    match nearest? tie interval power with
    | some count => ⟨count, power⟩
    | none => search tie interval (power - 1) left

end Shortest

/-- The digits without the zeros at their end; `left` bounds the number of zeros. -/
def Digits.trim : (left : Nat) → Digits → Digits
  | 0, digits => digits
  | left + 1, ⟨digits, exponent⟩ =>
    if digits ≠ 0 ∧ digits % 10 = 0 then Digits.trim left ⟨digits / 10, exponent + 1⟩
    else ⟨digits, exponent⟩

/-- The shortest decimal of a number's magnitude. -/
def shortest (tie : Tie) (number : Binary64) : Digits :=
  if number.significand = 0 then ⟨0, 0⟩
  else
    let interval := Shortest.Interval.of number
    Digits.trim 20 (Shortest.search tie interval (Shortest.leadingPower number interval) 17)

def zeros (count : Nat) : String :=
  String.ofList (List.replicate count '0')

/-- Digits with a point, and with a digit on both sides of it. -/
def positional (value : Digits) : String :=
  let text := toString value.digits
  let point : Int := text.length + value.exponent
  if 0 ≤ value.exponent then text ++ zeros value.exponent.natAbs ++ ".0"
  else if 0 < point then
    String.ofList (text.toList.take point.natAbs) ++ "." ++
      String.ofList (text.toList.drop point.natAbs)
  else "0." ++ zeros point.natAbs ++ text

/-- One digit before the point and a signed power of ten. -/
def scientific (value : Digits) : String :=
  let text := (toString value.digits).toList
  let power : Int := text.length - 1 + value.exponent
  let mantissa := match text with
    | [] => ""
    | [c] => String.singleton c
    | c :: cs => String.singleton c ++ "." ++ String.ofList cs
  mantissa ++ "e" ++ (if power < 0 then "-" else "+") ++ toString power.natAbs

/-- A number with its digits in place, however large; ties go up. -/
def Binary64.plainText (number : Binary64) : String :=
  (if number.negative then "-" else "") ++ positional (shortest .up number)

/-- A number with its digits in place from `0.00001` up to sixteen digits before the point, and
with a power of ten beyond; ties go to the even digit. -/
def Binary64.compactText (number : Binary64) : String :=
  let value := shortest .even number
  let point : Int := (toString value.digits).length + value.exponent
  (if number.negative then "-" else "") ++
    (if value.digits = 0 ∨ (-5 < point ∧ point ≤ 16) then positional value
      else scientific value)

end RouteAtlas.Decimal
