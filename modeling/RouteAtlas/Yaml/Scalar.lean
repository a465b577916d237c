import RouteAtlas.Data.Mismatch
import RouteAtlas.Decimal.Shortest
import RouteAtlas.Text.Pieces

/-!
# Plain scalars

A scalar without quotes stands for null, a flag or a number if it is spelled like one, and for
itself otherwise. Whole numbers are written in base ten, or after `0x`, `0o` and `0b` in base
sixteen, eight and two. Digits after a leading zero are no number.
-/

namespace RouteAtlas.Yaml

open Decimal Text

/-- The widths that whole numbers fall into. -/
inductive Width where
  | word
  | wideNatural
  | wideInteger
  deriving DecidableEq, Repr

/-- What a scalar stands for. -/
inductive Scalar where
  | null
  | flag (value : Bool)
  | integer (value : Int) (width : Width)
  | float (value : Binary64)
  | infinity (negative : Bool)
  | notNumber
  | text
  deriving DecidableEq, Repr

def isSign (c : Char) : Bool :=
  c == '+' || c == '-'

def isSigned (cs : List Char) : Bool :=
  cs.head?.any isSign

/-- The value of a digit in a base of at most sixteen. -/
def digitIn? (base : Nat) (c : Char) : Option Nat :=
  let value :=
    if c.isDigit then c.toNat - '0'.toNat
    else if 'a' ≤ c ∧ c ≤ 'f' then c.toNat - 'a'.toNat + 10
    else if 'A' ≤ c ∧ c ≤ 'F' then c.toNat - 'A'.toNat + 10
    else base
  if value < base then some value else none

/-- The number that digits in a base make up, appended to a first part of it. -/
def gather? (base : Nat) (start : Nat) : List Char → Option Nat
  | [] => some start
  | c :: cs => (digitIn? base c).bind fun digit => gather? base (start * base + digit) cs

/-- The number that one or more digits in a base make up. -/
def number? (base : Nat) (cs : List Char) : Option Nat :=
  if cs.isEmpty then none else gather? base 0 cs

/-- The marks of bases other than ten. -/
def bases : List (List Char × Nat) :=
  [(['0', 'x'], 16), (['0', 'o'], 8), (['0', 'b'], 2)]

/-- Whether a scalar is digits after a leading zero. -/
def hasLeadingZero (cs : List Char) : Bool :=
  match (if isSigned cs then cs.tail else cs) with
  | '0' :: c :: rest => (c :: rest).all Char.isDigit
  | _ => false

/-- The number after the mark of one of the bases. -/
def markedNumber? (cs : List Char) : Option Nat :=
  bases.findSome? fun base => (stripHead? base.1 cs).bind (number? base.2)

/-- The natural number below a limit that a scalar spells. -/
def natural? (limit : Nat) (cs : List Char) : Option Nat :=
  let magnitude := if cs.head? = some '+' then cs.tail else cs
  if isSigned magnitude then none
  else
    let value :=
      (markedNumber? magnitude).or (if hasLeadingZero cs then none else number? 10 magnitude)
    value.filter (· < limit)

/-- The magnitude, up to a limit, of the negative number that a scalar spells. -/
def negative? (limit : Nat) (cs : List Char) : Option Nat :=
  match cs with
  | '-' :: magnitude =>
    let value :=
      (markedNumber? magnitude).or (if hasLeadingZero cs then none else number? 10 magnitude)
    value.filter (· ≤ limit)
  | _ => none

/-- The whole number that a scalar spells, in the first width that holds it. -/
def integer? (cs : List Char) : Option Scalar :=
  ((natural? (Nat.pow 2 64) cs).map fun n => .integer n .word).or <|
  ((negative? (Nat.pow 2 63) cs).map fun n => .integer (-n) .word).or <|
  ((natural? (Nat.pow 2 128) cs).map fun n => .integer n .wideNatural).or <|
  ((negative? (Nat.pow 2 127) cs).map fun n => .integer (-n) .wideInteger)

/-- The power of ten after `e` or `E`, if nothing else follows. -/
def power? : List Char → Option Int
  | [] => some 0
  | c :: cs =>
    if c = 'e' ∨ c = 'E' then
      match cs with
      | '-' :: digits => (number? 10 digits).map fun n => -n
      | '+' :: digits => (number? 10 digits).map fun n => n
      | digits => (number? 10 digits).map fun n => n
    else none

/-- The number that digits with a point and a power of ten spell, without a sign. -/
def decimal? (negative : Bool) (cs : List Char) : Option Binary64 := do
  let whole := cs.takeWhile Char.isDigit
  let rest := cs.dropWhile Char.isDigit
  let (places, rest) := match rest with
    | '.' :: after => (after.takeWhile Char.isDigit, after.dropWhile Char.isDigit)
    | _ => ([], rest)
  let power ← power? rest
  let digits ← number? 10 (whole ++ places)
  Binary64.ofDecimal? negative digits (power - places.length)

def float? (cs : List Char) : Option Scalar :=
  let text := String.ofList cs
  let magnitude := if isSigned cs then cs.tail else cs
  if isSigned magnitude then none
  else if String.ofList magnitude ∈ [".inf", ".Inf", ".INF"] then
    some (.infinity (cs.head? = some '-'))
  else if text ∈ [".nan", ".NaN", ".NAN"] then some .notNumber
  else (decimal? (cs.head? = some '-') magnitude).map .float

/-- What a plain scalar stands for. -/
def resolve (text : String) : Scalar :=
  if text ∈ ["", "null", "Null", "NULL", "~"] then .null
  else if text ∈ ["true", "True", "TRUE"] then .flag true
  else if text ∈ ["false", "False", "FALSE"] then .flag false
  else if hasLeadingZero text.toList then .text
  else ((integer? text.toList).or (float? text.toList)).getD .text

/-- What a reader calls a scalar. -/
def Scalar.found (text : String) : Scalar → Found
  | .null => .unitValue
  | .flag value => .flag value
  | .integer value .word => .integer (toString value)
  | .integer value .wideNatural => .wideInteger (toString value) "u128"
  | .integer value .wideInteger => .wideInteger (toString value) "i128"
  | .float value => .float value.plainText
  | .infinity negative => .float (if negative then "-inf" else "inf")
  | .notNumber => .float "NaN"
  | .text => .text text

end RouteAtlas.Yaml
