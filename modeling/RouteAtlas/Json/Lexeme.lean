import RouteAtlas.Data.Tree
import RouteAtlas.Json.Fault

/-!
# JSON lexemes

Reading the words, numbers and texts of JSON from the front of a list of characters.
-/

namespace RouteAtlas.Json

open Decimal

/-- The four characters that may stand between lexemes. -/
def isSpace (c : Char) : Bool :=
  c == ' ' || c == '\n' || c == '\t' || c == '\r'

/-- The text after its leading spaces. -/
def skipSpace (cs : List Char) : List Char :=
  cs.dropWhile isSpace

/-- The text after a word that has to stand at its front. -/
def readWord : (word : List Char) → List Char → Except Fault (List Char)
  | [], cs => .ok cs
  | _ :: _, [] => .error (.here .endInValue [])
  | w :: word, c :: cs =>
    if c = w then readWord word cs else .error (.ahead .expectedIdent (c :: cs))

def hexValue? (c : Char) : Option Nat :=
  if c.isDigit then some (c.toNat - '0'.toNat)
  else if 'a' ≤ c ∧ c ≤ 'f' then some (c.toNat - 'a'.toNat + 10)
  else if 'A' ≤ c ∧ c ≤ 'F' then some (c.toNat - 'A'.toNat + 10)
  else none

/-- The number that four hexadecimal digits give. -/
def hexValues? (a b c d : Char) : Option Nat := do
  return (((← hexValue? a) * 16 + (← hexValue? b)) * 16 + (← hexValue? c)) * 16 +
    (← hexValue? d)

def readHex (cs : List Char) : Except Fault (Nat × List Char) :=
  let fault : Fault := if byteLength cs < 4 then .placed .endInText 0
    else .placed .invalidEscape (byteLength cs - 4)
  match cs with
  | a :: b :: c :: d :: rest =>
    match hexValues? a b c d with
    | some value => .ok (value, rest)
    | none => .error fault
  | _ => .error fault

/-- The text after a character of the second escape of a pair. -/
def readPairMark (mark : Char) : List Char → Except Fault (List Char)
  | [] => .error (.here .endInText [])
  | c :: cs => if c = mark then .ok cs else .error (.ahead .unfinishedSurrogates (c :: cs))

/-- A character escaped by its code unit, or by a pair of surrogates. -/
def readUnicodeEscape (cs : List Char) : Except Fault (Char × List Char) := do
  let (lead, rest) ← readHex cs
  if 0xDC00 ≤ lead ∧ lead ≤ 0xDFFF then throw (.here .loneSurrogate rest)
  else if lead < 0xD800 ∨ 0xDBFF < lead then return (Char.ofNat lead, rest)
  else
    let rest ← readPairMark '\\' rest
    let rest ← readPairMark 'u' rest
    let (trail, rest) ← readHex rest
    if trail < 0xDC00 ∨ 0xDFFF < trail then throw (.here .loneSurrogate rest)
    else return (Char.ofNat ((lead - 0xD800) * 0x400 + (trail - 0xDC00) + 0x10000), rest)

/-- The character that a letter behind a backslash stands for. -/
def simpleEscape? (c : Char) : Option Char :=
  if c = '"' then some '"'
  else if c = '\\' then some '\\'
  else if c = '/' then some '/'
  else if c = 'b' then some '\x08'
  else if c = 'f' then some '\x0c'
  else if c = 'n' then some '\n'
  else if c = 'r' then some '\r'
  else if c = 't' then some '\t'
  else none

/-- An escaped character, after its backslash. -/
def readEscape : List Char → Except Fault (Char × List Char)
  | [] => .error (.here .endInText [])
  | 'u' :: cs => readUnicodeEscape cs
  | c :: cs =>
    match simpleEscape? c with
    | some escaped => .ok (escaped, cs)
    | none => .error (.ahead .invalidEscape (c :: cs))

/-- The characters of a text, after its opening quote; `fuel` bounds their number. -/
def readChars : (fuel : Nat) → List Char → Except Fault (List Char × List Char)
  | _, [] => .error (.here .endInText [])
  | 0, cs => .error (.here .endInText cs)
  | fuel + 1, c :: cs =>
    if c = '"' then .ok ([], cs)
    else if c = '\\' then do
      let (escaped, rest) ← readEscape cs
      let (more, rest) ← readChars fuel rest
      return (escaped :: more, rest)
    else if c.toNat < 32 then .error (.ahead .controlCharacter (c :: cs))
    else do
      let (more, rest) ← readChars fuel cs
      return (c :: more, rest)

/-- A text, after its opening quote. -/
def readText (cs : List Char) : Except Fault (String × List Char) := do
  let (chars, rest) ← readChars cs.length cs
  return (String.ofList chars, rest)

/-- The text after an escaped character of which only the form matters. -/
def skipEscape : List Char → Except Fault (List Char)
  | [] => .error (.here .endInText [])
  | 'u' :: cs => (readHex cs).map Prod.snd
  | c :: cs =>
    if (simpleEscape? c).isSome then .ok cs else .error (.ahead .invalidEscape (c :: cs))

/-- The text after a text of which only the form matters. -/
def skipChars : (fuel : Nat) → List Char → Except Fault (List Char)
  | _, [] => .error (.here .endInText [])
  | 0, cs => .error (.here .endInText cs)
  | fuel + 1, c :: cs =>
    if c = '"' then .ok cs
    else if c = '\\' then do
      let rest ← skipEscape cs
      skipChars fuel rest
    else if c.toNat < 32 then .error (.here .controlCharacter (c :: cs))
    else skipChars fuel cs

def digitValue (c : Char) : Nat := c.toNat - '0'.toNat

/-- The largest significand that is kept exactly. -/
def maxSignificand : Nat := Nat.pow 2 64 - 1

/-- The largest exponent that is told apart. -/
def maxPower : Nat := Nat.pow 2 31 - 1

/-- The significand that digits give, appended to a first part of it as far as they fit, and how
many did not. -/
def gatherDigits (significand : Nat) : List Char → Nat × Nat
  | [] => (significand, 0)
  | d :: ds =>
    let next := significand * 10 + digitValue d
    if maxSignificand < next then (significand, ds.length + 1) else gatherDigits next ds

/-- `magnitude * 10 ^ power` for a power of at most 308, rounded after every step; larger
divisions go in steps of 308, of which `fuel` bounds the number. -/
def scale? : (fuel : Nat) → Binary64 → Int → Option Binary64
  | 0, magnitude, _ => some magnitude
  | fuel + 1, magnitude, power => do
    if power.natAbs ≤ 308 then
      let factor ← Binary64.ofNat? (Nat.pow 10 power.natAbs)
      if 0 ≤ power then magnitude.mul? factor else magnitude.div? factor
    else if magnitude.significand = 0 then return magnitude
    else if 0 ≤ power then none
    else
      let factor ← Binary64.ofNat? (Nat.pow 10 308)
      scale? fuel (← magnitude.div? factor) (power + 308)

/-- The floating point number of a significand and a power of ten; a fault before the rest when
it is too large. -/
def floatOf (negative : Bool) (significand : Nat) (power : Int) (rest : List Char) :
    Except Fault (Number × List Char) :=
  match (Binary64.ofNat? significand).bind (scale? 8 · power) with
  | some magnitude => .ok (.float { magnitude with negative := negative }, rest)
  | none => .error (.here .numberOutOfRange rest)

/-- The digits of an exponent, or the text after the digit at which they become too large. -/
def gatherPower (power : Nat) : List Char → Except (List Char) Nat
  | [] => .ok power
  | d :: ds =>
    let next := power * 10 + digitValue d
    if maxPower < next then .error ds else gatherPower next ds

def readPower (negative : Bool) (significand : Nat) (start : Int) (cs : List Char) :
    Except Fault (Number × List Char) :=
  let (downward, cs) := match cs with
    | '+' :: rest => (false, rest)
    | '-' :: rest => (true, rest)
    | _ => (false, cs)
  match cs with
  | [] => .error (.here .endInValue [])
  | c :: _ =>
    if !c.isDigit then .error (.ahead .invalidNumber cs)
    else
      let digits := cs.takeWhile Char.isDigit
      let rest := cs.dropWhile Char.isDigit
      match gatherPower 0 digits with
      | .ok power =>
        floatOf negative significand (if downward then start - power else start + power) rest
      | .error after =>
        if significand ≠ 0 ∧ !downward then .error (.here .numberOutOfRange (after ++ rest))
        else .ok (.float ⟨negative, 0, Binary64.minExponent⟩, rest)

def readDecimals (negative : Bool) (significand : Nat) (start : Int) (cs : List Char) :
    Except Fault (Number × List Char) :=
  let digits := cs.takeWhile Char.isDigit
  let rest := cs.dropWhile Char.isDigit
  let (significand, dropped) := gatherDigits significand digits
  let power := start - (digits.length - dropped : Nat)
  if digits.isEmpty then
    .error (.ahead (if rest.isEmpty then .endInValue else .invalidNumber) rest)
  else match rest with
    | c :: after =>
      if c = 'e' ∨ c = 'E' then readPower negative significand power after
      else floatOf negative significand power rest
    | [] => floatOf negative significand power rest

/-- A whole number, which becomes floating point when it does not fit its width. -/
def wholeNumber (negative : Bool) (significand : Nat) (rest : List Char) :
    Except Fault (Number × List Char) :=
  if !negative then .ok (.natural significand, rest)
  else if significand = 0 ∨ Nat.pow 2 63 < significand then floatOf true significand 0 rest
  else .ok (.negative significand, rest)

def readNumber (negative : Bool) (cs : List Char) : Except Fault (Number × List Char) :=
  match cs with
  | [] => .error (.here .endInValue [])
  | c :: tail =>
    if !c.isDigit then .error (.ahead .invalidNumber cs)
    else if c = '0' ∧ tail.head?.any Char.isDigit then .error (.ahead .invalidNumber tail)
    else
      let rest := cs.dropWhile Char.isDigit
      let (significand, dropped) := gatherDigits 0 (cs.takeWhile Char.isDigit)
      match rest with
      | d :: after =>
        if d = '.' then readDecimals negative significand dropped after
        else if d = 'e' ∨ d = 'E' then readPower negative significand dropped after
        else if dropped = 0 then wholeNumber negative significand rest
        else floatOf negative significand dropped rest
      | [] =>
        if dropped = 0 then wholeNumber negative significand rest
        else floatOf negative significand dropped rest

/-- The text after the rest of a number of which only the form matters, after its `e`. -/
def skipPower (cs : List Char) : Except Fault (List Char) :=
  let cs := match cs with
    | '+' :: rest => rest
    | '-' :: rest => rest
    | _ => cs
  if cs.head?.any Char.isDigit then .ok (cs.dropWhile Char.isDigit)
  else .error (.ahead .invalidNumber cs)

/-- The text after a number of which only the form matters, after its sign. -/
def skipNumber (cs : List Char) : Except Fault (List Char) :=
  match cs with
  | [] => .error (.here .invalidNumber [])
  | c :: tail =>
    if !c.isDigit then .error (.ahead .invalidNumber cs)
    else if c = '0' ∧ tail.head?.any Char.isDigit then .error (.ahead .invalidNumber tail)
    else
      match cs.dropWhile Char.isDigit with
      | '.' :: after =>
        let rest := after.dropWhile Char.isDigit
        if !after.head?.any Char.isDigit then .error (.ahead .invalidNumber after)
        else match rest with
          | d :: power => if d = 'e' ∨ d = 'E' then skipPower power else .ok rest
          | [] => .ok rest
      | 'e' :: power => skipPower power
      | 'E' :: power => skipPower power
      | rest => .ok rest

end RouteAtlas.Json
