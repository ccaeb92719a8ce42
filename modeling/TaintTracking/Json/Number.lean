import TaintTracking.Data.Basic

/-!
Numbers in JSON texts. The significand of a number is as great as a count can be at most: digits that
it has no room for are left out, and such a digit before the point still scales the number.
-/

namespace TaintTracking.Json

def digitOf (c : Char) : Nat := c.toNat - '0'.toNat

def digitsValue (digits : List Char) : Nat :=
  digits.foldl (fun value c => value * 10 + digitOf c) 0

/-- Adds digits to a significand as long as there is room, and gives the others back. -/
def addDigits : Nat → List Char → Nat × List Char
  | significand, [] => (significand, [])
  | significand, c :: digits =>
    let next := significand * 10 + digitOf c
    if next ≤ Number.maxCount then addDigits next digits else (significand, c :: digits)

def scanDigits (input : List Char) : List Char × List Char := input.span Char.isDigit

/-- The part after the point: its digits, if there is a point. -/
def scanFraction : List Char → Option (Option (List Char) × List Char)
  | '.' :: rest =>
    match scanDigits rest with
    | ([], _) => none
    | (digits, rest) => some (some digits, rest)
  | rest => some (none, rest)

def scanExponentSign : List Char → Bool × List Char
  | '-' :: rest => (true, rest)
  | '+' :: rest => (false, rest)
  | rest => (false, rest)

/-- The exponent, if one is written. -/
def scanExponent : List Char → Option (Option Int × List Char)
  | c :: rest =>
    if c = 'e' || c = 'E' then
      let (negative, rest) := scanExponentSign rest
      match scanDigits rest with
      | ([], _) => none
      | (digits, rest) =>
        some (some (if negative then -(digitsValue digits : Int) else digitsValue digits), rest)
    else some (none, c :: rest)
  | [] => some (none, [])

/-- An integer part has no leading zero. -/
def isIntegerPart (digits : List Char) : Bool :=
  match digits with
  | [] => false
  | ['0'] => true
  | c :: _ => c ≠ '0'

/-- The number that is made of an integer part and, where they are written, of the digits after the
point and an exponent. -/
def numberOf (negative : Bool) (whole : List Char) (fraction : Option (List Char))
    (exponent : Option Int) : Number :=
  let (significand, scaling) := addDigits 0 whole
  if fraction.isNone && exponent.isNone && scaling.isEmpty then .integer negative significand
  else
    let fraction := fraction.getD []
    let (significand, ignored) := addDigits significand fraction
    .decimal negative significand
      (exponent.getD 0 + scaling.length - (fraction.length - ignored.length))

def scanMagnitude (negative : Bool) (input : List Char) : Option (Number × List Char) := do
  let (whole, rest) := scanDigits input
  if !isIntegerPart whole then none
  let (fraction, rest) ← scanFraction rest
  let (exponent, rest) ← scanExponent rest
  return (numberOf negative whole fraction exponent, rest)

def scanNumber : List Char → Option (Number × List Char)
  | '-' :: rest => scanMagnitude true rest
  | rest => scanMagnitude false rest

end TaintTracking.Json
