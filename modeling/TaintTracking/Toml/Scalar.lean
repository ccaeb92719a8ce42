import TaintTracking.Toml.Lexeme

/-!
Numbers, dates and times of TOML. No field of a configuration holds a date or a time, so these are
checked and then read as a record without known fields.
-/

namespace TaintTracking.Toml

/-- Digits that single underscores may separate. -/
def spacedDigits (base : Nat) : List Char → List Nat × List Char
  | '_' :: c :: rest =>
    match digitValue? base c with
    | some digit =>
      let (digits, rest) := spacedDigits base rest
      (digit :: digits, rest)
    | none => ([], '_' :: c :: rest)
  | c :: rest =>
    match digitValue? base c with
    | some digit =>
      let (digits, rest) := spacedDigits base rest
      (digit :: digits, rest)
    | none => ([], c :: rest)
  | [] => ([], [])

/-- Digits that begin with a digit. -/
def digitRun (base : Nat) (input : List Char) : Option (List Nat × List Char) :=
  match input with
  | '_' :: _ => none
  | _ =>
    match spacedDigits base input with
    | ([], _) => none
    | run => some run

def numberOf (base : Nat) (digits : List Nat) : Nat :=
  digits.foldl (fun value digit => value * base + digit) 0

/-- The least magnitude that a signed 64-bit integer cannot have; a negative one may have it. -/
def integerBound : Nat := 0x8000000000000000

def integerData (negative : Bool) (magnitude : Nat) : Option Data :=
  if magnitude < integerBound || (negative && magnitude = integerBound) then
    some (.number (.integer (negative && magnitude ≠ 0) magnitude))
  else none

/-- Whether a number with these digits, times a power of ten, rounds to infinity in double
precision. -/
def roundsToInfinity (digits : List Nat) (exponent : Int) : Bool :=
  let digits := digits.dropWhile (· = 0)
  let size := digits.length + exponent
  if digits.isEmpty || size < 300 then false
  else if size > 320 then true
  else if exponent ≥ 0 then numberOf 10 digits * Nat.pow 10 exponent.toNat ≥ Double.bound
  else numberOf 10 digits ≥ Double.bound * Nat.pow 10 (-exponent).toNat

/-- A number too great for double precision is refused unless it is negative. -/
def decimalData (negative : Bool) (digits : List Nat) (exponent : Int) : Option Data :=
  if !negative && roundsToInfinity digits exponent then none
  else some (.number (.decimal negative (numberOf 10 digits) exponent))

def scanSign : List Char → Option Bool × List Char
  | '+' :: rest => (some false, rest)
  | '-' :: rest => (some true, rest)
  | rest => (none, rest)

def radixInteger (base : Nat) (input : List Char) : Option (Data × List Char) := do
  let (digits, rest) ← digitRun base input
  return (← integerData false (numberOf base digits), rest)

/-- The digits before the point, without leading zeros. -/
def wholePart (input : List Char) : Option (List Nat × List Char) := do
  let (digits, rest) ← digitRun 10 input
  if digits.head? = some 0 && input.tail ≠ rest then none
  return (digits, rest)

def fractionPart : List Char → Option (Option (List Nat) × List Char)
  | '.' :: rest => do
    let (digits, rest) ← digitRun 10 rest
    return (some digits, rest)
  | rest => some (none, rest)

def exponentPart : List Char → Option (Option Int × List Char)
  | c :: rest =>
    if c = 'e' || c = 'E' then do
      let (sign, rest) := scanSign rest
      let (digits, rest) ← digitRun 10 rest
      let magnitude : Int := numberOf 10 digits
      return (some (if sign = some true then -magnitude else magnitude), rest)
    else some (none, c :: rest)
  | [] => some (none, [])

def decimalNumber (negative : Bool) (input : List Char) : Option (Data × List Char) := do
  let (whole, rest) ← wholePart input
  let (fraction, rest) ← fractionPart rest
  let (exponent, rest) ← exponentPart rest
  if fraction.isNone && exponent.isNone then
    return (← integerData negative (numberOf 10 whole), rest)
  let fraction := fraction.getD []
  let exponent := exponent.getD 0 - fraction.length
  return (← decimalData negative (whole ++ fraction) exponent, rest)

def scanNumber (input : List Char) : Option (Data × List Char) :=
  match scanSign input with
  | (_, 'i' :: 'n' :: 'f' :: rest) => some (.number .special, rest)
  | (_, 'n' :: 'a' :: 'n' :: rest) => some (.number .special, rest)
  | (none, '0' :: 'x' :: rest) => radixInteger 16 rest
  | (none, '0' :: 'o' :: rest) => radixInteger 8 rest
  | (none, '0' :: 'b' :: rest) => radixInteger 2 rest
  | (sign, rest) => decimalNumber (sign = some true) rest

def twoDigits : List Char → Option (Nat × List Char)
  | a :: b :: rest => do return ((← digitValue? 10 a) * 10 + (← digitValue? 10 b), rest)
  | _ => none

/-- Two digits up to a greatest value. -/
def boundedPair (least greatest : Nat) (input : List Char) : Option (Nat × List Char) := do
  let (value, rest) ← twoDigits input
  if least ≤ value && value ≤ greatest then some (value, rest) else none

def expect (c : Char) : List Char → Option (List Char)
  | d :: rest => if c = d then some rest else none
  | [] => none

def isLeapYear (year : Nat) : Bool := year % 4 = 0 && (year % 100 ≠ 0 || year % 400 = 0)

def daysInMonth (year month : Nat) : Nat :=
  if month = 2 then if isLeapYear year then 29 else 28
  else if month = 4 || month = 6 || month = 9 || month = 11 then 30
  else 31

def skipDate (input : List Char) : Option (List Char) := do
  let (century, rest) ← twoDigits input
  let (decade, rest) ← twoDigits rest
  let (month, rest) ← boundedPair 1 12 (← expect '-' rest)
  let (_, rest) ← boundedPair 1 (daysInMonth (century * 100 + decade) month) (← expect '-' rest)
  return rest

def skipSecondFraction : List Char → List Char
  | '.' :: c :: rest => if c.isDigit then rest.dropWhile Char.isDigit else '.' :: c :: rest
  | rest => rest

def skipTime (input : List Char) : Option (List Char) := do
  let (_, rest) ← boundedPair 0 23 input
  let (_, rest) ← boundedPair 0 59 (← expect ':' rest)
  let (_, rest) ← boundedPair 0 60 (← expect ':' rest)
  return skipSecondFraction rest

def skipOffset : List Char → Option (List Char)
  | 'Z' :: rest => some rest
  | 'z' :: rest => some rest
  | c :: rest =>
    if c = '+' || c = '-' then do
      let (_, rest) ← boundedPair 0 23 rest
      let (_, rest) ← boundedPair 0 59 (← expect ':' rest)
      return rest
    else some (c :: rest)
  | [] => some []

def isDateSeparator (c : Char) : Bool := c = 'T' || c = 't' || c = ' '

/-- A date, with a time behind it if one stands there. -/
def skipDateTime (input : List Char) : Option (List Char) := do
  let rest ← skipDate input
  match rest with
  | c :: later =>
    if isDateSeparator c then
      match skipTime later with
      | some rest => skipOffset rest
      | none => some rest
    else some rest
  | [] => some []

def startsDate : List Char → Bool
  | a :: b :: c :: d :: '-' :: _ => a.isDigit && b.isDigit && c.isDigit && d.isDigit
  | _ => false

def startsTime : List Char → Bool
  | a :: b :: ':' :: _ => a.isDigit && b.isDigit
  | _ => false

def scanScalar (input : List Char) : Option (Data × List Char) :=
  match input with
  | 't' :: 'r' :: 'u' :: 'e' :: rest => some (.flag true, rest)
  | 'f' :: 'a' :: 'l' :: 's' :: 'e' :: rest => some (.flag false, rest)
  | _ =>
    if startsDate input then (skipDateTime input).map fun rest => (.record [], rest)
    else if startsTime input then (skipTime input).map fun rest => (.record [], rest)
    else scanNumber input

end TaintTracking.Toml
