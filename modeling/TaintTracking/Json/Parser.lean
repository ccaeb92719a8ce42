import TaintTracking.Json.Number

/-!
Reading JSON texts. Every step takes the remaining characters and gives what it read with what is
left. The grammar is that of RFC 8259; nothing may follow the document but blanks.
-/

namespace TaintTracking.Json

def isBlank (c : Char) : Bool := c = ' ' || c = '\t' || c = '\n' || c = '\r'

def skipBlanks (input : List Char) : List Char := input.dropWhile isBlank

def hexValue? (c : Char) : Option Nat :=
  if '0' ≤ c && c ≤ '9' then some (c.toNat - '0'.toNat)
  else if 'a' ≤ c && c ≤ 'f' then some (c.toNat - 'a'.toNat + 10)
  else if 'A' ≤ c && c ≤ 'F' then some (c.toNat - 'A'.toNat + 10)
  else none

/-- A piece of a string: a character as it stands or after a backslash, or a numbered unit. -/
inductive Piece where
  | char (c : Char)
  | unit (code : Nat)
  deriving DecidableEq

def unescape? : Char → Option Char
  | '"' => some '"'
  | '\\' => some '\\'
  | '/' => some '/'
  | 'b' => some '\x08'
  | 'f' => some '\x0c'
  | 'n' => some '\n'
  | 'r' => some '\r'
  | 't' => some '\t'
  | _ => none

def unit? (a b c d : Char) : Option Nat := do
  return (((← hexValue? a) * 16 + (← hexValue? b)) * 16 + (← hexValue? c)) * 16 + (← hexValue? d)

/-- The pieces up to the closing quote, and what follows it. -/
def scanPieces : List Char → Option (List Piece × List Char)
  | [] => none
  | '"' :: rest => some ([], rest)
  | '\\' :: 'u' :: a :: b :: c :: d :: rest => do
    let code ← unit? a b c d
    let (pieces, rest) ← scanPieces rest
    return (.unit code :: pieces, rest)
  | '\\' :: escaped :: rest => do
    let c ← unescape? escaped
    let (pieces, rest) ← scanPieces rest
    return (.char c :: pieces, rest)
  | c :: rest => do
    if c.toNat < 0x20 || c = '\\' then none
    let (pieces, rest) ← scanPieces rest
    return (.char c :: pieces, rest)

def isHighSurrogate (code : Nat) : Bool := 0xD800 ≤ code && code < 0xDC00

def isLowSurrogate (code : Nat) : Bool := 0xDC00 ≤ code && code < 0xE000

def surrogatePair (high low : Nat) : Char :=
  Char.ofNat (0x10000 + (high - 0xD800) * 0x400 + (low - 0xDC00))

/-- Joins surrogate pairs; half a pair makes the text incomplete. -/
def joinPieces : List Piece → Option (List Char)
  | [] => some []
  | .char c :: pieces => (joinPieces pieces).map (c :: ·)
  | .unit high :: .unit low :: pieces =>
    if isHighSurrogate high then
      if isLowSurrogate low then (joinPieces pieces).map (surrogatePair high low :: ·) else none
    else if isLowSurrogate high then none
    else (joinPieces (.unit low :: pieces)).map (Char.ofNat high :: ·)
  | .unit code :: pieces =>
    if isHighSurrogate code || isLowSurrogate code then none
    else (joinPieces pieces).map (Char.ofNat code :: ·)

/-- A string after its opening quote. -/
def scanText (input : List Char) : Option (Option String × List Char) := do
  let (pieces, rest) ← scanPieces input
  return ((joinPieces pieces).map String.ofList, rest)

mutual

def scanValue : Nat → List Char → Option (Data × List Char)
  | 0, _ => none
  | fuel + 1, input =>
    match skipBlanks input with
    | 'n' :: 'u' :: 'l' :: 'l' :: rest => some (.null, rest)
    | 't' :: 'r' :: 'u' :: 'e' :: rest => some (.flag true, rest)
    | 'f' :: 'a' :: 'l' :: 's' :: 'e' :: rest => some (.flag false, rest)
    | '"' :: rest => (scanText rest).map fun (text, rest) => (.text text, rest)
    | '[' :: rest =>
      match skipBlanks rest with
      | ']' :: rest => some (.list [], rest)
      | rest => (scanItems fuel rest).map fun (items, rest) => (.list items, rest)
    | '{' :: rest =>
      match skipBlanks rest with
      | '}' :: rest => some (.record [], rest)
      | rest => (scanMembers fuel rest).map fun (members, rest) => (.record members, rest)
    | rest => (scanNumber rest).map fun (number, rest) => (.number number, rest)

/-- The items of a list that has some, with its closing bracket. -/
def scanItems : Nat → List Char → Option (List Data × List Char)
  | 0, _ => none
  | fuel + 1, input =>
    match scanValue fuel input with
    | none => none
    | some (item, rest) =>
      match skipBlanks rest with
      | ',' :: rest => (scanItems fuel rest).map fun (items, rest) => (item :: items, rest)
      | ']' :: rest => some ([item], rest)
      | _ => none

/-- The members of a record that has some, with its closing brace. -/
def scanMembers : Nat → List Char → Option (List (Option String × Data) × List Char)
  | 0, _ => none
  | fuel + 1, input =>
    match scanMember fuel input with
    | none => none
    | some (member, rest) =>
      match skipBlanks rest with
      | ',' :: rest => (scanMembers fuel rest).map fun (members, rest) => (member :: members, rest)
      | '}' :: rest => some ([member], rest)
      | _ => none

def scanMember : Nat → List Char → Option ((Option String × Data) × List Char)
  | 0, _ => none
  | fuel + 1, input =>
    match skipBlanks input with
    | '"' :: rest =>
      match scanText rest with
      | none => none
      | some (name, rest) =>
        match skipBlanks rest with
        | ':' :: rest => (scanValue fuel rest).map fun (value, rest) => ((name, value), rest)
        | _ => none
    | _ => none

end

/-- Enough steps for any input: a bracket takes two of them and a comma one. -/
def scanFuel (input : List Char) : Nat := 2 * input.length + 2

def parse (text : String) : Option Data :=
  match scanValue (scanFuel text.toList) text.toList with
  | some (data, rest) => if (skipBlanks rest).isEmpty then some data else none
  | none => none

end TaintTracking.Json
