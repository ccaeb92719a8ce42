import TaintTracking.Data.Basic

/-!
The lexemes of TOML: blanks, line ends, comments and the four kinds of strings. Every reader takes
the remaining characters and gives what it read with what is left.
-/

namespace TaintTracking.Toml

def isBlank (c : Char) : Bool := c = ' ' || c = '\t'

def skipBlanks (input : List Char) : List Char := input.dropWhile isBlank

/-- A character that may stand in a comment or a one-line string. -/
def isVisible (c : Char) : Bool := c = '\t' || (c.toNat ≥ 0x20 && c.toNat ≠ 0x7F)

def newline? : List Char → Option (List Char)
  | '\n' :: rest => some rest
  | '\r' :: '\n' :: rest => some rest
  | _ => none

/-- The end of a line or of the document. -/
def lineEnd? : List Char → Option (List Char)
  | [] => some []
  | input => newline? input

/-- What may follow an entry on its line: blanks and a comment. -/
def entryEnd? (input : List Char) : Option (List Char) :=
  match skipBlanks input with
  | '#' :: rest => lineEnd? (rest.dropWhile isVisible)
  | rest => lineEnd? rest

/-- Skips blanks, line ends and comments, as between the items of an array. -/
def skipFiller (inComment : Bool) : List Char → List Char
  | [] => []
  | '\r' :: '\n' :: rest => skipFiller false rest
  | '\n' :: rest => skipFiller false rest
  | c :: rest =>
    if inComment then if isVisible c then skipFiller true rest else c :: rest
    else if isBlank c then skipFiller false rest
    else if c = '#' then skipFiller true rest
    else c :: rest

def digitValue? (base : Nat) (c : Char) : Option Nat :=
  let value :=
    if '0' ≤ c && c ≤ '9' then c.toNat - '0'.toNat
    else if 'a' ≤ c && c ≤ 'f' then c.toNat - 'a'.toNat + 10
    else if 'A' ≤ c && c ≤ 'F' then c.toNat - 'A'.toNat + 10
    else base
  if value < base then some value else none

def hexNumber? (digits : List Char) : Option Nat :=
  digits.foldlM (fun value c => (value * 16 + ·) <$> digitValue? 16 c) 0

/-- The character of a number, which may not be half of a surrogate pair. -/
def scalar? (digits : List Char) : Option Char := do
  let code ← hexNumber? digits
  if code.isValidChar then some (Char.ofNat code) else none

def unescape? : Char → Option Char
  | '"' => some '"'
  | '\\' => some '\\'
  | 'b' => some '\x08'
  | 'f' => some '\x0c'
  | 'n' => some '\n'
  | 'r' => some '\r'
  | 't' => some '\t'
  | _ => none

abbrev Scanned := Option (List Char × List Char)

def Scanned.push (c : Char) (scanned : Scanned) : Scanned :=
  scanned.map fun (text, rest) => (c :: text, rest)

/-- A one-line string after its opening double quote. -/
def basicString : List Char → Scanned
  | [] => none
  | '"' :: rest => some ([], rest)
  | '\\' :: 'u' :: a :: b :: c :: d :: rest => do
    (basicString rest).push (← scalar? [a, b, c, d])
  | '\\' :: 'U' :: a :: b :: c :: d :: e :: f :: g :: h :: rest => do
    (basicString rest).push (← scalar? [a, b, c, d, e, f, g, h])
  | '\\' :: escaped :: rest => do (basicString rest).push (← unescape? escaped)
  | c :: rest => if isVisible c && c ≠ '\\' then (basicString rest).push c else none

/-- A one-line string after its opening single quote. -/
def literalString : List Char → Scanned
  | [] => none
  | '\'' :: rest => some ([], rest)
  | c :: rest => if isVisible c then (literalString rest).push c else none

/-- A backslash before the end of a line. -/
def continuesLine (input : List Char) : Bool := (newline? (skipBlanks input)).isSome

/-- A string over several lines, after its opening quotes. Up to two quotes may stand before the
closing ones. `trimming` holds behind a backslash at the end of a line, up to the next text. -/
def multilineString (trimming : Bool) : List Char → Scanned
  | [] => none
  | '"' :: '"' :: '"' :: '"' :: '"' :: rest => some (['"', '"'], rest)
  | '"' :: '"' :: '"' :: '"' :: rest => some (['"'], rest)
  | '"' :: '"' :: '"' :: rest => some ([], rest)
  | '\r' :: '\n' :: rest =>
    if trimming then multilineString true rest else (multilineString false rest).push '\n'
  | '\n' :: rest =>
    if trimming then multilineString true rest else (multilineString false rest).push '\n'
  | '\\' :: 'u' :: a :: b :: c :: d :: rest => do
    (multilineString false rest).push (← scalar? [a, b, c, d])
  | '\\' :: 'U' :: a :: b :: c :: d :: e :: f :: g :: h :: rest => do
    (multilineString false rest).push (← scalar? [a, b, c, d, e, f, g, h])
  | '\\' :: escaped :: rest =>
    if continuesLine (escaped :: rest) then multilineString true (escaped :: rest)
    else do (multilineString false rest).push (← unescape? escaped)
  | c :: rest =>
    if trimming && isBlank c then multilineString true rest
    else if isVisible c && c ≠ '\\' then (multilineString false rest).push c
    else none

def multilineLiteral : List Char → Scanned
  | [] => none
  | '\'' :: '\'' :: '\'' :: '\'' :: '\'' :: rest => some (['\'', '\''], rest)
  | '\'' :: '\'' :: '\'' :: '\'' :: rest => some (['\''], rest)
  | '\'' :: '\'' :: '\'' :: rest => some ([], rest)
  | '\r' :: '\n' :: rest => (multilineLiteral rest).push '\n'
  | '\n' :: rest => (multilineLiteral rest).push '\n'
  | c :: rest => if isVisible c then (multilineLiteral rest).push c else none

/-- A line end right behind the opening quotes is not part of the string. -/
def skipFirstNewline (input : List Char) : List Char := (newline? input).getD input

def isBareKeyChar (c : Char) : Bool := c.isAlphanum || c = '_' || c = '-'

def simpleKey : List Char → Scanned
  | '"' :: rest => basicString rest
  | '\'' :: rest => literalString rest
  | input =>
    match input.span isBareKeyChar with
    | ([], _) => none
    | (key, rest) => some (key, rest)

/-- A dotted key of at most `limit` parts. -/
def keyPath : Nat → List Char → Option (List String × List Char)
  | 0, _ => none
  | limit + 1, input => do
    let (key, rest) ← simpleKey (skipBlanks input)
    match skipBlanks rest with
    | '.' :: rest =>
      let (keys, rest) ← keyPath limit rest
      return (String.ofList key :: keys, rest)
    | rest => return ([String.ofList key], rest)

end TaintTracking.Toml
