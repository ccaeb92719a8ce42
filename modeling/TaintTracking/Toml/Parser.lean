import TaintTracking.Toml.Scalar
import TaintTracking.Toml.Table

/-!
Reading TOML 1.0 documents. The lines are read first; then each header with the pairs below it is
added to the table of the document.
-/

namespace TaintTracking.Toml

/-- How deep arrays and inline tables may be nested, and how many parts a key may have. -/
def maxLevels : Nat := 79

def scanString : List Char → Option (List Char × List Char)
  | '"' :: '"' :: '"' :: rest => multilineString false (skipFirstNewline rest)
  | '"' :: rest => basicString rest
  | '\'' :: '\'' :: '\'' :: rest => multilineLiteral (skipFirstNewline rest)
  | '\'' :: rest => literalString rest
  | _ => none

def startsString (input : List Char) : Bool :=
  input.head? = some '"' || input.head? = some '\''

mutual

/-- A value in which containers may be nested `levels` deep. -/
def scanValue : Nat → Nat → List Char → Option (Data × List Char)
  | 0, _, _ => none
  | fuel + 1, levels, input =>
    match levels, input with
    | 0, '[' :: _ => none
    | 0, '{' :: _ => none
    | levels + 1, '[' :: rest =>
      (scanItems fuel levels rest).map fun (items, rest) => (.list items, rest)
    | levels + 1, '{' :: rest =>
      match skipBlanks rest with
      | '}' :: rest => some (.record [], rest)
      | rest => do
        let (pairs, rest) ← scanPairs fuel levels rest
        return ((← Table.empty.addPairs pairs).toData, rest)
    | _, input =>
      if startsString input then
        (scanString input).map fun (text, rest) => (.ofText (String.ofList text), rest)
      else scanScalar input

/-- The items of an array after its opening bracket or a comma, with the closing bracket. -/
def scanItems : Nat → Nat → List Char → Option (List Data × List Char)
  | 0, _, _ => none
  | fuel + 1, levels, input =>
    match skipFiller false input with
    | ']' :: rest => some ([], rest)
    | input => do
      let (item, rest) ← scanValue fuel levels input
      match skipFiller false rest with
      | ',' :: rest =>
        let (items, rest) ← scanItems fuel levels rest
        return (item :: items, rest)
      | ']' :: rest => return ([item], rest)
      | _ => none

/-- The pairs of an inline table that has some, with the closing brace. -/
def scanPairs : Nat → Nat → List Char → Option (List Pair × List Char)
  | 0, _, _ => none
  | fuel + 1, levels, input => do
    let (keys, rest) ← keyPath maxLevels input
    let (value, rest) ← scanValue fuel levels (skipBlanks (← expect '=' rest))
    let pair ← Pair.ofKeys? keys value
    match skipBlanks rest with
    | ',' :: rest =>
      let (pairs, rest) ← scanPairs fuel levels rest
      return (pair :: pairs, rest)
    | '}' :: rest => return ([pair], rest)
    | _ => none

end

inductive Line where
  | pair (pair : Pair)
  | header (path : List String) (key : String)
  | arrayHeader (path : List String) (key : String)

def scanHeader (array : Bool) (input : List Char) : Option (Line × List Char) := do
  let (keys, rest) ← keyPath maxLevels input
  let rest ← expect ']' rest
  let rest ← if array then expect ']' rest else some rest
  let key ← keys.getLast?
  return (if array then .arrayHeader keys.dropLast key else .header keys.dropLast key,
    ← entryEnd? rest)

def scanPair (fuel : Nat) (input : List Char) : Option (Line × List Char) := do
  let (keys, rest) ← keyPath maxLevels input
  let (value, rest) ← scanValue fuel maxLevels (skipBlanks (← expect '=' rest))
  return (.pair (← Pair.ofKeys? keys value), ← entryEnd? rest)

def scanEntry (fuel : Nat) : List Char → Option (Line × List Char)
  | '[' :: '[' :: rest => scanHeader true rest
  | '[' :: rest => scanHeader false rest
  | rest => scanPair fuel rest

def scanLines : Nat → List Char → Option (List Line)
  | 0, _ => none
  | fuel + 1, input =>
    match skipBlanks input with
    | [] => some []
    | '#' :: rest => do scanLines fuel (← lineEnd? (rest.dropWhile isVisible))
    | rest =>
      match newline? rest with
      | some rest => scanLines fuel rest
      | none => do
        let (line, rest) ← scanEntry (fuel + 1) rest
        return line :: (← scanLines fuel rest)

/-- The pairs above the first header, and each header with the pairs below it. -/
def groupLines : List Line → List Pair × List (Line × List Pair)
  | [] => ([], [])
  | .pair pair :: lines =>
    let (pairs, sections) := groupLines lines
    (pair :: pairs, sections)
  | header :: lines =>
    let (pairs, sections) := groupLines lines
    ([], (header, pairs) :: sections)

/-- The table under a key that a header opens: a new one, or an implicit one that is now
defined. -/
def openTable (parent : Table) (key : String) : Option Table :=
  match parent.find? key with
  | none => some .empty
  | some (.table child) =>
    if child.isImplicit && !child.isDotted then some (.mk false false child.entries) else none
  | some _ => none

def addSection (root : Table) : Line × List Pair → Option Table
  | (.pair _, _) => none
  | (.header path key, pairs) =>
    root.update false (fun parent => do
      return parent.put key (.table (← (← openTable parent key).addPairs pairs))) path
  | (.arrayHeader path key, pairs) =>
    root.update false (fun parent => do
      let table ← Table.empty.addPairs pairs
      match parent.find? key with
      | none => return parent.put key (.tables [] table)
      | some (.tables earlier current) => return parent.put key (.tables (earlier ++ [current]) table)
      | some _ => none) path

def buildTable (lines : List Line) : Option Table := do
  let (pairs, sections) := groupLines lines
  sections.foldlM addSection (← Table.empty.addPairs pairs)

def skipByteOrderMark : List Char → List Char
  | '\uFEFF' :: rest => rest
  | rest => rest

/-- Enough steps for any document: a bracket takes two of them, a comma or a line one. -/
def scanFuel (input : List Char) : Nat := 2 * input.length + 2

def parse (text : String) : Option Data := do
  let input := skipByteOrderMark text.toList
  return (← buildTable (← scanLines (scanFuel input) input)).toData

end TaintTracking.Toml
