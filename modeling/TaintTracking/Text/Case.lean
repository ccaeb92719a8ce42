import TaintTracking.Text.Case.Table

/-!
Lowercase and uppercase of a whole text under the full Unicode mappings. All characters map on
their own except the capital sigma, whose lowercase depends on the letters around it.
-/

namespace TaintTracking.Text

def isCased (c : Char) : Bool := inRanges casedRanges c

def isCaseIgnorable (c : Char) : Bool := inRanges caseIgnorableRanges c

def CaseRun.apply (run : CaseRun) (c : Char) : Char :=
  Char.ofNat (c.toNat + run.shift).toNat

def shiftCase (runs : List CaseRun) (c : Char) : Char :=
  match runs.find? (·.covers c.toNat) with
  | some run => run.apply c
  | none => c

/-- The lowercase of a character outside of any word. -/
def lowerChar (c : Char) : List Char :=
  if c = '\u0130' then ['i', '\u0307'] else [shiftCase lowercaseRuns c]

def upperChar (c : Char) : List Char :=
  match uppercaseExpansions.find? (·.1 = c) with
  | some (_, expansion) => expansion
  | none => [shiftCase uppercaseRuns c]

/-- The nearest character that is not case-ignorable is a letter with case. -/
def meetsCased (neighbours : List Char) : Bool :=
  match neighbours.dropWhile isCaseIgnorable with
  | c :: _ => isCased c
  | [] => false

/-- The lowercase of a capital sigma: the final form at the end of a word. `before` holds what
precedes it, nearest first. -/
def lowerSigma (before after : List Char) : Char :=
  if meetsCased before && !meetsCased after then '\u03C2' else '\u03C3'

def lowerFrom (before : List Char) : List Char → List Char
  | [] => []
  | c :: after =>
    (if c = '\u03A3' then [lowerSigma before after] else lowerChar c) ++ lowerFrom (c :: before) after

def lowercase (text : String) : String :=
  String.ofList (lowerFrom [] text.toList)

def uppercase (text : String) : String :=
  String.ofList (text.toList.flatMap upperChar)

end TaintTracking.Text
