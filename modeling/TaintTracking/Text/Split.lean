/-!
Cutting texts at a character.
-/

namespace TaintTracking.Text

/-- What stands before the first separator, and the parts after it. -/
def splitChars (separator : Char) : List Char → List Char × List (List Char)
  | [] => ([], [])
  | c :: rest =>
    let (part, parts) := splitChars separator rest
    if c = separator then ([], part :: parts) else (c :: part, parts)

/-- The parts between the separators, one more than there are of these. -/
def split (separator : Char) (text : String) : List String :=
  let (part, parts) := splitChars separator text.toList
  (part :: parts).map String.ofList

/-- Cuts at the first separator only. -/
def cut (separator : Char) (text : String) : String × Option String :=
  let before := text.toList.takeWhile (· ≠ separator)
  match text.toList.dropWhile (· ≠ separator) with
  | [] => (text, none)
  | _ :: after => (String.ofList before, some (String.ofList after))

end TaintTracking.Text
