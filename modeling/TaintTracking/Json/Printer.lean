import TaintTracking.Data.Basic

/-!
JSON texts of documents, compact and indented. Everything outside of ASCII is written as itself.
-/

namespace TaintTracking.Json

def hexDigits (width n : Nat) : List Char :=
  let digits := Nat.toDigits 16 n
  List.replicate (width - digits.length) '0' ++ digits

def escapeChar (c : Char) : List Char :=
  match c with
  | '"' => ['\\', '"']
  | '\\' => ['\\', '\\']
  | '\x08' => ['\\', 'b']
  | '\x0c' => ['\\', 'f']
  | '\n' => ['\\', 'n']
  | '\r' => ['\\', 'r']
  | '\t' => ['\\', 't']
  | c => if c.toNat < 0x20 then ['\\', 'u'] ++ hexDigits 4 c.toNat else [c]

/-- An incomplete text is written as a lone surrogate, so that it reads back as incomplete. -/
def renderText : Option String → List Char
  | some text => '"' :: text.toList.flatMap escapeChar ++ ['"']
  | none => "\"\\ud800\"".toList

def renderSign (negative : Bool) : List Char := if negative then ['-'] else []

def renderNat (n : Nat) : List Char := Nat.toDigits 10 n

def renderNumber : Number → List Char
  | .integer negative magnitude => renderSign negative ++ renderNat magnitude
  | .decimal negative digits exponent =>
    renderSign negative ++ renderNat digits ++ 'e' :: renderSign (exponent < 0)
      ++ renderNat exponent.natAbs
  | .special => "null".toList

def renderFlag (value : Bool) : List Char := (if value then "true" else "false").toList

mutual

def renderCompact : Data → List Char
  | .null => "null".toList
  | .flag value => renderFlag value
  | .number value => renderNumber value
  | .text value => renderText value
  | .list items => '[' :: renderItems items ++ [']']
  | .record members => '{' :: renderMembers members ++ ['}']

def renderItems : List Data → List Char
  | [] => []
  | [item] => renderCompact item
  | item :: items => renderCompact item ++ ',' :: renderItems items

def renderMembers : List (Option String × Data) → List Char
  | [] => []
  | [(name, value)] => renderText name ++ ':' :: renderCompact value
  | (name, value) :: members =>
    renderText name ++ ':' :: renderCompact value ++ ',' :: renderMembers members

end

def newline (depth : Nat) : List Char := '\n' :: List.replicate (2 * depth) ' '

mutual

/-- One item or member a line, two spaces for each level. -/
def renderIndented (depth : Nat) : Data → List Char
  | .null => "null".toList
  | .flag value => renderFlag value
  | .number value => renderNumber value
  | .text value => renderText value
  | .list [] => ['[', ']']
  | .list items => '[' :: indentItems (depth + 1) items ++ newline depth ++ [']']
  | .record [] => ['{', '}']
  | .record members => '{' :: indentMembers (depth + 1) members ++ newline depth ++ ['}']

def indentItems (depth : Nat) : List Data → List Char
  | [] => []
  | [item] => newline depth ++ renderIndented depth item
  | item :: items => newline depth ++ renderIndented depth item ++ ',' :: indentItems depth items

def indentMembers (depth : Nat) : List (Option String × Data) → List Char
  | [] => []
  | [(name, value)] => newline depth ++ renderText name ++ ':' :: ' ' :: renderIndented depth value
  | (name, value) :: members =>
    newline depth ++ renderText name ++ ':' :: ' ' :: renderIndented depth value
      ++ ',' :: indentMembers depth members

end

def compact (data : Data) : String := String.ofList (renderCompact data)

def pretty (data : Data) : String := String.ofList (renderIndented 0 data)

end TaintTracking.Json
