/-!
Counts as they are written in arguments: decimal digits, with a plus sign before them at most.
-/

namespace TaintTracking.Text

def decimalDigit? (c : Char) : Option Nat :=
  if c.isDigit then some (c.toNat - '0'.toNat) else none

def digitsValue? (digits : List Char) : Option Nat :=
  digits.foldlM (fun value c => (value * 10 + ·) <$> decimalDigit? c) 0

def count? (text : String) : Option Nat :=
  match text.toList with
  | [] => none
  | ['+'] => none
  | '+' :: digits => digitsValue? digits
  | digits => digitsValue? digits

end TaintTracking.Text
