/-!
Random identifiers in their usual text form: 32 hexadecimal digits in five groups, of which one digit
tells the version and two bits the variant.
-/

namespace TaintTracking.Text.Uuid

def hexDigits (byte : UInt8) : List Char :=
  [Nat.digitChar (byte.toNat / 16), Nat.digitChar (byte.toNat % 16)]

/-- The seventh byte starts with the version, the ninth with the variant. -/
def marked (index : Nat) (byte : UInt8) : UInt8 :=
  match index with
  | 6 => byte &&& 0x0f ||| 0x40
  | 8 => byte &&& 0x3f ||| 0x80
  | _ => byte

/-- A hyphen stands before each group but the first. -/
def opensGroup (index : Nat) : Bool := [4, 6, 8, 10].contains index

def ofRandom (bytes : List UInt8) : String :=
  String.ofList (bytes.zipIdx.flatMap fun (byte, index) =>
    (if opensGroup index then ['-'] else []) ++ hexDigits (marked index byte))

end TaintTracking.Text.Uuid
