import TaintTracking.Data.Double

/-!
Documents: what a JSON or a TOML text says, before it is read as anything in particular. Reading is
by small total functions that give `none` when the document has another form.
-/

namespace TaintTracking

/-- A number as far as it is read: `decimal` stands for its digits times ten to the exponent, an
`integer` fits into 64 bits. -/
inductive Number where
  | integer (negative : Bool) (magnitude : Nat)
  | decimal (negative : Bool) (digits : Nat) (exponent : Int)
  | special
  deriving DecidableEq, Repr

/-- A text is `none` when an escape in it leaves half of a surrogate pair. -/
inductive Data where
  | null
  | flag (value : Bool)
  | number (value : Number)
  | text (value : Option String)
  | list (items : List Data)
  | record (members : List (Option String × Data))

namespace Number

def count (n : Nat) : Number := .integer false n

/-- The greatest count that a document can hold. -/
def maxCount : Nat := 0xFFFFFFFFFFFFFFFF

/-- Whether digits times a power of ten are too great for double precision, where both are rounded to
it before they are multiplied. A power beyond 308 has no double. -/
def decimalOverflows (digits : Nat) (exponent : Int) : Bool :=
  if digits = 0 || exponent < 0 then false
  else if exponent > 308 then true
  else Double.productOverflows digits (Nat.pow 10 exponent.toNat)

/-- An integer is one that a machine word holds, so only decimals overflow. -/
def overflows : Number → Bool
  | .integer _ _ => false
  | .decimal _ digits exponent => decimalOverflows digits exponent
  | .special => false

def asCount? : Number → Option Nat
  | .integer false magnitude => if magnitude ≤ maxCount then some magnitude else none
  | _ => none

end Number

namespace Data

def ofText (text : String) : Data := .text (some text)

def ofCount (n : Nat) : Data := .number (.count n)

def ofMembers (members : List (String × Data)) : Data :=
  .record (members.map fun (name, value) => (some name, value))

def ofOption {α : Type} (encode : α → Data) : Option α → Data
  | some value => encode value
  | none => .null

def asFlag? : Data → Option Bool
  | .flag value => some value
  | _ => none

def asText? : Data → Option String
  | .text value => value
  | _ => none

def asCount? : Data → Option Nat
  | .number value => value.asCount?
  | _ => none

def asItems? : Data → Option (List Data)
  | .list items => some items
  | _ => none

/-- Reads null as the absence of a value. -/
def asOption? {α : Type} (read : Data → Option α) : Data → Option (Option α)
  | .null => some none
  | data => (read data).map some

def asListOf? {α : Type} (read : Data → Option α) (data : Data) : Option (List α) := do
  (← data.asItems?).mapM read

/-- Reads a field that may be missing. -/
def orDefault {α : Type} (default : α) (read : Data → Option α) : Option Data → Option α
  | some data => read data
  | none => some default

/-- The member of a name, if there is any; a repeated member is refused. -/
def member? (name : String) (members : List (Option String × Data)) : Option (Option Data) :=
  match members.filter (·.1 = some name) with
  | [] => some none
  | [(_, value)] => some (some value)
  | _ => none

/-- How a list may stand for a record: with no more items than fields, or with any number. -/
inductive ListForm where
  | exact
  | lenient
  deriving DecidableEq

/-- The fields of a record in the order of `names`. A list gives its items in that order. -/
def fields? (form : ListForm) (names : List String) : Data → Option (List (Option Data))
  | .record members =>
    if members.all (·.1.isSome) then names.mapM (member? · members) else none
  | .list items =>
    if form = .lenient || items.length ≤ names.length then
      some (names.zipIdx.map fun (_, index) => items[index]?)
    else none
  | _ => none

mutual

/-- A document that can be kept for a second reading: its texts are complete, its numbers finite
and its containers nested no deeper than `levels`. -/
def isKeepable (levels : Nat) : Data → Bool
  | .null => true
  | .flag _ => true
  | .number value => !value.overflows
  | .text value => value.isSome
  | .list items =>
    match levels with
    | 0 => false
    | levels + 1 => areItemsKeepable levels items
  | .record members =>
    match levels with
    | 0 => false
    | levels + 1 => areMembersKeepable levels members

def areItemsKeepable (levels : Nat) : List Data → Bool
  | [] => true
  | item :: items => isKeepable levels item && areItemsKeepable levels items

def areMembersKeepable (levels : Nat) : List (Option String × Data) → Bool
  | [] => true
  | (name, value) :: members =>
    name.isSome && isKeepable levels value && areMembersKeepable levels members

end

end Data

end TaintTracking
