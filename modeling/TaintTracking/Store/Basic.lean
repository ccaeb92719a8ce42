import Std.Data.ExtTreeMap
import TaintTracking.Text.Case
import TaintTracking.Value

/-!
The variables of a run. A variable is found by the lowercase of its name and listed under the name
it was first written with. The main variable, `input`, carries what a step reads and writes; it is
a field of its own, so no operation can lose it. `SlotMap` holds it among the others.
-/

namespace TaintTracking

def mainName : String := "input"

/-- The key under which a name is stored. -/
def normalize (name : String) : String := Text.lowercase name

structure Slot where
  name : String
  value : TaintedValue
  deriving DecidableEq, Repr

/-- A slot that takes over the name of the slot it replaces. -/
def Slot.renamed (slot : Slot) (replaced : Option Slot) : Slot :=
  { slot with name := (replaced.map (·.name)).getD slot.name }

structure Store where
  main : TaintedValue
  others : Std.ExtTreeMap String Slot

namespace Store

def ofMain (main : TaintedValue) : Store := ⟨main, ∅⟩

def new : Store := ofMain TaintedValue.empty

/-- The slot under a key that is already normalized. -/
def slot? (store : Store) (key : String) : Option Slot :=
  if key = mainName then some ⟨mainName, store.main⟩ else store.others[key]?

def get? (store : Store) (name : String) : Option TaintedValue :=
  (store.slot? (normalize name)).map (·.value)

def get (store : Store) (name : String) : TaintedValue :=
  (store.get? name).getD TaintedValue.empty

def contains (store : Store) (name : String) : Bool :=
  (store.slot? (normalize name)).isSome

def setValue (store : Store) (name : String) (value : TaintedValue) : Store :=
  let key := normalize name
  if key = mainName then { store with main := value }
  else { store with others := store.others.insert key (Slot.renamed ⟨name, value⟩ store.others[key]?) }

def insert (store : Store) (name content : String) : Store :=
  store.setValue name (TaintedValue.ofText content)

/-- Without content the variable goes away, except for the main one, which becomes empty. -/
def set (store : Store) (name : String) (content : Option String) (trusted : Bool) : Store :=
  match content with
  | some content => store.setValue name ⟨content, trusted⟩
  | none =>
    let key := normalize name
    if key = mainName then { store with main := ⟨"", trusted⟩ }
    else { store with others := store.others.erase key }

/-- The main variable becomes empty and trusted instead of going away. -/
def remove (store : Store) (name : String) : Store :=
  let key := normalize name
  if key = mainName then { store with main := TaintedValue.empty }
  else { store with others := store.others.erase key }

def updateMain (store : Store) (content : String) (trusted : Bool) : Store :=
  { store with main := ⟨content, trusted⟩ }

/-- The new content is trusted only if the old one was. -/
def updateMainPreservingTrust (store : Store) (content : String) (trusted : Bool) : Store :=
  { store with main := ⟨content, store.main.trusted && trusted⟩ }

def untrustMain (store : Store) : Store :=
  { store with main := store.main.toUntrusted }

def forceAllUntrusted (store : Store) : Store where
  main := store.main.toUntrusted
  others := store.others.map fun _ slot => { slot with value := slot.value.toUntrusted }

/-- The incoming values win, the names already there stay. -/
def merge (store incoming : Store) (discard : Bool) : Store :=
  let kept := if discard then ∅ else store.others
  { main := incoming.main
    others := kept ∪ incoming.others.map fun key slot => Slot.renamed slot kept[key]? }

def slots (store : Store) : List Slot :=
  ⟨mainName, store.main⟩ :: store.others.toList.map (·.2)

def size (store : Store) : Nat := store.others.size + 1

def isEmpty (store : Store) : Bool := store.size == 0

def isAllTrusted (store : Store) : Bool :=
  store.slots.all (·.value.trusted)

/-- The slots in the order of their names. -/
def listing (store : Store) : List Slot :=
  store.slots.mergeSort fun left right => left.name ≤ right.name

instance : Inhabited Store := ⟨new⟩

/-- A store shows as its main content. -/
instance : ToString Store := ⟨fun store => store.main.content⟩

end Store

end TaintTracking
