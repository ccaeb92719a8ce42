import TaintTracking.Store.Basic

/-!
The variables of a run as one map from keys to slots, where the main variable is an entry like any
other: only what the operations do keeps it there, under its key and with its exact name.
-/

namespace TaintTracking

structure SlotMap where
  entries : Std.ExtTreeMap String Slot

namespace SlotMap

/-- An entry that is there keeps its name, and a new one gets the name that is written. -/
def put (map : SlotMap) (key name : String) (value : TaintedValue) : SlotMap :=
  match map.entries[key]? with
  | some slot => ⟨map.entries.insert key { slot with value }⟩
  | none => ⟨map.entries.insert key ⟨name, value⟩⟩

def erase (map : SlotMap) (key : String) : SlotMap := ⟨map.entries.erase key⟩

def ofMain (main : TaintedValue) : SlotMap :=
  ⟨(∅ : Std.ExtTreeMap String Slot).insert mainName ⟨mainName, main⟩⟩

def new : SlotMap := ofMain TaintedValue.empty

def get? (map : SlotMap) (name : String) : Option TaintedValue :=
  map.entries[normalize name]?.map (·.value)

def get (map : SlotMap) (name : String) : TaintedValue :=
  (map.get? name).getD TaintedValue.empty

def contains (map : SlotMap) (name : String) : Bool := map.entries.contains (normalize name)

def main (map : SlotMap) : TaintedValue := map.get mainName

/-- Without content the entry goes away, except for the main one, which becomes empty. -/
def set (map : SlotMap) (name : String) (content : Option String) (trusted : Bool) : SlotMap :=
  let key := normalize name
  match content with
  | some content => map.put key name ⟨content, trusted⟩
  | none => if key = mainName then map.put key name ⟨"", trusted⟩ else map.erase key

def setValue (map : SlotMap) (name : String) (value : TaintedValue) : SlotMap :=
  map.put (normalize name) name value

def insert (map : SlotMap) (name content : String) : SlotMap :=
  map.put (normalize name) name (TaintedValue.ofText content)

/-- The value that was there comes with what is left. The main entry becomes empty and trusted. -/
def remove (map : SlotMap) (name : String) : Option TaintedValue × SlotMap :=
  let key := normalize name
  if key = mainName then (map.get? mainName, map.put key mainName TaintedValue.empty)
  else (map.entries[key]?.map (·.value), map.erase key)

def updateMain (map : SlotMap) (content : String) (trusted : Bool) : SlotMap :=
  map.setValue mainName ⟨content, trusted⟩

/-- A main entry that is missing counts as empty and trusted. -/
def updateMainPreservingTrust (map : SlotMap) (content : String) (trusted : Bool) : SlotMap :=
  let slot := map.entries[mainName]?.getD ⟨mainName, TaintedValue.empty⟩
  ⟨map.entries.insert mainName { slot with value := ⟨content, slot.value.trusted && trusted⟩ }⟩

/-- Does nothing if the main entry is missing. -/
def untrustMain (map : SlotMap) : SlotMap :=
  match map.entries[mainName]? with
  | some slot => ⟨map.entries.insert mainName { slot with value := slot.value.toUntrusted }⟩
  | none => map

def forceAllUntrusted (map : SlotMap) : SlotMap :=
  ⟨map.entries.map fun _ slot => { slot with value := slot.value.toUntrusted }⟩

def putAll (map : SlotMap) (entries : List (String × Slot)) : SlotMap :=
  entries.foldl (fun map entry => map.put entry.1 entry.2.name entry.2.value) map

/-- The incoming entries keep the keys that they come with, and come in the order in which the other map
happens to be gone through. A main entry is put back if none has come. -/
def merge (map : SlotMap) (incoming : List (String × Slot)) (discard : Bool) : SlotMap :=
  let kept := if discard then ⟨∅⟩ else map
  let merged := kept.putAll incoming
  if merged.entries.contains mainName then merged
  else merged.put mainName mainName TaintedValue.empty

def isAllTrusted (map : SlotMap) : Bool :=
  map.entries.toList.all fun entry => entry.2.value.trusted

def size (map : SlotMap) : Nat := map.entries.size

def isEmpty (map : SlotMap) : Bool := map.entries.isEmpty

/-- The names with the contents, as they are listed. -/
def pairs (map : SlotMap) : List (String × String) :=
  map.entries.toList.map fun entry => (entry.2.name, entry.2.value.content)

end SlotMap

/-- The store as one map. -/
def Store.toMap (store : Store) : SlotMap :=
  ⟨store.others.insert mainName ⟨mainName, store.main⟩⟩

end TaintTracking
