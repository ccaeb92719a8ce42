import TaintTracking.Store.Basic

/-!
The writing operations of a store as data, so that programs and histories can hold them.
-/

namespace TaintTracking.Store

inductive Edit where
  | set (name : String) (content : Option String) (trusted : Bool)
  | setValue (name : String) (value : TaintedValue)
  | insert (name content : String)
  | remove (name : String)
  | updateMain (content : String) (trusted : Bool)
  | updateMainPreservingTrust (content : String) (trusted : Bool)
  | untrustMain
  | forceAllUntrusted
  | merge (incoming : Store) (discard : Bool)

def edit (store : Store) : Edit → Store
  | .set name content trusted => store.set name content trusted
  | .setValue name value => store.setValue name value
  | .insert name content => store.insert name content
  | .remove name => store.remove name
  | .updateMain content trusted => store.updateMain content trusted
  | .updateMainPreservingTrust content trusted => store.updateMainPreservingTrust content trusted
  | .untrustMain => store.untrustMain
  | .forceAllUntrusted => store.forceAllUntrusted
  | .merge incoming discard => store.merge incoming discard

def editAll (store : Store) (edits : List Edit) : Store :=
  edits.foldl edit store

end TaintTracking.Store
