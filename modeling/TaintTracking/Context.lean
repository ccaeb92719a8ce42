import TaintTracking.Failure
import TaintTracking.Store.Edit

/-!
A context is a handle on a store, together with the run it belongs to and the error that was last
recorded on it. Several handles may be on one store; each has an error of its own.
-/

namespace TaintTracking

abbrev RunId := Nat

abbrev StoreId := Nat

structure Context where
  run : RunId
  store : StoreId
  error : Option InvocationError
  description : String
  deriving DecidableEq, Repr

namespace Context

def new (run : RunId) (store : StoreId) : Context := ⟨run, store, none, ""⟩

def fail (context : Context) (error : InvocationError) : Context :=
  { context with error := some error, description := error.message }

def clearError (context : Context) : Context :=
  { context with error := none, description := "" }

/-- Another handle on the same store, without the error. -/
def share (context : Context) : Context :=
  { context with error := none, description := "" }

def hasError (context : Context) : Bool := context.error.isSome

def isTrustViolation (context : Context) : Bool :=
  match context.error with
  | some (.untrusted _) => true
  | _ => false

def isCancelled (context : Context) : Bool :=
  match context.error with
  | some (.cancelled _) => true
  | _ => false

def sharesStoreWith (left right : Context) : Bool := left.store == right.store

end Context

/-- What can be seen through a context: the variables and the error, but no identity. -/
structure Snapshot where
  store : Store
  error : Option InvocationError
  description : String

namespace Snapshot

/-- The description of the error if there is one, else the main content. -/
def display (snapshot : Snapshot) : String :=
  if snapshot.error.isSome then snapshot.description else snapshot.store.main.content

end Snapshot

end TaintTracking
