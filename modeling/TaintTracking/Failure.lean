import TaintTracking.Signature

/-!
Why an invocation or a pipeline fails, and the text of each reason.
-/

namespace TaintTracking

/-- What a callable reports: its own message and the messages below it, the root last. -/
structure Cause where
  outermost : String
  sources : List String
  deriving DecidableEq, Repr

namespace Cause

def ofRoot (root : String) : Cause := ⟨root, []⟩

/-- Adds a message around the others. -/
def wrap (cause : Cause) (message : String) : Cause := ⟨message, cause.outermost :: cause.sources⟩

def chain (cause : Cause) : List String := cause.outermost :: cause.sources

def message (cause : Cause) : String := ": ".intercalate cause.chain

end Cause

def qualifiedName (skill function : String) : String := skill ++ "." ++ function

inductive TrustError where
  | sensitiveOnUntrusted (skill function : String)
  deriving DecidableEq, Repr

namespace TrustError

def message : TrustError → String
  | .sensitiveOnUntrusted skill function =>
    "sensitive function " ++ qualifiedName skill function ++ " cannot run with untrusted content"

end TrustError

inductive InvocationError where
  | untrusted (error : TrustError)
  | failed (skill function : String) (cause : Cause)
  | cancelled (step : Nat)
  deriving DecidableEq, Repr

namespace InvocationError

def message : InvocationError → String
  | .untrusted error => error.message
  | .failed skill function cause =>
    "function " ++ qualifiedName skill function ++ " failed: " ++ cause.message
  | .cancelled step => "pipeline cancelled before step " ++ toString step

end InvocationError

inductive PipelineError where
  | tooManySteps (steps limit : Nat)
  deriving DecidableEq, Repr

namespace PipelineError

def message : PipelineError → String
  | .tooManySteps steps limit =>
    "pipeline would have " ++ toString steps ++ " steps, limit is " ++ toString limit

end PipelineError

end TaintTracking
