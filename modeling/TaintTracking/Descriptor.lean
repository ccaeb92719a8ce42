import TaintTracking.Failure

/-!
What is known about a function apart from what it does: its names, its flags and its parameters. The
view is the form in which functions are listed to others.
-/

namespace TaintTracking

structure ParameterView where
  name : String
  description : String
  defaultValue : Option String
  deriving DecidableEq, Repr

structure FunctionView where
  skillName : String
  name : String
  description : String
  isSemantic : Bool
  isSensitive : Bool
  forceOutputUntrusted : Bool
  parameters : List ParameterView
  deriving DecidableEq, Repr

structure Descriptor where
  skill : String
  function : String
  description : String
  isSensitive : Bool
  isSemantic : Bool
  forceOutputUntrusted : Bool
  parameters : List ParameterView
  deriving DecidableEq, Repr

namespace Descriptor

def new (skill function : String) : Descriptor where
  skill
  function
  description := ""
  isSensitive := false
  isSemantic := false
  forceOutputUntrusted := false
  parameters := []

def qualifiedName (descriptor : Descriptor) : String :=
  TaintTracking.qualifiedName descriptor.skill descriptor.function

def describe (descriptor : Descriptor) : FunctionView where
  skillName := descriptor.skill
  name := descriptor.function
  description := descriptor.description
  isSemantic := descriptor.isSemantic
  isSensitive := descriptor.isSensitive
  forceOutputUntrusted := descriptor.forceOutputUntrusted
  parameters := descriptor.parameters

end Descriptor

end TaintTracking
