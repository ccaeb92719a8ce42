import TaintTracking.Descriptor
import TaintTracking.Store.Basic

/-!
The trust configuration: the default trust of outputs, and rules that override the flags of single
functions. Rules apply in their order, so for each flag the last matching rule that sets it wins.
-/

namespace TaintTracking

structure FunctionOverride where
  skill : String
  function : String
  isSensitive : Option Bool
  forceOutputUntrusted : Option Bool
  deriving DecidableEq, Repr

structure TrustConfig where
  defaultTrusted : Bool
  functions : List FunctionOverride
  deriving DecidableEq, Repr

namespace FunctionOverride

/-- Names are compared as the store compares them. -/
def applies (rule : FunctionOverride) (descriptor : Descriptor) : Bool :=
  normalize rule.skill == normalize descriptor.skill
    && normalize rule.function == normalize descriptor.function

/-- Sets the flags that the rule mentions. -/
def apply (rule : FunctionOverride) (descriptor : Descriptor) : Descriptor :=
  if rule.applies descriptor then
    { descriptor with
      isSensitive := rule.isSensitive.getD descriptor.isSensitive
      forceOutputUntrusted := rule.forceOutputUntrusted.getD descriptor.forceOutputUntrusted }
  else descriptor

end FunctionOverride

namespace TrustConfig

def default : TrustConfig := ⟨true, []⟩

instance : Inhabited TrustConfig := ⟨default⟩

def applyOverrides (config : TrustConfig) (descriptor : Descriptor) : Descriptor :=
  config.functions.foldl (fun descriptor rule => rule.apply descriptor) descriptor

/-- The rules that name the function. -/
def rulesFor (config : TrustConfig) (descriptor : Descriptor) : List FunctionOverride :=
  config.functions.filter (·.applies descriptor)

end TrustConfig

end TaintTracking
