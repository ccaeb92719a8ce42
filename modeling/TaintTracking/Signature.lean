import TaintTracking.Text.Quoted

/-!
What a callable takes and gives. A signature lists the declared parameters; classification turns it
into one of the twenty-four shapes that can be run, or says why there is none.
-/

namespace TaintTracking

inductive InputShape where
  | nothing
  | text
  | context
  | textAndContext
  deriving DecidableEq, Repr

inductive OutputShape where
  | nothing
  | text
  | context
  deriving DecidableEq, Repr

structure Shape where
  input : InputShape
  output : OutputShape
  asynchronous : Bool
  deriving DecidableEq, Repr

inductive ParamKind where
  | input
  | context
  | cancellation
  | other (typeName : String)
  deriving DecidableEq, Repr

inductive ReturnKind where
  | nothing
  | text
  | context
  | other (typeName : String)
  deriving DecidableEq, Repr

structure Signature where
  params : List ParamKind
  returns : ReturnKind
  asynchronous : Bool
  deriving DecidableEq, Repr

inductive UnsupportedShape where
  | synchronousCancellation
  | paramList (params : List ParamKind)
  | returnType (typeName : String)
  deriving DecidableEq, Repr

inductive BindingError where
  | unsupportedShape (function : String) (reason : UnsupportedShape)
  | shapeMismatch (function : String) (declared actual : Shape)
  deriving DecidableEq, Repr

namespace InputShape

def label : InputShape → String
  | .nothing => "Nothing"
  | .text => "Text"
  | .context => "Context"
  | .textAndContext => "TextAndContext"

end InputShape

namespace OutputShape

def label : OutputShape → String
  | .nothing => "Nothing"
  | .text => "Text"
  | .context => "Context"

end OutputShape

namespace Shape

instance : ToString Shape where
  toString shape :=
    (if shape.asynchronous then "async " else "") ++ shape.input.label ++ " -> " ++ shape.output.label

/-- The shape as a record, for diagnostics. -/
def inspect (shape : Shape) : String :=
  "Shape \x7b input: " ++ shape.input.label ++ ", output: " ++ shape.output.label
    ++ ", asynchronous: " ++ toString shape.asynchronous ++ " \x7d"

end Shape

namespace ParamKind

def inspect : ParamKind → String
  | .input => "Input"
  | .context => "Context"
  | .cancellation => "Cancellation"
  | .other typeName => "Other \x7b type_name: " ++ Text.quoted typeName ++ " \x7d"

end ParamKind

namespace UnsupportedShape

def message : UnsupportedShape → String
  | .synchronousCancellation => "cancellation is only accepted by asynchronous callables"
  | .paramList params =>
    "unsupported parameter list [" ++ ", ".intercalate (params.map ParamKind.inspect) ++ "]"
  | .returnType typeName => "unsupported return type " ++ typeName

end UnsupportedShape

namespace BindingError

def message : BindingError → String
  | .unsupportedShape function reason =>
    "function " ++ function ++ " has an unsupported shape: " ++ reason.message
  | .shapeMismatch function declared actual =>
    "function " ++ function ++ " declares " ++ toString declared
      ++ " but its body is " ++ toString actual

end BindingError

namespace Signature

/-- The parameters without one trailing cancellation, which only an asynchronous callable may
have. -/
def dataParams (signature : Signature) : Except UnsupportedShape (List ParamKind) :=
  if signature.params.getLast? = some .cancellation then
    if signature.asynchronous then .ok signature.params.dropLast
    else .error .synchronousCancellation
  else .ok signature.params

def inputShape : List ParamKind → Except UnsupportedShape InputShape
  | [] => .ok .nothing
  | [.input] => .ok .text
  | [.context] => .ok .context
  | [.input, .context] => .ok .textAndContext
  | params => .error (.paramList params)

def outputShape : ReturnKind → Except UnsupportedShape OutputShape
  | .nothing => .ok .nothing
  | .text => .ok .text
  | .context => .ok .context
  | .other typeName => .error (.returnType typeName)

def shape (signature : Signature) : Except UnsupportedShape Shape := do
  let input ← inputShape (← signature.dataParams)
  let output ← outputShape signature.returns
  return ⟨input, output, signature.asynchronous⟩

def classify (signature : Signature) (function : String) : Except BindingError Shape :=
  signature.shape.mapError (.unsupportedShape function)

end Signature

end TaintTracking
