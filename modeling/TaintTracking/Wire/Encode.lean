import TaintTracking.Descriptor
import TaintTracking.Data.Basic
import TaintTracking.Value

/-!
The documents in which values, signatures and function views are written.
-/

namespace TaintTracking

def TaintedValue.toData (value : TaintedValue) : Data :=
  .ofMembers [("content", .ofText value.content), ("trusted", .flag value.trusted)]

def InputShape.tag : InputShape → String
  | .nothing => "nothing"
  | .text => "text"
  | .context => "context"
  | .textAndContext => "text_and_context"

def InputShape.toData (shape : InputShape) : Data := .ofText shape.tag

def OutputShape.tag : OutputShape → String
  | .nothing => "nothing"
  | .text => "text"
  | .context => "context"

def OutputShape.toData (shape : OutputShape) : Data := .ofText shape.tag

def Shape.toData (shape : Shape) : Data :=
  .ofMembers [("input", shape.input.toData), ("output", shape.output.toData),
    ("asynchronous", .flag shape.asynchronous)]

/-- A tagged record: the kind, and the name of the type for the kind that has one. -/
def kindData (kind : String) (typeName : Option String) : Data :=
  .ofMembers (("kind", .ofText kind)
    :: (typeName.map fun name => ("type_name", Data.ofText name)).toList)

def ParamKind.toData : ParamKind → Data
  | .input => kindData "input" none
  | .context => kindData "context" none
  | .cancellation => kindData "cancellation" none
  | .other typeName => kindData "other" (some typeName)

def ReturnKind.toData : ReturnKind → Data
  | .nothing => kindData "nothing" none
  | .text => kindData "text" none
  | .context => kindData "context" none
  | .other typeName => kindData "other" (some typeName)

def Signature.toData (signature : Signature) : Data :=
  .ofMembers [("params", .list (signature.params.map ParamKind.toData)),
    ("returns", signature.returns.toData), ("asynchronous", .flag signature.asynchronous)]

def ParameterView.toData (view : ParameterView) : Data :=
  .ofMembers [("name", .ofText view.name), ("description", .ofText view.description),
    ("default_value", .ofOption .ofText view.defaultValue)]

def FunctionView.toData (view : FunctionView) : Data :=
  .ofMembers [("skill_name", .ofText view.skillName), ("name", .ofText view.name),
    ("description", .ofText view.description), ("is_semantic", .flag view.isSemantic),
    ("is_sensitive", .flag view.isSensitive),
    ("force_output_untrusted", .flag view.forceOutputUntrusted),
    ("parameters", .list (view.parameters.map ParameterView.toData))]

end TaintTracking
