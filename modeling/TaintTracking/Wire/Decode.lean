import TaintTracking.Wire.Encode

/-!
Reading values, signatures and function views from documents. A record may also be a list of its
fields in order; fields that are not known are passed over.
-/

namespace TaintTracking

/-- How deep the containers of a document may be nested. -/
def maxNesting : Nat := 127

def TaintedValue.ofData? (data : Data) : Option TaintedValue := do
  match ← data.fields? .exact ["content", "trusted"] with
  | [some content, some trusted] =>
    return { content := ← content.asText?, trusted := ← trusted.asFlag? }
  | _ => none

/-- A name from a closed set: a text, or a record with that name alone and nothing under it. -/
def Data.asTag? : Data → Option String
  | .text tag => tag
  | .record [(tag, .null)] => tag
  | _ => none

def InputShape.ofTag? : String → Option InputShape
  | "nothing" => some .nothing
  | "text" => some .text
  | "context" => some .context
  | "text_and_context" => some .textAndContext
  | _ => none

def InputShape.ofData? (data : Data) : Option InputShape := data.asTag?.bind ofTag?

def OutputShape.ofTag? : String → Option OutputShape
  | "nothing" => some .nothing
  | "text" => some .text
  | "context" => some .context
  | _ => none

def OutputShape.ofData? (data : Data) : Option OutputShape := data.asTag?.bind ofTag?

def Shape.ofData? (data : Data) : Option Shape := do
  match ← data.fields? .exact ["input", "output", "asynchronous"] with
  | [some input, some output, some asynchronous] =>
    return {
      input := ← InputShape.ofData? input
      output := ← OutputShape.ofData? output
      asynchronous := ← asynchronous.asFlag? }
  | _ => none

/-- A tag with what stands beside it: the other members of a record, or the other items of a
list. -/
inductive Tagged where
  | members (kind : String) (others : List (Option String × Data))
  | items (kind : String) (others : List Data)

/-- The tag is found before the rest is read, so all of the rest has to be kept. `depth` counts the
containers around the document. -/
def Data.asTagged? (depth : Nat) : Data → Option Tagged
  | .record members =>
    match Data.member? "kind" members with
    | some (some (.text (some kind))) =>
      let others := members.filter (·.1 ≠ some "kind")
      if Data.areMembersKeepable (maxNesting - 1 - depth) others then some (.members kind others)
      else none
    | _ => none
  | .list (.text (some kind) :: others) =>
    if Data.areItemsKeepable (maxNesting - 1 - depth) others then some (.items kind others)
    else none
  | _ => none

/-- A kind without content: members beside it do not matter, items do. -/
def Tagged.isBare : Tagged → Bool
  | .members _ _ => true
  | .items _ others => others.isEmpty

def Tagged.kind : Tagged → String
  | .members kind _ => kind
  | .items kind _ => kind

/-- The content of a kind that names a type. -/
def Tagged.typeName? : Tagged → Option String
  | .members _ others =>
    match Data.member? "type_name" others with
    | some (some name) => name.asText?
    | _ => none
  | .items _ [name] => name.asText?
  | .items _ _ => none

def ParamKind.ofTagged? (tagged : Tagged) : Option ParamKind :=
  match tagged.kind with
  | "input" => if tagged.isBare then some .input else none
  | "context" => if tagged.isBare then some .context else none
  | "cancellation" => if tagged.isBare then some .cancellation else none
  | "other" => tagged.typeName?.map .other
  | _ => none

def ReturnKind.ofTagged? (tagged : Tagged) : Option ReturnKind :=
  match tagged.kind with
  | "nothing" => if tagged.isBare then some .nothing else none
  | "text" => if tagged.isBare then some .text else none
  | "context" => if tagged.isBare then some .context else none
  | "other" => tagged.typeName?.map .other
  | _ => none

def ParamKind.ofData? (depth : Nat) (data : Data) : Option ParamKind :=
  (data.asTagged? depth).bind ofTagged?

def ReturnKind.ofData? (depth : Nat) (data : Data) : Option ReturnKind :=
  (data.asTagged? depth).bind ofTagged?

def Signature.ofData? (data : Data) : Option Signature := do
  match ← data.fields? .exact ["params", "returns", "asynchronous"] with
  | [params, some returns, asynchronous] =>
    return {
      params := ← Data.orDefault [] (Data.asListOf? (ParamKind.ofData? 2)) params
      returns := ← ReturnKind.ofData? 1 returns
      asynchronous := ← Data.orDefault false Data.asFlag? asynchronous }
  | _ => none

def ParameterView.ofData? (data : Data) : Option ParameterView := do
  match ← data.fields? .exact ["name", "description", "default_value"] with
  | [some name, description, defaultValue] =>
    return {
      name := ← name.asText?
      description := ← Data.orDefault "" Data.asText? description
      defaultValue := ← Data.orDefault none (Data.asOption? Data.asText?) defaultValue }
  | _ => none

def FunctionView.ofData? (data : Data) : Option FunctionView := do
  match ← data.fields? .exact ["skill_name", "name", "description", "is_semantic", "is_sensitive",
      "force_output_untrusted", "parameters"] with
  | [some skillName, some name, some description, some isSemantic, some isSensitive,
      some forceOutputUntrusted, some parameters] =>
    return {
      skillName := ← skillName.asText?
      name := ← name.asText?
      description := ← description.asText?
      isSemantic := ← isSemantic.asFlag?
      isSensitive := ← isSensitive.asFlag?
      forceOutputUntrusted := ← forceOutputUntrusted.asFlag?
      parameters := ← parameters.asListOf? ParameterView.ofData? }
  | _ => none

end TaintTracking
