import TaintTracking.Proofs.Json.RoundTrip
import TaintTracking.Wire.Decode
import TaintTracking.Wire.Encode

/-!
Values, signatures and function views on the wire. Main statement: each of the nine types that are
written reads back from its text, so that a text which was accepted in any spelling is written in one
that denotes the same value and is written again as it stands.
-/

namespace TaintTracking

namespace Data

/-! What is written holds no numbers and no incomplete text. -/

theorem isPlain_ofMembers {members : List (String × Data)}
    (plain : ∀ member ∈ members, member.2.IsPlain) : (ofMembers members).IsPlain := by
  rw [ofMembers, IsPlain]
  induction members with
  | nil => simp [AreMembersPlain]
  | cons member members ih =>
    rw [List.map_cons, AreMembersPlain]
    exact ⟨rfl, plain member (List.mem_cons_self ..),
      ih fun other later => plain other (List.mem_cons_of_mem member later)⟩

theorem isPlain_list_map {α : Type} {encode : α → Data} (plain : ∀ value, (encode value).IsPlain)
    (values : List α) : (Data.list (values.map encode)).IsPlain := by
  rw [IsPlain]
  induction values with
  | nil => simp [ArePlain]
  | cons value values ih =>
    rw [List.map_cons, ArePlain]
    exact ⟨plain value, ih⟩

@[simp] theorem isPlain_ofText (text : String) : (ofText text).IsPlain := by simp [ofText, IsPlain]

@[simp] theorem isPlain_flag (value : Bool) : (Data.flag value).IsPlain := by simp [IsPlain]

@[simp] theorem isPlain_ofOption_ofText (text : Option String) : (ofOption ofText text).IsPlain := by
  cases text with
  | none => simp [ofOption, IsPlain]
  | some text => exact isPlain_ofText text

/-! Reading the fields of what was written. -/

theorem mapM_map_eq_some {α β γ : Type} {encode : α → β} {read : β → Option γ} {meant : α → γ}
    {values : List α} (reads : ∀ value ∈ values, read (encode value) = some (meant value)) :
    (values.map encode).mapM read = some (values.map meant) := by
  induction values with
  | nil => rfl
  | cons value values ih =>
    rw [List.map_cons, List.mapM_cons, reads value (List.mem_cons_self ..),
      ih fun other later => reads other (List.mem_cons_of_mem value later)]
    rfl

/-- A member that no other has the name of is found under its name. -/
theorem member?_of_mem {members : List (String × Data)} (distinct : (members.map Prod.fst).Nodup)
    {member : String × Data} (present : member ∈ members) :
    member? member.1 (members.map fun (name, value) => (some name, value)) = some (some member.2) := by
  have alone : (members.map fun (name, value) => (some name, value)).filter
      (·.1 = some member.1) = [(some member.1, member.2)] := by
    induction members with
    | nil => cases present
    | cons first members ih =>
      rw [List.map_cons, List.nodup_cons] at distinct
      rcases List.mem_cons.mp present with rfl | later
      · rw [List.map_cons, List.filter_cons_of_pos (by simp), List.filter_eq_nil_iff.mpr]
        intro other inRest
        obtain ⟨later, inMembers, rfl⟩ := List.mem_map.mp inRest
        have different : later.1 ≠ member.1 := by
          intro same
          exact distinct.1 (same ▸ List.mem_map_of_mem inMembers)
        simpa using different
      · have different : first.1 ≠ member.1 := by
          intro same
          exact distinct.1 (same ▸ List.mem_map_of_mem later)
        rw [List.map_cons, List.filter_cons_of_neg (by simpa using different)]
        exact ih distinct.2 later
  rw [member?, alone]

/-- The fields of a record are what was written for them. -/
theorem fields?_ofMembers (form : ListForm) {members : List (String × Data)}
    (distinct : (members.map Prod.fst).Nodup) :
    (ofMembers members).fields? form (members.map Prod.fst) =
      some (members.map fun member => some member.2) := by
  rw [ofMembers, fields?, if_pos (by simp)]
  exact mapM_map_eq_some fun member present => member?_of_mem distinct present

theorem asListOf?_map {α : Type} {encode : α → Data} {read : Data → Option α}
    (readsBack : ∀ value, read (encode value) = some value) (values : List α) :
    asListOf? read (.list (values.map encode)) = some values := by
  have read := @mapM_map_eq_some _ _ _ encode read id values fun value _ => readsBack value
  rwa [List.map_id] at read

end Data

/-! The nine types. -/

theorem TaintedValue.ofData?_toData (value : TaintedValue) : ofData? value.toData = some value := by
  have fields := @Data.fields?_ofMembers .exact
    [("content", .ofText value.content), ("trusted", .flag value.trusted)] (by simp)
  simp only [List.map_cons, List.map_nil] at fields
  rw [ofData?, toData, fields]
  rfl

theorem TaintedValue.isPlain_toData (value : TaintedValue) : value.toData.IsPlain :=
  Data.isPlain_ofMembers (by simp)

theorem InputShape.ofData?_toData (shape : InputShape) : ofData? shape.toData = some shape := by
  cases shape <;> rfl

theorem InputShape.isPlain_toData (shape : InputShape) : shape.toData.IsPlain :=
  Data.isPlain_ofText shape.tag

theorem OutputShape.ofData?_toData (shape : OutputShape) : ofData? shape.toData = some shape := by
  cases shape <;> rfl

theorem OutputShape.isPlain_toData (shape : OutputShape) : shape.toData.IsPlain :=
  Data.isPlain_ofText shape.tag

theorem Shape.ofData?_toData (shape : Shape) : ofData? shape.toData = some shape := by
  have fields := @Data.fields?_ofMembers .exact [("input", shape.input.toData),
    ("output", shape.output.toData), ("asynchronous", .flag shape.asynchronous)] (by simp)
  simp only [List.map_cons, List.map_nil] at fields
  rw [ofData?, toData, fields]
  simp [InputShape.ofData?_toData, OutputShape.ofData?_toData, Data.asFlag?]

theorem Shape.isPlain_toData (shape : Shape) : shape.toData.IsPlain :=
  Data.isPlain_ofMembers (by simp [InputShape.isPlain_toData, OutputShape.isPlain_toData])

/-- A kind with the name of its type, if it has one, is found and kept at any depth. -/
theorem asTagged?_kindData (depth : Nat) (kind : String) (typeName : Option String) :
    (kindData kind typeName).asTagged? depth = some (.members kind
      ((typeName.map fun name => (some "type_name", Data.ofText name)).toList)) := by
  cases typeName <;>
    simp [kindData, Data.ofMembers, Data.asTagged?, Data.member?, Data.ofText,
      Data.areMembersKeepable, Data.isKeepable]

theorem isPlain_kindData (kind : String) (typeName : Option String) :
    (kindData kind typeName).IsPlain :=
  Data.isPlain_ofMembers (by cases typeName <;> simp)

theorem typeName?_ofText (kind name : String) :
    (Tagged.members kind [(some "type_name", Data.ofText name)]).typeName? = some name := by
  simp [Tagged.typeName?, Data.member?, Data.ofText, Data.asText?]

theorem ParamKind.ofData?_toData (depth : Nat) (kind : ParamKind) :
    ofData? depth kind.toData = some kind := by
  cases kind with
  | other typeName =>
    rw [ofData?, toData, asTagged?_kindData]
    exact congrArg (Option.map ParamKind.other) (typeName?_ofText "other" typeName)
  | _ =>
    rw [ofData?, toData, asTagged?_kindData]
    rfl

theorem ParamKind.isPlain_toData (kind : ParamKind) : kind.toData.IsPlain := by
  cases kind <;> exact isPlain_kindData _ _

theorem ReturnKind.ofData?_toData (depth : Nat) (kind : ReturnKind) :
    ofData? depth kind.toData = some kind := by
  cases kind with
  | other typeName =>
    rw [ofData?, toData, asTagged?_kindData]
    exact congrArg (Option.map ReturnKind.other) (typeName?_ofText "other" typeName)
  | _ =>
    rw [ofData?, toData, asTagged?_kindData]
    rfl

theorem ReturnKind.isPlain_toData (kind : ReturnKind) : kind.toData.IsPlain := by
  cases kind <;> exact isPlain_kindData _ _

theorem Signature.ofData?_toData (signature : Signature) :
    ofData? signature.toData = some signature := by
  have fields := @Data.fields?_ofMembers .exact
    [("params", .list (signature.params.map ParamKind.toData)),
      ("returns", signature.returns.toData), ("asynchronous", .flag signature.asynchronous)] (by simp)
  simp only [List.map_cons, List.map_nil] at fields
  rw [ofData?, toData, fields]
  simp [Data.orDefault, Data.asListOf?_map (ParamKind.ofData?_toData 2), ReturnKind.ofData?_toData,
    Data.asFlag?]

theorem Signature.isPlain_toData (signature : Signature) : signature.toData.IsPlain :=
  Data.isPlain_ofMembers
    (by simp [Data.isPlain_list_map ParamKind.isPlain_toData, ReturnKind.isPlain_toData])

theorem ParameterView.ofData?_toData (view : ParameterView) : ofData? view.toData = some view := by
  have fields := @Data.fields?_ofMembers .exact [("name", .ofText view.name),
    ("description", .ofText view.description),
    ("default_value", .ofOption .ofText view.defaultValue)] (by simp)
  simp only [List.map_cons, List.map_nil] at fields
  have default : Data.asOption? Data.asText? (.ofOption .ofText view.defaultValue) =
      some view.defaultValue := by
    cases view.defaultValue <;> rfl
  rw [ofData?, toData, fields]
  simp [Data.orDefault, Data.ofText, Data.asText?, default]

theorem ParameterView.isPlain_toData (view : ParameterView) : view.toData.IsPlain :=
  Data.isPlain_ofMembers (by simp)

theorem FunctionView.ofData?_toData (view : FunctionView) : ofData? view.toData = some view := by
  have fields := @Data.fields?_ofMembers .exact
    [("skill_name", .ofText view.skillName), ("name", .ofText view.name),
      ("description", .ofText view.description), ("is_semantic", .flag view.isSemantic),
      ("is_sensitive", .flag view.isSensitive),
      ("force_output_untrusted", .flag view.forceOutputUntrusted),
      ("parameters", .list (view.parameters.map ParameterView.toData))] (by simp)
  simp only [List.map_cons, List.map_nil] at fields
  rw [ofData?, toData, fields]
  simp [Data.ofText, Data.asText?, Data.asFlag?, Data.asListOf?_map ParameterView.ofData?_toData]

theorem FunctionView.isPlain_toData (view : FunctionView) : view.toData.IsPlain :=
  Data.isPlain_ofMembers (by simp [Data.isPlain_list_map ParameterView.isPlain_toData])

/-- The types that are exchanged as texts of their own. -/
inductive WireType where
  | taintedValue
  | paramKind
  | returnKind
  | inputShape
  | outputShape
  | shape
  | signature
  | parameterView
  | functionView

namespace WireType

@[reducible] def Value : WireType → Type
  | .taintedValue => TaintedValue
  | .paramKind => ParamKind
  | .returnKind => ReturnKind
  | .inputShape => InputShape
  | .outputShape => OutputShape
  | .shape => Shape
  | .signature => Signature
  | .parameterView => ParameterView
  | .functionView => FunctionView

def toData : (type : WireType) → type.Value → Data
  | .taintedValue => TaintedValue.toData
  | .paramKind => ParamKind.toData
  | .returnKind => ReturnKind.toData
  | .inputShape => InputShape.toData
  | .outputShape => OutputShape.toData
  | .shape => Shape.toData
  | .signature => Signature.toData
  | .parameterView => ParameterView.toData
  | .functionView => FunctionView.toData

/-- A text of its own has nothing around it, so a tagged record in it is at depth 0. -/
def ofData? : (type : WireType) → Data → Option type.Value
  | .taintedValue => TaintedValue.ofData?
  | .paramKind => ParamKind.ofData? 0
  | .returnKind => ReturnKind.ofData? 0
  | .inputShape => InputShape.ofData?
  | .outputShape => OutputShape.ofData?
  | .shape => Shape.ofData?
  | .signature => Signature.ofData?
  | .parameterView => ParameterView.ofData?
  | .functionView => FunctionView.ofData?

def write (type : WireType) (value : type.Value) : String := Json.compact (type.toData value)

def read? (type : WireType) (text : String) : Option type.Value :=
  (Json.parse text).bind type.ofData?

theorem isPlain_toData : (type : WireType) → ∀ value : type.Value, (type.toData value).IsPlain
  | .taintedValue => TaintedValue.isPlain_toData
  | .paramKind => ParamKind.isPlain_toData
  | .returnKind => ReturnKind.isPlain_toData
  | .inputShape => InputShape.isPlain_toData
  | .outputShape => OutputShape.isPlain_toData
  | .shape => Shape.isPlain_toData
  | .signature => Signature.isPlain_toData
  | .parameterView => ParameterView.isPlain_toData
  | .functionView => FunctionView.isPlain_toData

theorem ofData?_toData : (type : WireType) → ∀ value : type.Value,
    type.ofData? (type.toData value) = some value
  | .taintedValue => TaintedValue.ofData?_toData
  | .paramKind => ParamKind.ofData?_toData 0
  | .returnKind => ReturnKind.ofData?_toData 0
  | .inputShape => InputShape.ofData?_toData
  | .outputShape => OutputShape.ofData?_toData
  | .shape => Shape.ofData?_toData
  | .signature => Signature.ofData?_toData
  | .parameterView => ParameterView.ofData?_toData
  | .functionView => FunctionView.ofData?_toData

theorem read?_write (type : WireType) (value : type.Value) :
    type.read? (type.write value) = some value := by
  rw [read?, write, Json.parse_compact (type.isPlain_toData value)]
  exact type.ofData?_toData value

/-- Writing and reading are inverse on the values of each type. A text that is accepted is rewritten
to one that means the same and is a fixed point of rewriting, and the view of a function reads back as
what its descriptor says. -/
theorem round_trip :
    (∀ (type : WireType) (value : type.Value), type.read? (type.write value) = some value) ∧
      (∀ (type : WireType) (text : String) (value : type.Value), type.read? text = some value →
        type.read? (type.write value) = type.read? text ∧
          (type.read? (type.write value)).map type.write = some (type.write value)) ∧
      ∀ descriptor : Descriptor,
        read? .functionView (write .functionView descriptor.describe) = some descriptor.describe := by
  refine ⟨read?_write, ?_, fun descriptor => read?_write .functionView descriptor.describe⟩
  intro type text value accepted
  rw [read?_write, accepted]
  exact ⟨rfl, rfl⟩

/-- A signature in another spelling: lists for records, an escaped digit, white space. -/
theorem round_trip_listed :
    read? .signature "[ [[\"other\", \"i\\u00332\"], [\"input\"]], [\"text\"], true ]" =
        some ⟨[.other "i32", .input], .text, true⟩ ∧
      read? .signature (write .signature ⟨[.other "i32", .input], .text, true⟩) =
        some ⟨[.other "i32", .input], .text, true⟩ := by
  have accepted : read? .signature
      "[ [[\"other\", \"i\\u00332\"], [\"input\"]], [\"text\"], true ]" =
        some ⟨[.other "i32", .input], .text, true⟩ := by decide +kernel
  exact ⟨accepted, (round_trip.2.1 .signature _ _ accepted).1.trans accepted⟩

end WireType

end TaintTracking
