import Mathlib.Data.List.Basic
import TaintTracking.Signature

/-!
Which signatures have a shape. Main statement: those that declare the parameters and the output of a shape,
and at most one cancellation more, which is the last parameter of an asynchronous callable.
-/

namespace TaintTracking

/-- The parameters that stand for an input shape. -/
def InputShape.params : InputShape → List ParamKind
  | .nothing => []
  | .text => [.input]
  | .context => [.context]
  | .textAndContext => [.input, .context]

def OutputShape.returns : OutputShape → ReturnKind
  | .nothing => .nothing
  | .text => .text
  | .context => .context

theorem InputShape.cancellation_notMem_params (input : InputShape) :
    .cancellation ∉ input.params := by
  cases input <;> decide

namespace Signature

/-- The parameters are these, apart from a cancellation in the last place if it is asynchronous. -/
def Takes (signature : Signature) (params : List ParamKind) : Prop :=
  signature.params = params ∨
    signature.asynchronous = true ∧ signature.params = params ++ [.cancellation]

structure Declares (signature : Signature) (shape : Shape) : Prop where
  takes : signature.Takes shape.input.params
  returns : signature.returns = shape.output.returns
  asynchronous : signature.asynchronous = shape.asynchronous

theorem inputShape_eq_ok_iff {params : List ParamKind} {input : InputShape} :
    inputShape params = .ok input ↔ params = input.params := by
  constructor
  · intro accepted
    unfold inputShape at accepted
    split at accepted <;> cases accepted <;> rfl
  · rintro rfl
    cases input <;> rfl

theorem outputShape_eq_ok_iff {returns : ReturnKind} {output : OutputShape} :
    outputShape returns = .ok output ↔ returns = output.returns := by
  constructor
  · intro accepted
    cases returns <;> cases accepted <;> rfl
  · rintro rfl
    cases output <;> rfl

variable {signature : Signature}

theorem dataParams_eq_ok_iff {params : List ParamKind} (plain : .cancellation ∉ params) :
    signature.dataParams = .ok params ↔ signature.Takes params := by
  unfold dataParams Takes
  -- As `params` has no cancellation, the last parameter tells the two ways to take them apart.
  split
  next last =>
    obtain ⟨front, split⟩ := List.getLast?_eq_some_iff.mp last
    rw [split, List.dropLast_concat]
    have longer : front ++ [.cancellation] ≠ params := by
      rintro rfl
      exact plain (List.mem_append_right _ (List.mem_singleton_self _))
    cases signature.asynchronous <;> simp [longer]
  next last =>
    have shorter : signature.params ≠ params ++ [.cancellation] := by
      intro split
      exact last (split ▸ List.getLast?_concat)
    simp [shorter]

theorem bind_eq_ok_iff {ε α β : Type} {first : Except ε α} {next : α → Except ε β} {result : β} :
    first >>= next = .ok result ↔ ∃ value, first = .ok value ∧ next value = .ok result := by
  cases first <;> simp [bind, Except.bind]

theorem shape_eq_ok_iff {shape : Shape} : signature.shape = .ok shape ↔ signature.Declares shape := by
  simp only [Signature.shape, bind_eq_ok_iff]
  constructor
  · rintro ⟨params, data, input, accepted, output, given, made⟩
    obtain rfl := Except.ok.inj made
    obtain rfl := inputShape_eq_ok_iff.mp accepted
    exact ⟨(dataParams_eq_ok_iff input.cancellation_notMem_params).mp data,
      outputShape_eq_ok_iff.mp given, rfl⟩
  · intro declares
    refine ⟨shape.input.params, ?_, shape.input, inputShape_eq_ok_iff.mpr rfl, shape.output,
      outputShape_eq_ok_iff.mpr declares.returns, ?_⟩
    · exact (dataParams_eq_ok_iff shape.input.cancellation_notMem_params).mpr declares.takes
    · rw [declares.asynchronous]
      rfl

section Classification
variable {function : String}

theorem classify_eq_ok_iff {shape : Shape} :
    signature.classify function = .ok shape ↔ signature.Declares shape := by
  rw [← shape_eq_ok_iff, classify]
  cases signature.shape <;> simp [Except.mapError]

/-- A signature without a shape is refused in the name of the function. -/
theorem classify_cases :
    (∃ shape, signature.classify function = .ok shape) ∨
      ∃ reason, signature.classify function = .error (.unsupportedShape function reason) := by
  rw [classify]
  cases signature.shape with
  | ok shape => exact .inl ⟨shape, rfl⟩
  | error reason => exact .inr ⟨reason, rfl⟩

theorem exists_classify_iff :
    (∃ shape, signature.classify function = .ok shape) ↔
      (∀ typeName, signature.returns ≠ .other typeName) ∧
        ∃ params ∈ [[], [.input], [.context], [.input, .context]], signature.Takes params := by
  simp only [classify_eq_ok_iff]
  constructor
  · rintro ⟨⟨input, output, asynchronous⟩, takes, returns, -⟩
    refine ⟨fun typeName other => ?_, input.params, ?_, takes⟩
    · cases output <;> cases returns.symm.trans other
    · cases input <;> simp [InputShape.params]
  · rintro ⟨known, params, closed, takes⟩
    obtain ⟨input, rfl⟩ : ∃ input : InputShape, params = input.params := by
      simp only [List.mem_cons, List.not_mem_nil, or_false] at closed
      rcases closed with rfl | rfl | rfl | rfl
      · exact ⟨.nothing, rfl⟩
      · exact ⟨.text, rfl⟩
      · exact ⟨.context, rfl⟩
      · exact ⟨.textAndContext, rfl⟩
    obtain ⟨output, returns⟩ : ∃ output : OutputShape, signature.returns = output.returns := by
      cases given : signature.returns with
      | nothing => exact ⟨.nothing, rfl⟩
      | text => exact ⟨.text, rfl⟩
      | context => exact ⟨.context, rfl⟩
      | other typeName => exact absurd given (known typeName)
    exact ⟨⟨input, output, signature.asynchronous⟩, takes, returns, rfl⟩

end Classification

/-- A cancellation in the last place makes no difference to an asynchronous signature. -/
theorem Declares.append_cancellation {shape : Shape} (declares : signature.Declares shape)
    (asynchronous : signature.asynchronous = true) (plain : .cancellation ∉ signature.params) :
    Declares { signature with params := signature.params ++ [.cancellation] } shape := by
  refine ⟨.inr ⟨asynchronous, ?_⟩, declares.returns, declares.asynchronous⟩
  rcases declares.takes with params | ⟨-, params⟩
  · rw [params]
  · rw [params] at plain
    exact absurd (List.mem_append_right _ (List.mem_singleton_self _)) plain

/-- In a signature with a shape a cancellation has nothing after it. -/
theorem Declares.cancellation_last {shape : Shape} (declares : signature.Declares shape)
    {front rest : List ParamKind} (split : signature.params = front ++ .cancellation :: rest) :
    rest = [] := by
  by_contra more
  have dropped : .cancellation ∈ signature.params.dropLast := by
    rw [split, List.dropLast_append_of_ne_nil (List.cons_ne_nil _ _), List.dropLast_cons_of_ne_nil more]
    exact List.mem_append_right _ (List.mem_cons_self ..)
  refine shape.input.cancellation_notMem_params ?_
  rcases declares.takes with params | ⟨-, params⟩
  · exact params ▸ List.dropLast_subset _ dropped
  · rwa [params, List.dropLast_concat] at dropped

theorem Declares.count_cancellation_le {shape : Shape} (declares : signature.Declares shape) :
    signature.params.count .cancellation ≤ 1 := by
  have none := List.count_eq_zero_of_not_mem shape.input.cancellation_notMem_params
  rcases declares.takes with params | ⟨-, params⟩
  · rw [params, none]
    exact Nat.zero_le 1
  · rw [params, List.count_append, none]
    decide

end Signature

end TaintTracking
