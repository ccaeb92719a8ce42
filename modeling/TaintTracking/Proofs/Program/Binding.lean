import TaintTracking.Program.Constructor
import TaintTracking.Proofs.Signature

/-!
Bodies under the signatures that they were declared with. Main statement: a signature of the closed set binds
to the bodies of its shape and to no others, and these are what one of the twenty-four constructors makes.
-/

namespace TaintTracking

namespace NativeBody.Constructor

/-- The constructor for bodies of a shape. -/
def ofShape (shape : Shape) : Constructor :=
  match shape.asynchronous, shape.output, shape.input with
  | false, .nothing, .nothing => .syncNothingToNothing
  | false, .nothing, .text => .syncTextToNothing
  | false, .nothing, .context => .syncContextToNothing
  | false, .nothing, .textAndContext => .syncTextAndContextToNothing
  | false, .text, .nothing => .syncNothingToText
  | false, .text, .text => .syncTextToText
  | false, .text, .context => .syncContextToText
  | false, .text, .textAndContext => .syncTextAndContextToText
  | false, .context, .nothing => .syncNothingToContext
  | false, .context, .text => .syncTextToContext
  | false, .context, .context => .syncContextToContext
  | false, .context, .textAndContext => .syncTextAndContextToContext
  | true, .nothing, .nothing => .asyncNothingToNothing
  | true, .nothing, .text => .asyncTextToNothing
  | true, .nothing, .context => .asyncContextToNothing
  | true, .nothing, .textAndContext => .asyncTextAndContextToNothing
  | true, .text, .nothing => .asyncNothingToText
  | true, .text, .text => .asyncTextToText
  | true, .text, .context => .asyncContextToText
  | true, .text, .textAndContext => .asyncTextAndContextToText
  | true, .context, .nothing => .asyncNothingToContext
  | true, .context, .text => .asyncTextToContext
  | true, .context, .context => .asyncContextToContext
  | true, .context, .textAndContext => .asyncTextAndContextToContext

@[simp] theorem shape_ofShape (shape : Shape) : (ofShape shape).shape = shape := by
  obtain ⟨input, output, asynchronous⟩ := shape
  cases input <;> cases output <;> cases asynchronous <;> rfl

@[simp] theorem ofShape_shape (constructor : Constructor) : ofShape constructor.shape = constructor := by
  cases constructor <;> rfl

theorem shape_injective : Function.Injective shape :=
  Function.LeftInverse.injective ofShape_shape

/-- Every body is what one constructor makes, and no other. -/
theorem existsUnique_make (body : NativeBody) :
    ∃! constructor : Constructor, ∃ code, constructor.make code = body := by
  obtain ⟨shape, code⟩ := body
  obtain ⟨constructor, rfl⟩ : ∃ constructor : Constructor, constructor.shape = shape :=
    ⟨ofShape shape, shape_ofShape shape⟩
  refine ⟨constructor, ⟨code, rfl⟩, ?_⟩
  rintro other ⟨otherCode, same⟩
  exact shape_injective (congrArg NativeBody.shape same)

end NativeBody.Constructor

namespace SkillFunction
variable {guard : Guard} {signature : Signature} {body : NativeBody}

theorem bind_of_classify {declared : Shape}
    (classified : signature.classify guard.descriptor.qualifiedName = .ok declared) :
    bind guard signature body =
      if declared = body.shape then .ok (ofBody guard body)
      else .error (.shapeMismatch guard.descriptor.qualifiedName declared body.shape) := by
  rw [bind, classified]
  rfl

theorem bind_of_unclassified {error : BindingError}
    (refused : signature.classify guard.descriptor.qualifiedName = .error error) :
    bind guard signature body = .error error := by
  rw [bind, refused]
  rfl

theorem bind_eq_ok_iff {function : SkillFunction} :
    bind guard signature body = .ok function ↔
      signature.classify guard.descriptor.qualifiedName = .ok body.shape ∧
        function = ofBody guard body := by
  cases classified : signature.classify guard.descriptor.qualifiedName with
  | ok declared =>
    rw [bind_of_classify classified]
    by_cases same : declared = body.shape
    · simp [same, eq_comm]
    · simp [same]
  | error error => simp [bind_of_unclassified classified]

/-- Binding fails for want of a shape as classification does. -/
theorem bind_eq_unsupported_iff {function : String} {reason : UnsupportedShape} :
    bind guard signature body = .error (.unsupportedShape function reason) ↔
      signature.classify guard.descriptor.qualifiedName = .error (.unsupportedShape function reason) := by
  cases classified : signature.classify guard.descriptor.qualifiedName with
  | ok declared =>
    rw [bind_of_classify classified]
    split <;> simp
  | error error =>
    rw [bind_of_unclassified classified]
    simp

theorem exists_bind_unsupported_iff :
    (∃ function reason, bind guard signature body = .error (.unsupportedShape function reason)) ↔
      ¬∃ shape, signature.classify guard.descriptor.qualifiedName = .ok shape := by
  simp only [bind_eq_unsupported_iff]
  constructor
  · rintro ⟨function, reason, refused⟩ ⟨shape, accepted⟩
    cases refused.symm.trans accepted
  · intro unclassified
    obtain ⟨reason, refused⟩ := Signature.classify_cases.resolve_left unclassified
    exact ⟨_, reason, refused⟩

theorem bind_eq_mismatch_iff {function : String} {declared actual : Shape} :
    bind guard signature body = .error (.shapeMismatch function declared actual) ↔
      function = guard.descriptor.qualifiedName ∧ actual = body.shape ∧
        signature.classify guard.descriptor.qualifiedName = .ok declared ∧ declared ≠ body.shape := by
  rcases @Signature.classify_cases signature guard.descriptor.qualifiedName with
    ⟨shape, classified⟩ | ⟨reason, refused⟩
  · rw [bind_of_classify classified, classified]
    by_cases same : shape = body.shape
    · rw [if_pos same]
      constructor
      · intro mismatch
        cases mismatch
      · rintro ⟨-, -, declares, differs⟩
        exact absurd (Except.ok.inj declares ▸ same) differs
    · rw [if_neg same]
      constructor
      · intro mismatch
        cases mismatch
        exact ⟨rfl, rfl, rfl, same⟩
      · rintro ⟨rfl, rfl, declares, -⟩
        cases declares
        rfl
  · rw [bind_of_unclassified refused, refused]
    simp

/-- The bodies of one constructor bind, whatever their code, and those of no other. -/
theorem binds_ofShape {shape : Shape}
    (accepted : signature.classify guard.descriptor.qualifiedName = .ok shape) :
    (∀ code, ∃ function,
      bind guard signature ((NativeBody.Constructor.ofShape shape).make code) = .ok function) ∧
    ∀ (other : NativeBody.Constructor) code function,
      bind guard signature (other.make code) = .ok function → other = .ofShape shape := by
  refine ⟨fun code => ⟨_, bind_eq_ok_iff.mpr ⟨?_, rfl⟩⟩, fun other code function binds => ?_⟩
  · rw [NativeBody.Constructor.shape_make, NativeBody.Constructor.shape_ofShape, accepted]
  · have classified := (bind_eq_ok_iff.mp binds).1
    rw [NativeBody.Constructor.shape_make, accepted] at classified
    rw [Except.ok.inj classified, NativeBody.Constructor.ofShape_shape]

end SkillFunction

/-- A signature has a shape exactly if it returns one of the known kinds and takes the parameters of the
closed set, with a cancellation after them at most if it is asynchronous. The shape is the declared one, so a
cancellation in the last place does not change it, and one elsewhere or a second one is refused. Binding
succeeds exactly for bodies of that shape, fails for want of a shape exactly if there is none, and else
for the two shapes that differ. A signature with a shape is one for the bodies of exactly one constructor,
and every body is what one constructor makes, and no other. -/
theorem Signature.closed_shapes (signature : Signature) (guard : Guard) :
    let name := guard.descriptor.qualifiedName
    (∀ function, (∃ shape, signature.classify function = .ok shape) ↔
      (∀ typeName, signature.returns ≠ .other typeName) ∧
        ∃ params ∈ [[], [.input], [.context], [.input, .context]],
          signature.params = params ∨
            signature.asynchronous = true ∧ signature.params = params ++ [.cancellation]) ∧
    (∀ function shape, signature.classify function = .ok shape ↔
      (signature.params = shape.input.params ∨
        signature.asynchronous = true ∧ signature.params = shape.input.params ++ [.cancellation]) ∧
      signature.returns = shape.output.returns ∧ signature.asynchronous = shape.asynchronous) ∧
    (∀ function shape, signature.classify function = .ok shape → signature.asynchronous = true →
      .cancellation ∉ signature.params →
      classify { signature with params := signature.params ++ [.cancellation] } function = .ok shape) ∧
    (∀ function, (2 ≤ signature.params.count .cancellation ∨
        ∃ front rest, signature.params = front ++ .cancellation :: rest ∧ rest ≠ []) →
      ∃ reason, signature.classify function = .error (.unsupportedShape function reason)) ∧
    (∀ body, (∃ function, SkillFunction.bind guard signature body = .ok function) ↔
      signature.classify name = .ok body.shape) ∧
    (∀ body, (∃ function reason, SkillFunction.bind guard signature body =
        .error (.unsupportedShape function reason)) ↔
      ¬∃ shape, signature.classify name = .ok shape) ∧
    (∀ body function declared actual, SkillFunction.bind guard signature body =
        .error (.shapeMismatch function declared actual) ↔
      function = name ∧ actual = body.shape ∧ signature.classify name = .ok declared ∧
        declared ≠ body.shape) ∧
    ((∃ shape, signature.classify name = .ok shape) →
      ∃ constructor : NativeBody.Constructor,
        (∀ code, ∃ function, SkillFunction.bind guard signature (constructor.make code) = .ok function) ∧
        ∀ (other : NativeBody.Constructor) code function,
          SkillFunction.bind guard signature (other.make code) = .ok function → other = constructor) ∧
    ∀ body, ∃! constructor : NativeBody.Constructor, ∃ code, constructor.make code = body := by
  intro name
  refine ⟨fun function => exists_classify_iff, fun function shape => ?_,
    fun function shape accepted asynchronous plain => ?_, fun function odd => ?_, fun body => ?_,
    fun body => SkillFunction.exists_bind_unsupported_iff,
    fun body function declared actual => SkillFunction.bind_eq_mismatch_iff,
    fun ⟨shape, accepted⟩ => ⟨.ofShape shape, SkillFunction.binds_ofShape accepted⟩,
    NativeBody.Constructor.existsUnique_make⟩
  · rw [classify_eq_ok_iff]
    exact ⟨fun declares => ⟨declares.takes, declares.returns, declares.asynchronous⟩,
      fun ⟨takes, returns, asynchronous⟩ => ⟨takes, returns, asynchronous⟩⟩
  · rw [classify_eq_ok_iff] at accepted ⊢
    exact accepted.append_cancellation asynchronous plain
  · refine classify_cases.resolve_left ?_
    rintro ⟨shape, accepted⟩
    rw [classify_eq_ok_iff] at accepted
    rcases odd with twice | ⟨front, rest, split, more⟩
    · exact absurd accepted.count_cancellation_le (Nat.not_le.mpr twice)
    · exact more (accepted.cancellation_last split)
  · simp only [SkillFunction.bind_eq_ok_iff, exists_and_left, exists_eq, and_true]
    exact Iff.rfl

end TaintTracking
