import TaintTracking.Proofs.Program.Output

/-!
When the force flag counts. Main statement: the output of a native function is let in under the flag as it was
when the function was invoked, and that of a semantic function under the flag as the backend has left it;
what the callables have set stays set.
-/

namespace TaintTracking

namespace SkillFunction

/-- The callables of the function have all succeeded: `verdict` is the last word of the policy, and `left` is
the session as the callables have left it. -/
inductive Finishes (caller : Context) (token : TokenId) (s : Session) :
    SkillFunction → Bool → Session → Prop
  | native {guard : Guard} {shape : Shape}
      {code : shape.input.Argument → Program shape.output shape.input.contexts}
      {verdict : Bool} {output : shape.output.Result} {asked left : Session}
      (inPlace : shape.output ≠ .context)
      (consent : guard.consult caller s = (.ok verdict, asked))
      (body : runBody guard shape code caller token verdict asked = (.ok output, left)) :
      Finishes caller token s (.native guard shape code) verdict left
  | semantic {guard : Guard} {renderer : Program .text 1} {backend : String → Program .text 0}
      {first second : Bool} {rendered prompt completion : String} {asked drawn again left : Session}
      (consent : guard.consult caller s = (.ok first, asked))
      (render : runRenderer guard renderer caller asked = (.ok rendered, drawn))
      (tag : guard.consultRendered caller rendered drawn = (.ok ⟨prompt, second⟩, again))
      (backendRun : runBackend guard backend caller token ⟨prompt, second⟩ again =
        (.ok completion, left)) :
      Finishes caller token s (.semantic guard renderer backend) second left

/-- The session whose force flag counts, of those before and after the callables. -/
def flagSession : SkillFunction → Session → Session → Session
  | .native _ _ _, start, _ => start
  | .semantic _ _ _, _, left => left

theorem invoke_of_finishes {function : SkillFunction} {caller : Context} {token : TokenId}
    {s left : Session} {verdict : Bool} (finishes : function.Finishes caller token s verdict left) :
    ∃ output : function.outputShape.Result, function.outputShape ≠ .context ∧
      let forced := function.guard.forcesUntrusted (function.flagSession s left)
      function.invoke caller token s =
        function.outputShape.settle caller (verdict && !forced)
          (function.guard.complete function.outputShape verdict forced left) output := by
  cases finishes with
  | @native guard shape code verdict output asked left inPlace consent body =>
    refine ⟨output, inPlace, ?_⟩
    rw [invoke_of_body consent body, Guard.forcesUntrusted_of_consult consent]
    rfl
  | @semantic guard renderer backend first second rendered prompt completion asked drawn again left
      consent render tag backendRun =>
    refine ⟨completion, (by decide : OutputShape.text ≠ .context), ?_⟩
    exact (Exit.backendDone consent render tag backendRun).invoke_eq

/-- The trust of the main variable under the force flag, and the flags after the invocation. -/
theorem invoke_flag {function : SkillFunction} {caller : Context} {token : TokenId} {s left : Session}
    {verdict : Bool} (finishes : function.Finishes caller token s verdict left) :
    ((function.invoke caller token s).2.storeOf caller).main.trusted =
        ((left.storeOf caller).main.trusted && verdict &&
          !function.guard.forcesUntrusted (function.flagSession s left)) ∧
      (function.invoke caller token s).2.forced = left.forced := by
  obtain ⟨output, inPlace, out⟩ := invoke_of_finishes finishes
  dsimp only at out
  rw [out]
  refine ⟨?_, OutputShape.settle_forced ..⟩
  rw [OutputShape.settle_main_trusted _ _ _ inPlace, Bool.and_assoc]
  rfl

def answerGuard : Guard := ⟨Descriptor.new "desk" "answer", 8, .contextual true⟩

def ask : Program .text 1 := @Program.done .text 1 "ask"

/-- A backend during whose run the force flag of its function is set. -/
def flipAndAnswer (_ : String) : Program .text 0 :=
  .act (.setForce 8 true) fun _ => @Program.done .text 0 "answer"

/-- The flag that is set while the backend runs counts at once, and stays. -/
theorem invoke_flag_flipAndAnswer :
    let s := (Session.empty.newContext (Store.ofMain (TaintedValue.ofText "mail"))).2
    let caller := Context.new 0 0
    let function := semantic answerGuard ask flipAndAnswer
    ∃ left, function.Finishes caller 7 s true left ∧ (left.storeOf caller).main.trusted = true ∧
      ((function.invoke caller 7 s).2.storeOf caller).main.trusted = false ∧
        answerGuard.forcesUntrusted (function.invoke caller 7 s).2 = true := by
  intro s caller function
  have finishes : function.Finishes caller 7 s true _ := .semantic rfl rfl rfl rfl
  obtain ⟨trusted, forced⟩ := invoke_flag finishes
  refine ⟨_, finishes, rfl, trusted, ?_⟩
  rw [Guard.forcesUntrusted, forced]
  rfl

/-- A semantic function does not go by the flag as it was when the function was invoked. -/
theorem flag_not_as_invoked :
    ¬∀ (function : SkillFunction) (caller : Context) (token : TokenId) (s left : Session)
      (verdict : Bool), function.Finishes caller token s verdict left →
        ((function.invoke caller token s).2.storeOf caller).main.trusted =
          ((left.storeOf caller).main.trusted && verdict && !function.guard.forcesUntrusted s) := by
  intro asInvoked
  let s := (Session.empty.newContext (Store.ofMain (TaintedValue.ofText "mail"))).2
  have finishes : (semantic answerGuard ask flipAndAnswer).Finishes (Context.new 0 0) 7 s true _ :=
    .semantic rfl rfl rfl rfl
  have kept := asInvoked _ _ _ _ _ _ finishes
  have lost : (((semantic answerGuard ask flipAndAnswer).invoke (Context.new 0 0) 7 s).2.storeOf
      (Context.new 0 0)).main.trusted = false := rfl
  rw [lost] at kept
  cases kept

end SkillFunction

end TaintTracking
