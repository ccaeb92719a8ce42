import TaintTracking.Proofs.Program.Action

/-!
The ways an invocation can go. A native function is denied, fails in its body or lets the output in.
A semantic function is denied, fails to render, is denied on the prompt, fails in its backend or lets
the completion in. Whatever is shown of invocations is shown of each way once.
-/

namespace TaintTracking

namespace SkillFunction

/-- The form in which a function gives its output. -/
def outputShape : SkillFunction → OutputShape
  | .native _ shape _ => shape.output
  | .semantic _ _ _ => .text

/-- The body of a native function on what its caller holds, entered after the policy agreed. -/
def runBody (guard : Guard) (shape : Shape)
    (code : shape.input.Argument → Program shape.output shape.input.contexts) (caller : Context)
    (token : TokenId) (verdict : Bool) (s : Session) :
    Except Cause shape.output.Result × Session :=
  (code (shape.input.argument (s.storeOf caller).main.content)).run
    (Scope.ofContext (shape.given caller)) (shape.token token)
    (guard.enter .body caller (guard.logInvoking verdict s))

def runRenderer (guard : Guard) (renderer : Program .text 1) (caller : Context) (s : Session) :
    Except Cause String × Session :=
  renderer.run (Scope.ofContext caller) none (guard.enter .renderer caller s)

def runBackend (guard : Guard) (backend : String → Program .text 0) (caller : Context)
    (token : TokenId) (prompt : TaintedValue) (s : Session) : Except Cause String × Session :=
  (backend prompt.content).run (Scope.ofContext caller) (some token)
    (guard.enter .backend caller (guard.logRendered prompt s))

theorem invoke_native (guard : Guard) (shape : Shape)
    (code : shape.input.Argument → Program shape.output shape.input.contexts) (caller : Context)
    (token : TokenId) (s : Session) :
    (native guard shape code).invoke caller token s =
      match guard.consult caller s with
      | (.error error, s) => (caller.fail (.untrusted error), s)
      | (.ok verdict, s) =>
        match runBody guard shape code caller token verdict s with
        | (.ok output, t) =>
          shape.output.settle caller (verdict && !guard.forcesUntrusted s)
            (guard.complete shape.output verdict (guard.forcesUntrusted s) t) output
        | (.error cause, t) => (caller.fail (guard.failure cause), guard.logNativeFailed cause t) := by
  rw [invoke]
  rfl

theorem invoke_semantic (guard : Guard) (renderer : Program .text 1)
    (backend : String → Program .text 0) (caller : Context) (token : TokenId) (s : Session) :
    (semantic guard renderer backend).invoke caller token s =
      match guard.consult caller s with
      | (.error error, s) => (caller.fail (.untrusted error), s)
      | (.ok _, s) =>
        match runRenderer guard renderer caller s with
        | (.error cause, s) => (caller.fail (guard.failure cause), guard.logSemanticFailed cause s)
        | (.ok rendered, s) =>
          match guard.consultRendered caller rendered s with
          | (.error error, s) => (caller.fail (.untrusted error), s)
          | (.ok prompt, s) =>
            match runBackend guard backend caller token prompt s with
            | (.error cause, s) => (caller.fail (guard.failure cause), guard.logSemanticFailed cause s)
            | (.ok completion, s) =>
              OutputShape.text.settle caller (prompt.trusted && !guard.forcesUntrusted s)
                (guard.complete .text prompt.trusted (guard.forcesUntrusted s) s) completion := by
  rw [invoke]
  rfl

/-- How an invocation ended, with the sessions on the way: after the first consultation, after the
body or the renderer, after the second consultation, after the backend. -/
inductive Exit (caller : Context) (token : TokenId) (s : Session) :
    SkillFunction → Context × Session → Prop
  | denied {function : SkillFunction} {error : TrustError} {s₁ : Session}
      (denial : function.guard.consult caller s = (.error error, s₁)) :
      Exit caller token s function (caller.fail (.untrusted error), s₁)
  | bodyFailed {guard : Guard} {shape : Shape}
      {code : shape.input.Argument → Program shape.output shape.input.contexts}
      {verdict : Bool} {cause : Cause} {s₁ s₂ : Session}
      (consent : guard.consult caller s = (.ok verdict, s₁))
      (body : runBody guard shape code caller token verdict s₁ = (.error cause, s₂)) :
      Exit caller token s (.native guard shape code)
        (caller.fail (guard.failure cause), guard.logNativeFailed cause s₂)
  | bodyDone {guard : Guard} {shape : Shape}
      {code : shape.input.Argument → Program shape.output shape.input.contexts}
      {verdict : Bool} {output : shape.output.Result} {s₁ s₂ : Session}
      (consent : guard.consult caller s = (.ok verdict, s₁))
      (body : runBody guard shape code caller token verdict s₁ = (.ok output, s₂)) :
      Exit caller token s (.native guard shape code)
        (shape.output.settle caller (verdict && !guard.forcesUntrusted s₁)
          (guard.complete shape.output verdict (guard.forcesUntrusted s₁) s₂) output)
  | renderFailed {guard : Guard} {renderer : Program .text 1} {backend : String → Program .text 0}
      {verdict : Bool} {cause : Cause} {s₁ s₂ : Session}
      (consent : guard.consult caller s = (.ok verdict, s₁))
      (render : runRenderer guard renderer caller s₁ = (.error cause, s₂)) :
      Exit caller token s (.semantic guard renderer backend)
        (caller.fail (guard.failure cause), guard.logSemanticFailed cause s₂)
  | promptDenied {guard : Guard} {renderer : Program .text 1} {backend : String → Program .text 0}
      {verdict : Bool} {rendered : String} {error : TrustError} {s₁ s₂ s₃ : Session}
      (consent : guard.consult caller s = (.ok verdict, s₁))
      (render : runRenderer guard renderer caller s₁ = (.ok rendered, s₂))
      (denial : guard.consultRendered caller rendered s₂ = (.error error, s₃)) :
      Exit caller token s (.semantic guard renderer backend) (caller.fail (.untrusted error), s₃)
  | backendFailed {guard : Guard} {renderer : Program .text 1} {backend : String → Program .text 0}
      {verdict : Bool} {rendered : String} {prompt : TaintedValue} {cause : Cause}
      {s₁ s₂ s₃ s₄ : Session}
      (consent : guard.consult caller s = (.ok verdict, s₁))
      (render : runRenderer guard renderer caller s₁ = (.ok rendered, s₂))
      (tag : guard.consultRendered caller rendered s₂ = (.ok prompt, s₃))
      (backendRun : runBackend guard backend caller token prompt s₃ = (.error cause, s₄)) :
      Exit caller token s (.semantic guard renderer backend)
        (caller.fail (guard.failure cause), guard.logSemanticFailed cause s₄)
  | backendDone {guard : Guard} {renderer : Program .text 1} {backend : String → Program .text 0}
      {verdict : Bool} {rendered completion : String} {prompt : TaintedValue}
      {s₁ s₂ s₃ s₄ : Session}
      (consent : guard.consult caller s = (.ok verdict, s₁))
      (render : runRenderer guard renderer caller s₁ = (.ok rendered, s₂))
      (tag : guard.consultRendered caller rendered s₂ = (.ok prompt, s₃))
      (backendRun : runBackend guard backend caller token prompt s₃ = (.ok completion, s₄)) :
      Exit caller token s (.semantic guard renderer backend)
        (OutputShape.text.settle caller (prompt.trusted && !guard.forcesUntrusted s₄)
          (guard.complete .text prompt.trusted (guard.forcesUntrusted s₄) s₄) completion)

theorem invoke_exit (function : SkillFunction) (caller : Context) (token : TokenId) (s : Session) :
    Exit caller token s function (function.invoke caller token s) := by
  cases function with
  | native guard shape code =>
    rw [SkillFunction.invoke]
    split
    next denial => exact .denied denial
    next consent =>
      dsimp only
      split
      next body => exact .bodyDone consent body
      next body => exact .bodyFailed consent body
  | semantic guard renderer backend =>
    rw [SkillFunction.invoke]
    split
    next denial => exact .denied denial
    next consent =>
      split
      next render => exact .renderFailed consent render
      next render =>
        split
        next denial => exact .promptDenied consent render denial
        next tag =>
          split
          next backendRun => exact .backendFailed consent render tag backendRun
          next backendRun => exact .backendDone consent render tag backendRun

/-- The stages that went as in one of these ways decide what the invocation gives. -/
theorem Exit.invoke_eq {function : SkillFunction} {caller : Context} {token : TokenId} {s : Session}
    {out : Context × Session} (exit : Exit caller token s function out) :
    function.invoke caller token s = out := by
  cases exit with
  | denied denial =>
    cases function with
    | native guard shape code => rw [invoke_native, show guard.consult caller s = _ from denial]
    | semantic guard renderer backend =>
      rw [invoke_semantic, show guard.consult caller s = _ from denial]
  | bodyFailed consent body => simp only [invoke_native, consent, body]
  | bodyDone consent body => simp only [invoke_native, consent, body]
  | renderFailed consent render => simp only [invoke_semantic, consent, render]
  | promptDenied consent render denial => simp only [invoke_semantic, consent, render, denial]
  | backendFailed consent render tag backendRun =>
    simp only [invoke_semantic, consent, render, tag, backendRun]
  | backendDone consent render tag backendRun =>
    simp only [invoke_semantic, consent, render, tag, backendRun]

/-- A native function whose policy agrees and whose body succeeds lets the output in. -/
theorem invoke_of_body {guard : Guard} {shape : Shape}
    {code : shape.input.Argument → Program shape.output shape.input.contexts} {caller : Context}
    {token : TokenId} {verdict : Bool} {output : shape.output.Result} {s s₁ s₂ : Session}
    (consent : guard.consult caller s = (.ok verdict, s₁))
    (body : runBody guard shape code caller token verdict s₁ = (.ok output, s₂)) :
    (native guard shape code).invoke caller token s =
      shape.output.settle caller (verdict && !guard.forcesUntrusted s₁)
        (guard.complete shape.output verdict (guard.forcesUntrusted s₁) s₂) output :=
  (Exit.bodyDone consent body).invoke_eq

/-- Unless the context is replaced, the caller gets a handle on the store it came with. -/
theorem invoke_store {function : SkillFunction} (inPlace : function.outputShape ≠ .context)
    (caller : Context) (token : TokenId) (s : Session) :
    (function.invoke caller token s).1.store = caller.store := by
  have exit := function.invoke_exit caller token s
  generalize function.invoke caller token s = out at exit ⊢
  cases exit with
  | bodyDone consent body =>
    exact congrArg Context.store (OutputShape.settle_context caller _ _ inPlace _)
  | _ => rfl

theorem invoke_run {function : SkillFunction} (inPlace : function.outputShape ≠ .context)
    (caller : Context) (token : TokenId) (s : Session) :
    (function.invoke caller token s).1.run = caller.run := by
  have exit := function.invoke_exit caller token s
  generalize function.invoke caller token s = out at exit ⊢
  cases exit with
  | bodyDone consent body =>
    exact congrArg Context.run (OutputShape.settle_context caller _ _ inPlace _)
  | _ => rfl

end SkillFunction

end TaintTracking
