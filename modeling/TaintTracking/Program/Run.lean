import TaintTracking.Program.Basic

/-!
Running programs and invoking functions. An invocation consults the policy, runs the callables and
lets their output into the caller's context: the main variable is never more trusted than the
callable left it, and a replacement context is taken as it is. On failure only the error is
recorded.
-/

namespace TaintTracking

abbrev Scope (n : Nat) := Fin n → Context

namespace Scope

def ofContext (context : Context) {n : Nat} : Scope n := fun _ => context

/-- The new context has the last position. -/
def push {n : Nat} (scope : Scope n) (context : Context) : Scope (n + 1) :=
  fun i => if h : i.val < n then scope ⟨i.val, h⟩ else context

def set {n : Nat} (scope : Scope n) (position : Fin n) (context : Context) : Scope n :=
  fun i => if i = position then context else scope i

end Scope

/-- Without a token, `cancel` does nothing and `checkCancelled` learns nothing. -/
def Action.perform {n : Nat} (scope : Scope n) (token : Option TokenId) (s : Session) :
    (action : Action n) → action.Answer × Scope n × Session
  | .observe context => (s.view (scope context), scope, s)
  | .edit context change => ((), scope, s.edit (scope context) change)
  | .fail context error => ((), scope.set context ((scope context).fail error), s)
  | .clearError context => ((), scope.set context (scope context).clearError, s)
  | .note text => ((), scope, s.record (.noted text))
  | .log entry => ((), scope, s.log entry)
  | .sleep ms => ((), scope, s.sleep ms)
  | .cancel => ((), scope, (token.map s.cancel).getD s)
  | .cancelHeld token => ((), scope, s.cancel token)
  | .checkCancelled => (token.map s.isCancelled, scope, s)
  | .setForce flag force => ((), scope, s.setForce flag force)

def Origin.create {n : Nat} (scope : Scope n) (s : Session) : Origin n → Context × Session
  | .fresh store => s.newContext store
  | .share context => ((scope context).share, s)
  | .clone context => s.cloneContext (scope context)

def InputShape.argument (text : String) : (shape : InputShape) → shape.Argument
  | .text => text
  | .textAndContext => text
  | .nothing => ()
  | .context => ()

def OutputShape.result {n : Nat} (scope : Scope n) :
    (shape : OutputShape) → shape.Value n → shape.Result
  | .nothing, _ => ()
  | .text, content => content
  | .context, position => scope position

/-- The given token, or a new one where there is none. -/
def Session.tokenOrNew (s : Session) : Option TokenId → TokenId × Session
  | some token => (token, s)
  | none => s.newToken

/-- An asynchronous callable is given a share of the context and the token. -/
def Shape.given (shape : Shape) (caller : Context) : Context :=
  if shape.asynchronous then caller.share else caller

def Shape.token (shape : Shape) (token : TokenId) : Option TokenId :=
  if shape.asynchronous then some token else none

/-- Lets the output of a native body into the caller's context. -/
def OutputShape.settle (caller : Context) (trusted : Bool) (s : Session) :
    (shape : OutputShape) → shape.Result → Context × Session
  | .nothing, _ => (caller, if trusted then s else s.edit caller .untrustMain)
  | .text, content => (caller, s.edit caller (.updateMainPreservingTrust content trusted))
  | .context, replacement => (replacement, s)

namespace Guard

def failure (guard : Guard) (cause : Cause) : InvocationError :=
  .failed guard.descriptor.skill guard.descriptor.function cause

def enter (guard : Guard) (role : Role) (caller : Context) (s : Session) : Session :=
  s.record (.entered role guard.descriptor (s.storeOf caller))

def complete (guard : Guard) (output : OutputShape) (verdict forced : Bool) (s : Session) : Session :=
  s.record (.completed guard.descriptor output verdict forced)

def logInvoking (guard : Guard) (verdict : Bool) (s : Session) : Session :=
  s.log (.invokingNative guard.descriptor.skill guard.descriptor.function verdict)

def logRendered (guard : Guard) (prompt : TaintedValue) (s : Session) : Session :=
  s.log (.promptRendered guard.descriptor.skill guard.descriptor.function prompt.trusted)

def logNativeFailed (guard : Guard) (cause : Cause) (s : Session) : Session :=
  s.log (.nativeFailed guard.descriptor.skill guard.descriptor.function cause.outermost)

def logSemanticFailed (guard : Guard) (cause : Cause) (s : Session) : Session :=
  s.log (.semanticFailed guard.descriptor.skill guard.descriptor.function cause.outermost)

end Guard

mutual

/-- The force flag of a native function is read before its body runs, that of a semantic function
after its backend. -/
def SkillFunction.invoke : SkillFunction → Context → TokenId → Session → Context × Session
  | .native guard shape code, caller, token, s =>
    match guard.consult caller s with
    | (.error error, s) => (caller.fail (.untrusted error), s)
    | (.ok verdict, s) =>
      let forced := guard.forcesUntrusted s
      let argument := shape.input.argument (s.storeOf caller).main.content
      let scope := Scope.ofContext (shape.given caller)
      match (code argument).run scope (shape.token token)
          (guard.enter .body caller (guard.logInvoking verdict s)) with
      | (.ok output, s) =>
        shape.output.settle caller (verdict && !forced)
          (guard.complete shape.output verdict forced s) output
      | (.error cause, s) => (caller.fail (guard.failure cause), guard.logNativeFailed cause s)
  | .semantic guard renderer backend, caller, token, s =>
    match guard.consult caller s with
    | (.error error, s) => (caller.fail (.untrusted error), s)
    | (.ok _, s) =>
      match renderer.run (Scope.ofContext caller) none (guard.enter .renderer caller s) with
      | (.error cause, s) => (caller.fail (guard.failure cause), guard.logSemanticFailed cause s)
      | (.ok rendered, s) =>
        match guard.consultRendered caller rendered s with
        | (.error error, s) => (caller.fail (.untrusted error), s)
        | (.ok prompt, s) =>
          match (backend prompt.content).run (Scope.ofContext caller) (some token)
              (guard.enter .backend caller (guard.logRendered prompt s)) with
          | (.error cause, s) =>
            (caller.fail (guard.failure cause), guard.logSemanticFailed cause s)
          | (.ok completion, s) =>
            let forced := guard.forcesUntrusted s
            OutputShape.text.settle caller (prompt.trusted && !forced)
              (guard.complete .text prompt.trusted forced s) completion

def Program.run : {output : OutputShape} → {n : Nat} → Program output n → Scope n →
    Option TokenId → Session → Except Cause output.Result × Session
  | output, _, .done value, scope, _, s => (.ok (output.result scope value), s)
  | _, _, .fail cause, _, _, s => (.error cause, s)
  | _, _, .act action next, scope, token, s =>
    match action.perform scope token s with
    | (answer, scope, s) => (next answer).run scope token s
  | _, _, .introduce origin next, scope, token, s =>
    match origin.create scope s with
    | (context, s) => next.run (scope.push context) token s
  | _, _, .invoke context function next, scope, token, s =>
    match s.tokenOrNew token with
    | (inner, s) =>
      match function.invoke (scope context).share inner s with
      | (returned, s) => next.run (scope.push returned) token s

end

namespace SkillFunction

/-- Invokes a function on a new run with a trusted input. -/
def invokeText (function : SkillFunction) (input : String) (token : TokenId) (s : Session) :
    Context × Session :=
  let (context, s) := s.newContext (Store.ofMain (TaintedValue.ofText input))
  function.invoke context token s

end SkillFunction

end TaintTracking
