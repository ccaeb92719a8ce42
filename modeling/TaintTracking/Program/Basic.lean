import TaintTracking.Policy

/-!
The functions that pipelines invoke and the programs that their callables run. A program has a number
of contexts in scope, which it can only use by their position: it reads and writes variables,
invokes other functions, takes time, and ends with an output or a failure. A function is native, with
one body, or semantic, with a renderer for the prompt and a backend that completes it.
-/

namespace TaintTracking

/-- What a body is given beside its context. -/
@[reducible] def InputShape.Argument : InputShape → Type
  | .text => String
  | .textAndContext => String
  | .nothing => Unit
  | .context => Unit

/-- How many contexts a body is given. -/
@[reducible] def InputShape.contexts : InputShape → Nat
  | .context => 1
  | .textAndContext => 1
  | .nothing => 0
  | .text => 0

/-- What a program with `n` contexts in scope gives for an output shape. -/
@[reducible] def OutputShape.Value : OutputShape → Nat → Type
  | .nothing, _ => Unit
  | .text, _ => String
  | .context, n => Fin n

/-- The output that leaves the program. -/
@[reducible] def OutputShape.Result : OutputShape → Type
  | .nothing => Unit
  | .text => String
  | .context => Context

/-- `cancel` is about the token that the callable was given, `cancelHeld` about one that it holds from
elsewhere. -/
inductive Action (n : Nat) where
  | observe (context : Fin n)
  | edit (context : Fin n) (change : Store.Edit)
  | fail (context : Fin n) (error : InvocationError)
  | clearError (context : Fin n)
  | note (text : String)
  | log (entry : Log.Entry)
  | sleep (ms : Nat)
  | cancel
  | cancelHeld (token : TokenId)
  | checkCancelled
  | setForce (flag : FlagId) (force : Bool)

/-- What a program learns from an action. -/
@[reducible] def Action.Answer {n : Nat} : Action n → Type
  | .observe _ => Snapshot
  | .checkCancelled => Option Bool
  | _ => Unit

/-- Where a new context in scope comes from. -/
inductive Origin (n : Nat) where
  | fresh (store : Store)
  | share (context : Fin n)
  | clone (context : Fin n)

/-- What guards a function: who it is, its force flag, and the policy that is consulted. -/
structure Guard where
  descriptor : Descriptor
  flag : FlagId
  policy : Policy

mutual

inductive SkillFunction where
  | native (guard : Guard) (shape : Shape)
      (code : shape.input.Argument → Program shape.output shape.input.contexts)
  | semantic (guard : Guard) (renderer : Program .text 1) (backend : String → Program .text 0)

/-- `invoke` runs a function on a share of a context in scope and brings the context that the
function returns into scope. -/
inductive Program : OutputShape → Nat → Type where
  | done {output : OutputShape} {n : Nat} (value : output.Value n) : Program output n
  | fail {output : OutputShape} {n : Nat} (cause : Cause) : Program output n
  | act {output : OutputShape} {n : Nat} (action : Action n)
      (next : action.Answer → Program output n) : Program output n
  | introduce {output : OutputShape} {n : Nat} (origin : Origin n)
      (next : Program output (n + 1)) : Program output n
  | invoke {output : OutputShape} {n : Nat} (context : Fin n) (function : SkillFunction)
      (next : Program output (n + 1)) : Program output n

end

/-- A native callable on its own: a shape and the code for it. -/
structure NativeBody where
  shape : Shape
  code : shape.input.Argument → Program shape.output shape.input.contexts

namespace Guard

/-- Whether outputs are untrusted whatever the policy says. -/
def forcesUntrusted (guard : Guard) (s : Session) : Bool :=
  (s.forced guard.flag).getD guard.descriptor.forceOutputUntrusted

/-- The descriptor with the force flag as it now is. -/
def currentDescriptor (guard : Guard) (s : Session) : Descriptor :=
  { guard.descriptor with forceOutputUntrusted := guard.forcesUntrusted s }

/-- The policy sees the force flag as it is when it is consulted. -/
def consult (guard : Guard) (context : Context) (s : Session) : Except TrustError Bool × Session :=
  guard.policy.consult (guard.currentDescriptor s) context s

def consultRendered (guard : Guard) (context : Context) (rendered : String) (s : Session) :
    Except TrustError TaintedValue × Session :=
  guard.policy.consultRendered (guard.currentDescriptor s) context rendered s

end Guard

namespace NativeBody

def inspect (body : NativeBody) : String :=
  "NativeFn \x7b shape: " ++ body.shape.inspect ++ " \x7d"

end NativeBody

namespace SkillFunction

def guard : SkillFunction → Guard
  | .native guard _ _ => guard
  | .semantic guard _ _ => guard

def descriptor (function : SkillFunction) : Descriptor := function.guard.descriptor

def describe (function : SkillFunction) (s : Session) : FunctionView :=
  (function.guard.currentDescriptor s).describe

def setForce (function : SkillFunction) (force : Bool) (s : Session) : Session :=
  s.setForce function.guard.flag force

/-- A native function is not semantic, whatever its descriptor says. -/
def ofBody (guard : Guard) (body : NativeBody) : SkillFunction :=
  .native { guard with descriptor := { guard.descriptor with isSemantic := false } }
    body.shape body.code

def ofPrompt (guard : Guard) (renderer : Program .text 1) (backend : String → Program .text 0) :
    SkillFunction :=
  .semantic { guard with descriptor := { guard.descriptor with isSemantic := true } }
    renderer backend

/-- Binds a body to the signature it was declared with. -/
def bind (guard : Guard) (signature : Signature) (body : NativeBody) :
    Except BindingError SkillFunction := do
  let declared ← signature.classify guard.descriptor.qualifiedName
  if declared = body.shape then return ofBody guard body
  else throw (.shapeMismatch guard.descriptor.qualifiedName declared body.shape)

def inspect : SkillFunction → String
  | .native guard shape _ =>
    "NativeFunction \x7b function: " ++ Text.quoted guard.descriptor.qualifiedName
      ++ ", shape: " ++ shape.inspect ++ ", policy: " ++ guard.policy.inspect ++ " \x7d"
  | .semantic guard _ _ =>
    "SemanticFunction \x7b function: " ++ Text.quoted guard.descriptor.qualifiedName
      ++ ", policy: " ++ guard.policy.inspect ++ ", .. \x7d"

end SkillFunction

end TaintTracking
