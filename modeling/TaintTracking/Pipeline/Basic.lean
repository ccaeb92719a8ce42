import TaintTracking.Config.Basic
import TaintTracking.Program.Run

/-!
A pipeline is a bounded list of functions that run one after another on a context. The run ends at
the first error, and before a step if the token is cancelled by then.
-/

namespace TaintTracking

structure Pipeline where
  steps : List SkillFunction
  maxSteps : Nat

namespace Pipeline

def new (config : PipelineConfig) : Pipeline := ⟨[], config.maxSteps⟩

def ofSteps (steps : List SkillFunction) (config : PipelineConfig) : Except PipelineError Pipeline :=
  if steps.length > config.maxSteps then .error (.tooManySteps steps.length config.maxSteps)
  else .ok ⟨steps, config.maxSteps⟩

/-- One more, up to the greatest count. -/
def saturatingSucc (n : Nat) : Nat := min (n + 1) Number.maxCount

def push (pipeline : Pipeline) (step : SkillFunction) : Except PipelineError Pipeline :=
  if pipeline.steps.length ≥ pipeline.maxSteps then
    .error (.tooManySteps (saturatingSucc pipeline.steps.length) pipeline.maxSteps)
  else .ok { pipeline with steps := pipeline.steps ++ [step] }

def size (pipeline : Pipeline) : Nat := pipeline.steps.length

def isEmpty (pipeline : Pipeline) : Bool := pipeline.steps.isEmpty

def inspect (pipeline : Pipeline) : String :=
  let names := pipeline.steps.map fun step => Text.quoted step.descriptor.qualifiedName
  "Pipeline \x7b steps: [" ++ ", ".intercalate names ++ "], max_steps: "
    ++ toString pipeline.maxSteps ++ " \x7d"

def logStep (index : Nat) (step : SkillFunction) (s : Session) : Session :=
  s.log (.runningStep index step.descriptor.skill step.descriptor.function)

def logFailure (index : Nat) (context : Context) (s : Session) : Session :=
  s.log (.stepFailed index context.isTrustViolation context.description)

def logFinish (steps : Nat) (context : Context) (s : Session) : Session :=
  s.log (.runFinished steps (s.isTrusted context))

/-- Runs steps that have `index` others before them. -/
def runFrom (token : TokenId) (index : Nat) :
    List SkillFunction → Context → Session → Context × Session
  | [], context, s => (context, logFinish index context s)
  | step :: steps, context, s =>
    if s.isCancelled token then (context.fail (.cancelled index), s.log (.runCancelled index))
    else
      match step.invoke context token (logStep index step s) with
      | (context, s) =>
        if context.hasError then (context, logFailure index context s)
        else runFrom token (index + 1) steps context s

/-- An error of an earlier run is forgotten. -/
def runSteps (steps : List SkillFunction) (context : Context) (token : TokenId) (s : Session) :
    Context × Session :=
  runFrom token 0 steps context.clearError s

def run (pipeline : Pipeline) (context : Context) (token : TokenId) (s : Session) :
    Context × Session :=
  runSteps pipeline.steps context token s

def runInput (pipeline : Pipeline) (input : TaintedValue) (token : TokenId) (s : Session) :
    Context × Session :=
  let (context, s) := s.newContext (Store.ofMain input)
  pipeline.run context token s

/-- Cancels the token after a time, unless the run is over by then. -/
def withTimeout (delay : Option Nat) (token : TokenId) (run : Session → Context × Session)
    (s : Session) : Context × Session :=
  match delay with
  | none => run s
  | some delay =>
    let (context, s) := run (s.setAlarm token delay)
    (context, s.clearAlarm)

end Pipeline

end TaintTracking
