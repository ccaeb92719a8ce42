import TaintTracking.Data.Basic

/-!
What a run reports to its log: the entries, and the level, target, message and fields of each.
-/

namespace TaintTracking.Log

inductive Level where
  | trace
  | debug
  | info
  | warn
  | error
  deriving DecidableEq, Repr

/-- How much a log shows that keeps entries of this level and of all more severe ones. -/
def Level.verbosity : Level → Nat
  | .error => 1
  | .warn => 2
  | .info => 3
  | .debug => 4
  | .trace => 5

def Level.label : Level → String
  | .trace => "TRACE"
  | .debug => "DEBUG"
  | .info => "INFO"
  | .warn => "WARN"
  | .error => "ERROR"

inductive Entry where
  | startingRun (steps : Nat) (untrusted : Bool)
  | cancellingRun (delay : Nat)
  | appliedOverride (skill function : String)
  | blockedSensitive (skill function : String)
  | invokingNative (skill function : String) (verdict : Bool)
  | nativeFailed (skill function error : String)
  | promptRendered (skill function : String) (trusted : Bool)
  | semanticFailed (skill function error : String)
  | runningStep (step : Nat) (skill function : String)
  | stepFailed (step : Nat) (trustViolation : Bool) (error : String)
  | runCancelled (step : Nat)
  | runFinished (steps : Nat) (trusted : Bool)
  | published (bytes : Nat)
  deriving DecidableEq, Repr

namespace Entry

def level : Entry → Level
  | .startingRun .. => .info
  | .cancellingRun .. => .debug
  | .appliedOverride .. => .debug
  | .blockedSensitive .. => .warn
  | .invokingNative .. => .debug
  | .nativeFailed .. => .warn
  | .promptRendered .. => .debug
  | .semanticFailed .. => .warn
  | .runningStep .. => .info
  | .stepFailed .. => .warn
  | .runCancelled .. => .warn
  | .runFinished .. => .info
  | .published .. => .info

/-- The part of the program that an entry comes from, as log filters name it. -/
def target : Entry → String
  | .startingRun .. => "trustflow"
  | .cancellingRun .. => "trustflow"
  | .appliedOverride .. => "trustflow::trust"
  | .blockedSensitive .. => "trustflow::trust"
  | .invokingNative .. => "trustflow::function::native"
  | .nativeFailed .. => "trustflow::function::native"
  | .promptRendered .. => "trustflow::function::semantic"
  | .semanticFailed .. => "trustflow::function::semantic"
  | .runningStep .. => "trustflow::pipeline"
  | .stepFailed .. => "trustflow::pipeline"
  | .runCancelled .. => "trustflow::pipeline"
  | .runFinished .. => "trustflow::pipeline"
  | .published .. => "trustflow::builtin"

def message : Entry → String
  | .startingRun .. => "starting run"
  | .cancellingRun .. => "cancelling run"
  | .appliedOverride .. => "applied trust override"
  | .blockedSensitive .. => "blocked sensitive function on untrusted content"
  | .invokingNative .. => "invoking native function"
  | .nativeFailed .. => "native function failed"
  | .promptRendered .. => "prompt rendered"
  | .semanticFailed .. => "semantic function failed"
  | .runningStep .. => "running pipeline step"
  | .stepFailed .. => "pipeline step failed"
  | .runCancelled .. => "pipeline cancelled"
  | .runFinished .. => "pipeline finished"
  | .published .. => "published"

def functionFields (skill function : String) : List (String × Data) :=
  [("skill", .ofText skill), ("function", .ofText function)]

/-- The fields beside the message. -/
def details : Entry → List (String × Data)
  | .startingRun steps untrusted => [("steps", .ofCount steps), ("untrusted", .flag untrusted)]
  | .cancellingRun delay => [("timeout_ms", .ofCount delay)]
  | .appliedOverride skill function => functionFields skill function
  | .blockedSensitive skill function => functionFields skill function
  | .invokingNative skill function verdict =>
    functionFields skill function ++ [("verdict", .flag verdict)]
  | .nativeFailed skill function error =>
    functionFields skill function ++ [("error", .ofText error)]
  | .promptRendered skill function trusted =>
    functionFields skill function ++ [("trusted", .flag trusted)]
  | .semanticFailed skill function error =>
    functionFields skill function ++ [("error", .ofText error)]
  | .runningStep step skill function => ("step", .ofCount step) :: functionFields skill function
  | .stepFailed step trustViolation error =>
    [("step", .ofCount step), ("trust_violation", .flag trustViolation), ("error", .ofText error)]
  | .runCancelled step => [("step", .ofCount step)]
  | .runFinished steps trusted => [("steps", .ofCount steps), ("trusted", .flag trusted)]
  | .published bytes => [("bytes", .ofCount bytes)]

def fields (entry : Entry) : List (String × Data) :=
  ("message", .ofText entry.message) :: entry.details

/-- Whether an entry names the run that it belongs to. -/
def namesRun : Entry → Bool
  | .blockedSensitive .. => true
  | .invokingNative .. => true
  | .nativeFailed .. => true
  | .promptRendered .. => true
  | .runningStep .. => true
  | .stepFailed .. => true
  | .runCancelled .. => true
  | .runFinished .. => true
  | _ => false

/-- The names of all fields of an entry, of which a log leaves out the name of the run. -/
def fieldNames (entry : Entry) : List String :=
  entry.fields.map (·.1) ++ if entry.namesRun then ["run_id"] else []

/-- The entry as a line of a log says it. -/
def toData (entry : Entry) : Data :=
  .ofMembers [("level", .ofText entry.level.label), ("fields", .ofMembers entry.fields),
    ("target", .ofText entry.target)]

end Entry

end TaintTracking.Log
