import TaintTracking.CommandLine.Host
import TaintTracking.CommandLine.Outcome
import TaintTracking.CommandLine.Request
import TaintTracking.Json.Printer
import TaintTracking.Log.Filter
import TaintTracking.Pipeline.Report
import TaintTracking.Pipeline.Basic
import TaintTracking.Wire.Encode

/-!
Carrying out a command on a host. All that the program answers is computed from what the host answers.
-/

namespace TaintTracking.CommandLine

namespace Command

def printedLine (data : Data) : String := Json.pretty data ++ "\n"

/-! Configurations. -/

/-- The settings of a configuration that bear on trust. -/
def configSummary (config : Config) : Data :=
  .ofMembers [("default_trusted", .flag config.trust.defaultTrusted),
    ("log_level", .ofText config.logging.level), ("max_steps", .ofCount config.pipeline.maxSteps),
    ("overrides", .list (config.trust.functions.map FunctionOverride.toData))]

def checkedConfig (path : String) (state : FileState) : Outcome :=
  match Config.load state with
  | .ok config => .printed (printedLine (configSummary config))
  | .error error => .failed (.checkedConfig path error)

/-- The named configuration, or the default one. -/
def resolveConfig {m : Type → Type} [Monad m] (host : Host m) (path : Option String) :
    m (Except CommandError Config) :=
  match path with
  | some path =>
    return (Config.load (← host.fileState path)).mapError fun _ => .namedConfig path
  | none =>
    return (Config.loadDefault (← host.fileState host.defaultPath)).mapError fun _ => .defaultConfig

/-! Listing. -/

def listing (config : Config) : String :=
  let view (builtin : Builtin) := (config.trust.applyOverrides builtin.descriptor).describe.toData
  printedLine (.list (Builtin.all.map view))

/-! Running. -/

/-- Looks the functions up by name until one is unknown; the rules that apply are logged. -/
def lookupSteps (trust : TrustConfig) :
    List String → Session → Except CommandError (List SkillFunction) × Session
  | [], s => (.ok [], s)
  | name :: names, s =>
    match Builtin.ofName? name with
    | none => (.error (.unknownFunction name), s)
    | some builtin =>
      let (flag, s) := (builtin.logOverrides trust s).issue
      let (functions, s) := lookupSteps trust names s
      (functions.map (builtin.function trust flag :: ·), s)

/-- Runs the pipeline under its time limit and prints the report under the name of the run. -/
def reported (pipeline : Pipeline) (options : RunOptions) (runName : String) (s : Session) :
    String × Session :=
  let (token, s) := s.newToken
  let s := s.log (.startingRun pipeline.size options.untrusted)
  let (context, s) :=
    Pipeline.withTimeout options.timeout token
      (pipeline.runInput ⟨options.input, !options.untrusted⟩ token) s
  (printedLine ((RunReport.ofContext context s).toData runName), s)

def runSteps (config : Config) (options : RunOptions) (runName : String) (s : Session) :
    Except CommandError String × Session :=
  match lookupSteps config.trust options.steps s with
  | (.error error, s) => (.error error, s)
  | (.ok steps, s) =>
    match Pipeline.ofSteps steps config.pipeline with
    | .error error => (.error (.pipeline error), s)
    | .ok pipeline =>
      let (text, s) := reported pipeline options runName s
      (.ok text, s)

/-- The entries of the trail that the filter keeps, in the order in which they were made. -/
def keptEntries (filter : Log.Filter) (s : Session) : List Log.Entry :=
  s.trail.reverse.filterMap fun event =>
    match event with
    | .logged entry => if filter.keeps entry then some entry else none
    | _ => none

def runOutcome (config : Config) (filter : Log.Filter) (options : RunOptions) (runName : String) :
    Outcome :=
  let (result, s) := runSteps config options runName Session.empty
  ⟨result, config.logging.dir.map fun directory => ⟨directory, keptEntries filter s⟩⟩

/-- What a broken filter leaves of a run: a log without entries. -/
def brokenOutcome (config : Config) : Outcome :=
  ⟨.error .brokenFilter, config.logging.dir.map fun directory => ⟨directory, []⟩⟩

/-- Prepares a directory for the log, or tells why that fails. -/
def prepareLog {m : Type → Type} [Monad m] (host : Host m) (directory : String) :
    m (Option CommandError) := do
  match ← host.makeDirectory directory with
  | some fault => return some (.logDirectory directory fault)
  | none => return if ← host.beginLog directory then none else some (.unwritableLog directory)

/-- The log is prepared before the filter is read, and that before anything runs. -/
def runLogged {m : Type → Type} [Monad m] (host : Host m) (config : Config) (options : RunOptions) :
    m Outcome := do
  if let some directory := config.logging.dir then
    if let some error ← prepareLog host directory then return .failed error
  match Log.Filter.ofText? config.logging.level with
  | none => return brokenOutcome config
  | some filter => return runOutcome config filter options (← host.newRunName)

/-- Nothing is logged here, but the filter has to be readable. -/
def listed (config : Config) : Outcome :=
  match Log.Filter.ofText? config.logging.level with
  | none => .failed .brokenFilter
  | some _ => .printed (listing config)

def execute {m : Type → Type} [Monad m] (host : Host m) : Command → m Outcome
  | .checkConfig path => return checkedConfig path (← host.fileState path)
  | .list config => do
    match ← resolveConfig host config with
    | .error error => return .failed error
    | .ok config => return listed config
  | .run config options => do
    match ← resolveConfig host config with
    | .error error => return .failed error
    | .ok config => runLogged host config options

end Command

end TaintTracking.CommandLine
