import TaintTracking.Builtin
import TaintTracking.Config.Load
import TaintTracking.Log.Entry

/-!
What a command leaves behind: the text that it prints or the reason why it fails, and the log.
-/

namespace TaintTracking.CommandLine

inductive CommandError where
  | checkedConfig (path : String) (error : Config.LoadError)
  | namedConfig (path : String)
  | defaultConfig
  | logDirectory (path : String) (fault : PathFault)
  | unwritableLog (directory : String)
  | brokenFilter
  | unknownFunction (name : String)
  | pipeline (error : PipelineError)
  deriving DecidableEq, Repr

namespace CommandError

def message : CommandError → String
  | .checkedConfig path .unreadable => "failed to read config at " ++ path
  | .checkedConfig path .unparsable => "failed to parse config at " ++ path
  | .namedConfig path => "failed to load " ++ path
  | .defaultConfig => "failed to load default config"
  | .logDirectory path fault => "failed to create logs directory " ++ path ++ ": " ++ fault.message
  | .unwritableLog directory => "failed to begin a log in " ++ directory
  | .brokenFilter => "a directive of the log filter would be cut within a character"
  | .unknownFunction name =>
    "unknown function '" ++ name ++ "', expected one of: "
      ++ ", ".intercalate (Builtin.all.map Builtin.name)
  | .pipeline error => error.message

/-- Where nothing can be logged the program stops on the spot. -/
def exitCode : CommandError → Nat
  | .unwritableLog _ => 101
  | .brokenFilter => 101
  | _ => 1

end CommandError

/-- A log is kept only where there is a directory for it. -/
structure LogFile where
  directory : String
  entries : List Log.Entry
  deriving DecidableEq, Repr

structure Outcome where
  result : Except CommandError String
  log : Option LogFile

namespace Outcome

def printed (text : String) : Outcome := ⟨.ok text, none⟩

def failed (error : CommandError) : Outcome := ⟨.error error, none⟩

end Outcome

end TaintTracking.CommandLine
