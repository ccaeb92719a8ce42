import TaintTracking.Data.Basic

/-!
What a user can ask of the program, and the ways in which the arguments fail to ask for anything.
-/

namespace TaintTracking.CommandLine

/-- The commands that the arguments may name, and the program as a whole. -/
inductive Topic where
  | program
  | checkConfig
  | list
  | run
  | help
  deriving DecidableEq, Repr

namespace Topic

def commands : List Topic := [.checkConfig, .list, .run, .help]

def name : Topic → String
  | .program => "trustflow"
  | .checkConfig => "check-config"
  | .list => "list"
  | .run => "run"
  | .help => "help"

def ofName? (name : String) : Option Topic := commands.find? (·.name = name)

end Topic

structure RunOptions where
  untrusted : Bool
  timeout : Option Nat
  input : String
  steps : List String
  deriving DecidableEq, Repr

/-- Where no configuration file is named, the default one is meant. -/
inductive Command where
  | checkConfig (path : String)
  | list (config : Option String)
  | run (config : Option String) (options : RunOptions)
  deriving DecidableEq, Repr

inductive UsageError where
  | unexpectedArgument (argument : String)
  | unexpectedValue (option : String)
  | missingValue (option : String)
  | invalidValue (option value : String)
  | repeated (option : String)
  | unknownCommand (name : String)
  | missingCommand
  | missingArguments (topic : Topic)
  deriving DecidableEq, Repr

namespace UsageError

def message : UsageError → String
  | .unexpectedArgument argument => "unexpected argument '" ++ argument ++ "' found"
  | .unexpectedValue option => "unexpected value for '" ++ option ++ "' found"
  | .missingValue option => "a value is required for '" ++ option ++ "' but none was supplied"
  | .invalidValue option value => "invalid value '" ++ value ++ "' for '" ++ option ++ "'"
  | .repeated option => "the argument '" ++ option ++ "' cannot be used multiple times"
  | .unknownCommand name => "unrecognized subcommand '" ++ name ++ "'"
  | .missingCommand => "a subcommand is required but one was not provided"
  | .missingArguments _ => "the required arguments were not provided"

end UsageError

inductive Request where
  | help (topic : Topic)
  | version
  | execute (command : Command)
  | misuse (error : UsageError)
  deriving DecidableEq, Repr

end TaintTracking.CommandLine
