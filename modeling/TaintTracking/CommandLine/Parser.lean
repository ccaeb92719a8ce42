import TaintTracking.CommandLine.Argument

/-!
From arguments to a request. The arguments are taken in their order, so that the first of them that
asks for help or is wrong decides. What is missing shows only at the end.
-/

namespace TaintTracking.CommandLine

def refuse {α : Type} (error : UsageError) : Except Request α := .error (.misuse error)

/-- A configuration may be named once, by a path that is not empty. -/
def addConfig (config : Option String) (path : String) : Except Request String :=
  if config.isSome then refuse (.repeated "--config")
  else if path.isEmpty then refuse (.invalidValue "--config" path)
  else .ok path

/-- The arguments of one command, as far as they have been taken. -/
structure Given where
  config : Option String
  untrusted : Bool
  timeout : Option Nat
  words : List String
  deriving DecidableEq, Repr

namespace Given

def nothing : Given := ⟨none, false, none, []⟩

/-- Takes an argument or ends with a request. -/
abbrev Taken := Except Request Given

def takeConfig (given : Given) (path : String) : Taken := do
  return { given with config := some (← addConfig given.config path) }

def takeUntrusted (given : Given) : Taken :=
  if given.untrusted then refuse (.repeated "--untrusted")
  else .ok { given with untrusted := true }

def takeTimeout (given : Given) (ms : Nat) : Taken :=
  if given.timeout.isSome then refuse (.repeated "--timeout-ms")
  else .ok { given with timeout := some ms }

/-- The one word of a configuration check is a path; a run takes any number of words. -/
def takeWord (given : Given) (topic : Topic) (text : String) : Taken :=
  match topic, given.words with
  | .run, words => .ok { given with words := words ++ [text] }
  | .checkConfig, [] =>
    if text.isEmpty then refuse (.missingValue "<PATH>") else .ok { given with words := [text] }
  | _, _ => refuse (.unexpectedArgument text)

def take (topic : Topic) (given : Given) : Argument → Taken
  | .word text => given.takeWord topic text
  | .escape => .ok given
  | .help => .error (.help topic)
  | .version => refuse (.unexpectedArgument "--version")
  | .untrusted =>
    if topic = .run then given.takeUntrusted else refuse (.unexpectedArgument "--untrusted")
  | .config path _ => given.takeConfig path
  | .timeout ms =>
    if topic = .run then given.takeTimeout ms else refuse (.unexpectedArgument "--timeout-ms")
  | .faulty error => refuse error

/-- The command that was given, with the configuration named before it unless it has its own. -/
def command? (given : Given) (topic : Topic) (config : Option String) : Option Command :=
  let config := given.config <|> config
  match topic, given.words with
  | .checkConfig, [path] => some (.checkConfig path)
  | .list, [] => some (.list config)
  | .run, input :: step :: steps =>
    some (.run config ⟨given.untrusted, given.timeout, input, step :: steps⟩)
  | _, _ => none

end Given

namespace Request

def ofCommand (topic : Topic) (config : Option String) (arguments : List Argument) : Request :=
  match arguments.foldlM (Given.take topic) .nothing with
  | .error request => request
  | .ok given =>
    match given.command? topic config with
    | some command => .execute command
    | none => .misuse (.missingArguments topic)

/-- Help on the program or on the command of which the name follows. -/
def ofHelp : List Argument → Request
  | [] => .help .program
  | [.word name] =>
    match Topic.ofName? name with
    | some topic => .help topic
    | none => .misuse (.unknownCommand name)
  | _ => .misuse (.unexpectedArgument "help")

def ofNamed (config : Option String) (name : String) (arguments : List Argument) : Request :=
  match Topic.ofName? name with
  | none => .misuse (.unknownCommand name)
  | some .help => ofHelp arguments
  | some topic => ofCommand topic config arguments

/-- What becomes of a request before which something is wrong: help is given all the same. -/
def unlessHelp (request wrong : Request) : Request :=
  match request with
  | .help topic => .help topic
  | _ => wrong

/-- Before the name of the command stands at most a configuration. A path in an argument of its own
that is followed by the name is looked at after the command. -/
def ofArguments (config : Option String) : List Argument → Request
  | [] => .misuse .missingCommand
  | .word name :: arguments => ofNamed config name arguments
  | .config path .separate :: .word name :: arguments =>
    match addConfig config path with
    | .ok path => ofNamed (some path) name arguments
    | .error wrong => unlessHelp (ofNamed config name arguments) wrong
  | .config path _ :: arguments =>
    match addConfig config path with
    | .ok path => ofArguments (some path) arguments
    | .error wrong => wrong
  | .help :: _ => .help .program
  | .version :: _ => .version
  | .escape :: _ => .misuse .missingCommand
  | .untrusted :: _ => .misuse (.unexpectedArgument "--untrusted")
  | .timeout _ :: _ => .misuse (.unexpectedArgument "--timeout-ms")
  | .faulty error :: _ => .misuse error

def ofTexts (texts : List String) : Request := ofArguments none (Argument.ofTexts texts)

end Request

end TaintTracking.CommandLine
