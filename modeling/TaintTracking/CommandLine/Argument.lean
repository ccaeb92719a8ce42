import TaintTracking.CommandLine.Request
import TaintTracking.Text.Count
import TaintTracking.Text.Split

/-!
Arguments one by one: words, and options with their values. An option's value stands in the same
argument after an equals sign, or in the next one unless that looks like an option itself. After two
hyphens alone, all arguments are words.
-/

namespace TaintTracking.CommandLine

/-- The options that have a value. -/
inductive Setting where
  | config
  | timeout
  deriving DecidableEq, Repr

/-- Where the value of an option stands: in the argument of the option or in the next one. -/
inductive Placement where
  | attached
  | separate
  deriving DecidableEq, Repr

inductive Argument where
  | word (text : String)
  | escape
  | help
  | version
  | untrusted
  | config (path : String) (placement : Placement)
  | timeout (ms : Nat)
  | faulty (error : UsageError)
  deriving DecidableEq, Repr

namespace Setting

def name : Setting → String
  | .config => "--config"
  | .timeout => "--timeout-ms"

def ofName? (name : String) : Option Setting := [config, timeout].find? (·.name = name)

/-- A time is a count that a document could hold. -/
def argument (setting : Setting) (value : String) (placement : Placement) : Argument :=
  match setting with
  | .config => .config value placement
  | .timeout =>
    match (Text.count? value).filter (· ≤ Number.maxCount) with
    | some ms => .timeout ms
    | none => .faulty (.invalidValue setting.name value)

end Setting

namespace Argument

def flags : List (String × Argument) :=
  [("--help", .help), ("--version", .version), ("--untrusted", .untrusted)]

/-- Some argument that begins with one hyphen; its first letter decides. -/
def ofLetters (text : String) (letters : List Char) : Argument :=
  match letters.head? with
  | some 'h' => .help
  | some 'V' => .version
  | _ => .faulty (.unexpectedArgument text)

def ofFlag (name : String) : Argument :=
  (flags.lookup name).getD (.faulty (.unexpectedArgument name))

def ofAttached (name value : String) : Argument :=
  match Setting.ofName? name with
  | some setting => setting.argument value .attached
  | none =>
    if (flags.lookup name).isSome then .faulty (.unexpectedValue name)
    else .faulty (.unexpectedArgument name)

/-- A hyphen alone is an ordinary word. -/
def looksLikeOption (text : String) : Bool :=
  match text.toList with
  | '-' :: _ :: _ => true
  | _ => false

def isLong (text : String) : Bool :=
  match text.toList with
  | '-' :: '-' :: _ => true
  | _ => false

/-- A faulty argument may be the last one, since nothing after it is looked at. -/
def ofTexts : List String → List Argument
  | [] => []
  | "--" :: rest => .escape :: rest.map .word
  | text :: rest =>
    if !looksLikeOption text then .word text :: ofTexts rest
    else if !isLong text then ofLetters text text.toList.tail :: ofTexts rest
    else
      match Text.cut '=' text with
      | (name, some value) => ofAttached name value :: ofTexts rest
      | (name, none) =>
        match Setting.ofName? name, rest with
        | none, rest => ofFlag name :: ofTexts rest
        | some setting, [] => [.faulty (.missingValue setting.name)]
        | some setting, value :: rest =>
          if looksLikeOption value then [.faulty (.missingValue setting.name)]
          else setting.argument value .separate :: ofTexts rest

end Argument

end TaintTracking.CommandLine
