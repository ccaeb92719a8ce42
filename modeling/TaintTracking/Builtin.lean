import TaintTracking.Program.Run
import TaintTracking.Text.Blank
import TaintTracking.TrustConfig

/-!
The functions that come with the program, all in the skill `builtin`.
-/

namespace TaintTracking

inductive Builtin where
  | upper
  | lower
  | trim
  | echo
  | publish
  | fetch
  | reset
  deriving DecidableEq, Repr

namespace Builtin

def skill : String := "builtin"

/-- The variable that `echo` writes. -/
def echoName : String := "echo"

/-- How long `fetch` takes, in milliseconds. -/
def fetchLatency : Nat := 10

def all : List Builtin := [.upper, .lower, .trim, .echo, .publish, .fetch, .reset]

def name : Builtin → String
  | .upper => "upper"
  | .lower => "lower"
  | .trim => "trim"
  | .echo => "echo"
  | .publish => "publish"
  | .fetch => "fetch"
  | .reset => "reset"

def ofName? (name : String) : Option Builtin := all.find? (·.name = name)

def description : Builtin → String
  | .upper => "Uppercase the input"
  | .lower => "Lowercase the input"
  | .trim => "Trim surrounding whitespace"
  | .echo => "Copy the input into the echo variable"
  | .publish => "Publish the input to an external audience"
  | .fetch => "Fetch remote content for the input"
  | .reset => "Replace the context with a fresh, trusted one"

def inputParameter : ParameterView where
  name := mainName
  description := "Main input"
  defaultValue := none

/-- Publishing is sensitive, and what is fetched is never trusted. -/
def descriptor (builtin : Builtin) : Descriptor where
  skill
  function := builtin.name
  description := builtin.description
  isSensitive := builtin = .publish
  isSemantic := false
  forceOutputUntrusted := builtin = .fetch
  parameters := if builtin = .reset then [] else [inputParameter]

def echoCode (input : String) : Program .nothing 1 :=
  let context := Fin.last 0
  .act (.observe context) fun snapshot =>
    .act (.edit context (.setValue echoName ⟨input, snapshot.store.main.trusted⟩)) fun _ => .done ()

def publishCode (input : String) : Program .nothing 0 :=
  .act (.log (.published input.utf8ByteSize)) fun _ => .done ()

def fetchCode (input : String) : Program .text 0 :=
  .act (.sleep fetchLatency) fun _ => .done ("fetched: " ++ input)

def resetCode : Program .context 0 :=
  .introduce (.fresh Store.new) (@Program.done .context 1 (Fin.last 0))

def body : Builtin → NativeBody
  | .upper => ⟨⟨.text, .text, false⟩, fun input => .done (Text.uppercase input)⟩
  | .lower => ⟨⟨.text, .text, false⟩, fun input => .done (Text.lowercase input)⟩
  | .trim => ⟨⟨.text, .text, false⟩, fun input => .done (Text.trim input)⟩
  | .echo => ⟨⟨.textAndContext, .nothing, false⟩, echoCode⟩
  | .publish => ⟨⟨.text, .nothing, false⟩, publishCode⟩
  | .fetch => ⟨⟨.text, .text, true⟩, fetchCode⟩
  | .reset => ⟨⟨.nothing, .context, false⟩, fun _ => resetCode⟩

/-- The function under a trust configuration, with a force flag of its own. -/
def function (builtin : Builtin) (trust : TrustConfig) (flag : FlagId) : SkillFunction :=
  .ofBody ⟨trust.applyOverrides builtin.descriptor, flag, .contextual trust.defaultTrusted⟩
    builtin.body

def lookup (name : String) (trust : TrustConfig) (flag : FlagId) : Option SkillFunction :=
  (ofName? name).map (·.function trust flag)

/-- The functions of several names, with force flags from `flag` on, or the first unknown name. -/
def lookupAll (trust : TrustConfig) (flag : FlagId) : List String → Except String (List SkillFunction)
  | [] => .ok []
  | name :: names =>
    match lookup name trust flag with
    | none => .error name
    | some function => (lookupAll trust (flag + 1) names).map (function :: ·)

/-- Reports each rule that applies to the function. -/
def logOverrides (builtin : Builtin) (trust : TrustConfig) (s : Session) : Session :=
  (trust.rulesFor builtin.descriptor).foldl
    (fun s _ => s.log (.appliedOverride skill builtin.name)) s

end Builtin

end TaintTracking
