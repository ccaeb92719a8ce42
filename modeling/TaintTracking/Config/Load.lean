import TaintTracking.Config.Basic
import TaintTracking.Path
import TaintTracking.Toml.Parser

/-!
Loading a configuration from what stands at a path, and what can go wrong.
-/

namespace TaintTracking.Config

inductive LoadError where
  | unreadable
  | unparsable
  deriving DecidableEq, Repr

def ofText? (text : String) : Option Config := do
  Config.read .lenient (← Toml.parse text)

def load : FileState → Except LoadError Config
  | .absent => .error .unreadable
  | .directory => .error .unreadable
  | .file bytes =>
    match String.fromUTF8? bytes with
    | none => .error .unreadable
    | some text => (ofText? text).elim (.error .unparsable) .ok

/-- Where nothing is, the defaults hold. -/
def loadDefault : FileState → Except LoadError Config
  | .absent => .ok .default
  | state => load state

end TaintTracking.Config
