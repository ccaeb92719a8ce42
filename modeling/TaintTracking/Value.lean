/-!
Text paired with a trust bit. The bit is carried along or set on purpose, and never read off the
text.
-/

namespace TaintTracking

structure TaintedValue where
  content : String
  trusted : Bool
  deriving DecidableEq, Repr

namespace TaintedValue

/-- A plain text is trusted. -/
def ofText (content : String) : TaintedValue := ⟨content, true⟩

def untrusted (content : String) : TaintedValue := ⟨content, false⟩

def empty : TaintedValue := ofText ""

def withContent (value : TaintedValue) (content : String) : TaintedValue :=
  { value with content }

def withTrust (value : TaintedValue) (trusted : Bool) : TaintedValue :=
  { value with trusted }

def toTrusted (value : TaintedValue) : TaintedValue := value.withTrust true

def toUntrusted (value : TaintedValue) : TaintedValue := value.withTrust false

instance : Inhabited TaintedValue := ⟨empty⟩

instance : ToString TaintedValue := ⟨content⟩

end TaintedValue

end TaintTracking
