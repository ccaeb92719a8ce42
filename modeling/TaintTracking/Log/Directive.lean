import TaintTracking.Log.Entry
import TaintTracking.Text.Alphanumeric
import TaintTracking.Text.Blank
import TaintTracking.Text.Count
import TaintTracking.Text.Slice

/-!
Directives tell how severe an entry has to be for a log to keep it. One is written as a threshold for
all entries, or as a target with an equals sign and a threshold; behind the target a selector may
stand in brackets. A directive without a threshold passes everything.
-/

namespace TaintTracking.Log

/-- The thresholds in the order of what they keep; `none` keeps nothing. -/
def thresholds : List (String × Option Level) :=
  [("off", none), ("error", some .error), ("warn", some .warn), ("info", some .info),
    ("debug", some .debug), ("trace", some .trace)]

/-- Reads a threshold, which is a word in any case or its place in the order. -/
def threshold? (text : String) : Option (Option Level) :=
  match Text.count? text with
  | some place => thresholds[place]?.map (·.2)
  | none => thresholds.lookup (String.ofList (text.toList.map Char.toLower))

def Level.passes (level : Level) (threshold : Option Level) : Bool :=
  threshold.any (level.verbosity ≤ ·.verbosity)

/-- The name of a span and, in braces, a field. -/
structure Selector where
  span : String
  field : Option String
  deriving DecidableEq, Repr

/-- The empty target stands for all. -/
structure Directive where
  target : String
  selector : Option Selector
  threshold : Option Level
  deriving DecidableEq, Repr

/-- Entries stand in no span, so that only a field selects any of them. -/
def Selector.selects (selector : Selector) (entry : Entry) : Bool :=
  selector.span.isEmpty && selector.field.any entry.fieldNames.contains

namespace Directive

def covers (directive : Directive) (entry : Entry) : Bool :=
  directive.target.toList.isPrefixOf entry.target.toList
    && directive.selector.all (·.selects entry)

/-- The field that a directive asks for, or the empty text. -/
def field (directive : Directive) : String := (directive.selector.bind (·.field)).getD ""

/-- Specific is first of all a long target, then a field, and one that is late in the alphabet. -/
def isAsSpecificAs (directive other : Directive) : Bool :=
  other.target.length < directive.target.length
    || (other.target.length = directive.target.length
      && other.field ≤ directive.field)

/-! Reading. The positions of the parts are counted in the text without the blanks around it, but the
parts are cut from the text with its blanks. -/

inductive Fault where
  | malformed
  | withinCharacter
  deriving DecidableEq, Repr

def part (text : List Char) (start stop : Nat) : Except Fault String :=
  match Text.slice? start stop text with
  | some piece => .ok (String.ofList piece)
  | none => .error .withinCharacter

def partFrom (text : List Char) (start : Nat) : Except Fault String :=
  part text start (Text.byteLength text)

/-- The threshold that begins at a position. -/
def readThreshold (text : List Char) (start : Nat) : Except Fault (Option Level) := do
  match ← partFrom text start with
  | "" => return some .trace
  | word =>
    match threshold? word with
    | some threshold => return threshold
    | none => .error .malformed

/-- What follows the bracket that closes a selector. -/
def afterSelector (text : List Char) (target : String) (selector : Selector) (position : Nat) :
    List Char → Except Fault Directive
  | [] => .ok ⟨target, some selector, some .trace⟩
  | '=' :: _ => do return ⟨target, some selector, ← readThreshold text (position + 1)⟩
  | _ => .error .malformed

/-- A field after its opening brace. -/
def readField (text : List Char) (target span : String) (start : Nat) (rest : List Char) :
    Except Fault Directive :=
  match Text.seek ['}'] start rest with
  | none => .error .malformed
  | some (stop, _, rest) => do
    let field ← part text start stop
    match rest with
    | ']' :: rest =>
      if field.isEmpty then .error .malformed
      else afterSelector text target ⟨span, some field⟩ (stop + 2) rest
    | _ => .error .malformed

/-- A selector after its opening bracket. -/
def readSelector (text : List Char) (target : String) (start : Nat) (rest : List Char) :
    Except Fault Directive :=
  match Text.seek ['{', ']'] start rest with
  | none => .error .malformed
  | some (stop, c, rest) => do
    let span ← part text start stop
    if c = '{' then readField text target span (stop + 1) rest
    else afterSelector text target ⟨span, none⟩ (stop + 1) rest

/-- A text that is no threshold stands for a target. -/
def readWord (text : List Char) : Directive :=
  let word := String.ofList text
  match threshold? word with
  | some threshold => ⟨"", none, threshold⟩
  | none => ⟨word, none, some .trace⟩

def readTarget (text body : List Char) : Except Fault Directive :=
  match Text.seek ['=', '['] 0 body with
  | none => .ok (readWord text)
  | some (stop, c, rest) => do
    let target ← part text 0 stop
    if c = '[' then readSelector text target (stop + 1) rest
    else return ⟨target, none, ← readThreshold text (stop + 1)⟩

def isTargetStart (c : Char) : Bool := Text.isAlphanumeric c || c = '-' || c = '_' || c = ':'

def ofChars (text : List Char) : Except Fault Directive :=
  match Text.trimList text with
  | [] => .error .malformed
  | '[' :: rest => readSelector text "" 1 rest
  | c :: rest => if isTargetStart c then readTarget text (c :: rest) else .error .malformed

end Directive

end TaintTracking.Log
