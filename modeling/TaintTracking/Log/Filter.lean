import TaintTracking.Log.Directive
import TaintTracking.Text.Split

/-!
A filter tells which entries a log keeps. It is written as directives with commas between them. Of
the directives that cover an entry the most specific one decides, and of equally specific ones the
last.
-/

namespace TaintTracking.Log

abbrev Filter := List Directive

namespace Filter

/-- Where there is no directive, errors pass. -/
def ofDirectives : List Directive → Filter
  | [] => [⟨"", none, some .error⟩]
  | directives => directives

/-- Puts a directive before others. A malformed one is left out, but one that would be cut within a
character spoils them all. -/
def prepend? : Except Directive.Fault Directive → List Directive → Option (List Directive)
  | .ok directive, directives => some (directive :: directives)
  | .error .malformed, directives => some directives
  | .error .withinCharacter, _ => none

def ofText? (text : String) : Option Filter :=
  let readings := (Text.split ',' text).map (Directive.ofChars ·.toList)
  (readings.foldrM prepend? []).map ofDirectives

def moreSpecific (best : Option Directive) (next : Directive) : Option Directive :=
  if best.all next.isAsSpecificAs then some next else best

def decisive? (filter : Filter) (entry : Entry) : Option Directive :=
  (filter.filter (·.covers entry)).foldl moreSpecific none

def keeps (filter : Filter) (entry : Entry) : Bool :=
  (filter.decisive? entry).any fun directive => entry.level.passes directive.threshold

end Filter

end TaintTracking.Log
