import TaintTracking.Session.Basic

/-!
The report on a run: its result, its trust and how it ended.
-/

namespace TaintTracking

structure RunReport where
  run : RunId
  result : String
  trusted : Bool
  error : Option String
  trustViolation : Bool
  cancelled : Bool
  deriving DecidableEq, Repr

namespace RunReport

def ofContext (context : Context) (s : Session) : RunReport where
  run := context.run
  result := (s.storeOf context).main.content
  trusted := s.isTrusted context
  error := if context.hasError then some context.description else none
  trustViolation := context.isTrustViolation
  cancelled := context.isCancelled

/-- The fields apart from the identity of the run. -/
def fields (report : RunReport) : List (String × Data) :=
  [("result", .ofText report.result), ("trusted", .flag report.trusted),
    ("error", .ofOption .ofText report.error), ("trust_violation", .flag report.trustViolation),
    ("cancelled", .flag report.cancelled)]

/-- The report under the name that its run has outside. -/
def toData (report : RunReport) (runName : String) : Data :=
  .ofMembers (("run_id", .ofText runName) :: report.fields)

end RunReport

end TaintTracking
