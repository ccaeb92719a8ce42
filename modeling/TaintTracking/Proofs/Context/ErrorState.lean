import TaintTracking.Pipeline.Basic
import TaintTracking.Pipeline.Report
import TaintTracking.Proofs.Program.Alike
import TaintTracking.Proofs.Store.Trust

/-!
The error of a context and its text. Main statement: however a context came about, its description is the text
of the error that is recorded on it, and empty if there is none; what is shown and reported of it agrees
with that.
-/

namespace TaintTracking

/-- No error is without a text. -/
theorem InvocationError.message_ne_empty (error : InvocationError) : error.message ≠ "" := by
  intro empty
  cases error with
  | untrusted error =>
    obtain ⟨skill, function⟩ := error
    exact absurd (String.append_eq_empty_iff.mp empty).2 (by decide)
  | failed skill function cause =>
    have before := (String.append_eq_empty_iff.mp empty).1
    exact absurd (String.append_eq_empty_iff.mp before).2 (by decide)
  | cancelled step => exact absurd (String.append_eq_empty_iff.mp empty).1 (by decide)

namespace Context

/-- The contexts that can come about. What is done to one of them may be done in any session, so in between
anything may happen to others and to the stores. -/
inductive Reachable : Context → Prop
  | new (store : Store) (s : Session) : Reachable (s.newContext store).1
  | fail {context : Context} (reachable : Reachable context) (error : InvocationError) :
      Reachable (context.fail error)
  | clearError {context : Context} (reachable : Reachable context) : Reachable context.clearError
  | clone {context : Context} (reachable : Reachable context) (s : Session) :
      Reachable (s.cloneContext context).1
  | share {context : Context} (reachable : Reachable context) : Reachable context.share
  | invoke {context : Context} (reachable : Reachable context) (function : SkillFunction)
      (token : TokenId) (s : Session) : Reachable (function.invoke context token s).1
  | run {context : Context} (reachable : Reachable context) (steps : List SkillFunction)
      (token : TokenId) (s : Session) : Reachable (Pipeline.runSteps steps context token s).1

end Context

/-- An invocation gives back its caller, with a new error or none, or a context that a callable made. -/
theorem SkillFunction.coherent_invoke (function : SkillFunction) {context : Context}
    (coherent : context.Coherent) (token : TokenId) (s : Session) :
    (function.invoke context token s).1.Coherent := by
  have same : s.Alike (fun _ => true) s := .refl s
  exact (function.invoke_agree same coherent token).2

theorem Pipeline.coherent_runFrom (token : TokenId) (index : Nat) (steps : List SkillFunction)
    {context : Context} (coherent : context.Coherent) (s : Session) :
    (runFrom token index steps context s).1.Coherent := by
  induction steps generalizing index context s with
  | nil => exact coherent
  | cons step steps ih =>
    rw [runFrom]
    split
    · rfl
    · have returned := step.coherent_invoke coherent token (logStep index step s)
      dsimp only
      split
      · exact returned
      · exact ih (index + 1) returned _

namespace Context
variable {context : Context}

theorem coherent_clearError (context : Context) : context.clearError.Coherent := rfl

theorem Reachable.coherent (reachable : context.Reachable) : context.Coherent := by
  induction reachable with
  | new store s => rfl
  | fail reachable error ih => rfl
  | clearError reachable ih => rfl
  | clone reachable s ih => exact ih
  | share reachable ih => rfl
  | invoke reachable function token s ih => exact function.coherent_invoke ih token s
  | run reachable steps token s ih =>
    exact Pipeline.coherent_runFrom token 0 steps (coherent_clearError _) s

theorem isTrustViolation_iff :
    context.isTrustViolation = true ↔ ∃ error, context.error = some (.untrusted error) := by
  unfold isTrustViolation
  split
  next error recorded => simp [recorded]
  next other =>
    refine iff_of_false Bool.false_ne_true ?_
    rintro ⟨error, recorded⟩
    exact other error recorded

theorem isCancelled_iff :
    context.isCancelled = true ↔ ∃ step, context.error = some (.cancelled step) := by
  unfold isCancelled
  split
  next step recorded => simp [recorded]
  next other =>
    refine iff_of_false Bool.false_ne_true ?_
    rintro ⟨step, recorded⟩
    exact other step recorded

theorem hasError_iff : context.hasError = true ↔ ∃ error, context.error = some error :=
  Option.isSome_iff_exists

/-- However a context came about, it is described by the text of the error that is recorded on it, which is
never empty, and by nothing if there is none. A failure names the function and all its causes, the
outermost first. No error is of two kinds. What the context shows is the error, or the main content if there is
none; its report has an error exactly if one is recorded, and is trusted exactly if every variable is,
failure or not. -/
theorem error_state_coherent (reachable : context.Reachable) (s : Session) :
    let report := RunReport.ofContext context s
    (∀ error, context.error = some error →
      context.description = error.message ∧ context.description ≠ "") ∧
    (context.error = none → context.description = "") ∧
    (∀ skill function cause, context.error = some (.failed skill function cause) →
      context.description = "function " ++ (skill ++ "." ++ function) ++ " failed: " ++
        ": ".intercalate (cause.outermost :: cause.sources)) ∧
    ¬(context.isTrustViolation = true ∧ context.isCancelled = true) ∧
    (context.isTrustViolation = true → context.hasError = true) ∧
    (context.isCancelled = true → context.hasError = true) ∧
    (∀ error, context.error = some error → (s.view context).display = error.message) ∧
    (context.error = none → (s.view context).display = (s.storeOf context).main.content) ∧
    (∀ text, report.error = some text ↔ ∃ error, context.error = some error ∧ error.message = text) ∧
    (report.error = none ↔ context.error = none) ∧
    (report.trusted = true ↔ ∀ slot ∈ (s.storeOf context).slots, slot.value.trusted = true) := by
  intro report
  have coherent : context.description = _ := reachable.coherent
  have described {error : InvocationError} (recorded : context.error = some error) :
      context.description = error.message := by rw [coherent, recorded]; rfl
  refine ⟨fun error recorded => ⟨described recorded, ?_⟩, fun clean => ?_,
    fun skill function cause recorded => described recorded, ?_, ?_, ?_, fun error recorded => ?_,
    fun clean => ?_, fun text => ?_, ?_, (s.storeOf context).isAllTrusted_iff⟩
  · exact described recorded ▸ error.message_ne_empty
  · rw [coherent, clean]
    rfl
  · rw [isTrustViolation_iff, isCancelled_iff]
    rintro ⟨⟨error, refused⟩, step, cancelled⟩
    cases refused.symm.trans cancelled
  · rw [isTrustViolation_iff, hasError_iff]
    exact fun ⟨error, refused⟩ => ⟨_, refused⟩
  · rw [isCancelled_iff, hasError_iff]
    exact fun ⟨step, cancelled⟩ => ⟨_, cancelled⟩
  · rw [Session.view, Snapshot.display, recorded]
    exact described recorded
  · rw [Session.view, Snapshot.display, clean]
    rfl
  · cases recorded : context.error with
    | none => simp [report, RunReport.ofContext, hasError, recorded]
    | some error => simp [report, RunReport.ofContext, hasError, recorded, described recorded]
  · cases recorded : context.error <;> simp [report, RunReport.ofContext, hasError, recorded]

def unreadable : SkillFunction :=
  .native ⟨.new "desk" "read", 0, .default⟩ ⟨.nothing, .nothing, false⟩
    fun _ => .fail ⟨"unreadable", ["no disk"]⟩

/-- An earlier cancellation is forgotten; what is reported of a copy, tainted and still with an error, is the
failure of the run. -/
theorem error_state_coherent_unreadable :
    let s := (Session.empty.newContext (Store.ofMain ⟨"mail", false⟩)).2
    let ran := Pipeline.runSteps [unreadable] ((Context.new 0 0).fail (.cancelled 1)) 7 s
    let copy := ran.2.cloneContext ran.1
    Reachable copy.1 ∧ copy.1.description = "function desk.read failed: unreadable: no disk" ∧
      (copy.2.view copy.1).display = "function desk.read failed: unreadable: no disk" ∧
      ((RunReport.ofContext copy.1 copy.2).trusted = true ↔
        ∀ slot ∈ (copy.2.storeOf copy.1).slots, slot.value.trusted = true) := by
  intro s ran copy
  have reachable : Reachable copy.1 :=
    .clone (.run (.fail (.new (Store.ofMain ⟨"mail", false⟩) Session.empty) (.cancelled 1)) [unreadable] 7 s) ran.2
  have failed : copy.1.error = some (.failed "desk" "read" ⟨"unreadable", ["no disk"]⟩) := by
    decide +kernel
  have described : InvocationError.message (.failed "desk" "read" ⟨"unreadable", ["no disk"]⟩) =
      "function desk.read failed: unreadable: no disk" := by decide +kernel
  obtain ⟨text, -, -, -, -, -, shown, -, -, -, trusted⟩ := error_state_coherent reachable copy.2
  exact ⟨reachable, (text _ failed).1.trans described, (shown _ failed).trans described, trusted⟩

end Context

end TaintTracking
