import TaintTracking.Proofs.Program.Exit
import TaintTracking.Proofs.Program.Guard

/-!
What holds of a session after an invocation. An invariant is shown of the few things that an adapter
does itself and of the callables of the function; it then holds whichever way the invocation goes.
-/

namespace TaintTracking

/-- The policy may agree to run the function on the variables as they are. -/
def Guard.Allows (guard : Guard) (caller : Context) (s : Session) : Prop :=
  ∃ earlier later, s.storeOf caller = earlier.storeOf caller ∧
    ((∃ verdict, guard.consult caller earlier = (.ok verdict, later)) ∨
      ∃ rendered prompt, guard.consultRendered caller rendered earlier = (.ok prompt, later))

/-- What an invocation does outside the callables keeps the invariant. A callable is entered only after
the policy agreed. -/
structure Guard.Keeps (guard : Guard) (caller : Context) (invariant : Session → Prop) : Prop where
  consult : ∀ s, invariant s → invariant (guard.consult caller s).2
  consultRendered : ∀ rendered s, invariant s →
    invariant (guard.consultRendered caller rendered s).2
  log : ∀ entry s, invariant s → invariant (s.log entry)
  enter : ∀ role s, guard.Allows caller s → invariant s → invariant (guard.enter role caller s)
  settle : ∀ (output : OutputShape) verdict forced result s, invariant s →
    invariant (output.settle caller (verdict && !forced)
      (guard.complete output verdict forced s) result).2

namespace Guard.Keeps
variable {guard : Guard} {caller : Context} {invariant : Session → Prop} {s t : Session}

theorem of_consult (keeps : guard.Keeps caller invariant) (before : invariant s)
    {verdict : Except TrustError Bool} (consulted : guard.consult caller s = (verdict, t)) :
    invariant t := by
  have after := keeps.consult s before
  rwa [consulted] at after

theorem of_consultRendered (keeps : guard.Keeps caller invariant) (before : invariant s)
    {rendered : String} {tagged : Except TrustError TaintedValue}
    (consulted : guard.consultRendered caller rendered s = (tagged, t)) : invariant t := by
  have after := keeps.consultRendered rendered s before
  rwa [consulted] at after

theorem to_body (keeps : guard.Keeps caller invariant) (before : invariant s) {verdict : Bool}
    (consent : guard.consult caller s = (.ok verdict, t)) :
    invariant (guard.enter .body caller (guard.logInvoking verdict t)) := by
  have same := Session.storeOf_congr (Guard.stores_of_consult consent) caller
  exact keeps.enter .body _ ⟨s, t, same, .inl ⟨verdict, consent⟩⟩
    (keeps.log _ t (keeps.of_consult before consent))

theorem to_renderer (keeps : guard.Keeps caller invariant) (before : invariant s) {verdict : Bool}
    (consent : guard.consult caller s = (.ok verdict, t)) :
    invariant (guard.enter .renderer caller t) := by
  have same := Session.storeOf_congr (Guard.stores_of_consult consent) caller
  exact keeps.enter .renderer t ⟨s, t, same, .inl ⟨verdict, consent⟩⟩
    (keeps.of_consult before consent)

theorem to_backend (keeps : guard.Keeps caller invariant) (before : invariant s) {rendered : String}
    {prompt : TaintedValue}
    (tag : guard.consultRendered caller rendered s = (.ok prompt, t)) :
    invariant (guard.enter .backend caller (guard.logRendered prompt t)) := by
  have same := Session.storeOf_congr (Guard.stores_of_consultRendered tag) caller
  exact keeps.enter .backend _ ⟨s, t, same, .inr ⟨rendered, prompt, tag⟩⟩
    (keeps.log _ t (keeps.of_consultRendered before tag))

end Guard.Keeps

/-- Running the program keeps the invariant. -/
def Program.Keeps {output : OutputShape} {n : Nat} (program : Program output n) (scope : Scope n)
    (token : Option TokenId) (invariant : Session → Prop) : Prop :=
  ∀ s, invariant s → invariant (program.run scope token s).2

/-- What holds after every run of a program holds after one whose result is known. -/
theorem Program.Keeps.of_run {output : OutputShape} {n : Nat} {program : Program output n}
    {scope : Scope n} {token : Option TokenId} {invariant : Session → Prop}
    (keeps : program.Keeps scope token invariant) {s t : Session} (before : invariant s)
    {result : Except Cause output.Result} (run : program.run scope token s = (result, t)) :
    invariant t := by
  have after := keeps s before
  rwa [run] at after

namespace SkillFunction

/-- Each callable of the function keeps the invariant, on what the adapter gives it. -/
def CallablesKeep (caller : Context) (token : TokenId) (invariant : Session → Prop) :
    SkillFunction → Prop
  | .native _ shape code => ∀ argument,
    (code argument).Keeps (Scope.ofContext (shape.given caller)) (shape.token token) invariant
  | .semantic _ renderer backend =>
    renderer.Keeps (Scope.ofContext caller) none invariant ∧
      ∀ prompt, (backend prompt).Keeps (Scope.ofContext caller) (some token) invariant

theorem invoke_keeps (function : SkillFunction) (token : TokenId) {caller : Context}
    {invariant : Session → Prop} (keeps : function.guard.Keeps caller invariant)
    (callables : function.CallablesKeep caller token invariant) {s : Session}
    (before : invariant s) : invariant (function.invoke caller token s).2 := by
  have exit := function.invoke_exit caller token s
  generalize function.invoke caller token s = out at exit ⊢
  cases exit with
  | denied denial => exact keeps.of_consult before denial
  | bodyFailed consent body =>
    exact keeps.log _ _ ((callables _).of_run (keeps.to_body before consent) body)
  | bodyDone consent body =>
    exact keeps.settle _ _ _ _ _ ((callables _).of_run (keeps.to_body before consent) body)
  | renderFailed consent render =>
    exact keeps.log _ _ (callables.1.of_run (keeps.to_renderer before consent) render)
  | promptDenied consent render denial =>
    have rendered := callables.1.of_run (keeps.to_renderer before consent) render
    exact keeps.of_consultRendered rendered denial
  | backendFailed consent render tag backendRun =>
    have rendered := callables.1.of_run (keeps.to_renderer before consent) render
    exact keeps.log _ _ ((callables.2 _).of_run (keeps.to_backend rendered tag) backendRun)
  | backendDone consent render tag backendRun =>
    have rendered := callables.1.of_run (keeps.to_renderer before consent) render
    exact keeps.settle .text _ _ _ _
      ((callables.2 _).of_run (keeps.to_backend rendered tag) backendRun)

end SkillFunction

end TaintTracking
