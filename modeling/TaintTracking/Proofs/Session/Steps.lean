import Mathlib.Logic.Relation
import TaintTracking.Pipeline.Basic
import TaintTracking.Proofs.Program.Adapter

/-!
Everything that can happen to a session while functions run is one of a few steps. What every step
keeps, every run keeps, however deep the invocations are nested.
-/

namespace TaintTracking

mutual

/-- The guard of the function, and those of all functions that its callables may invoke, are in `p`. -/
def SkillFunction.EveryGuard (p : Guard → Prop) : SkillFunction → Prop
  | .native guard _ code => p guard ∧ ∀ argument, (code argument).EveryGuard p
  | .semantic guard renderer backend =>
    p guard ∧ renderer.EveryGuard p ∧ ∀ prompt, (backend prompt).EveryGuard p

def Program.EveryGuard (p : Guard → Prop) : {output : OutputShape} → {n : Nat} →
    Program output n → Prop
  | _, _, .done _ => True
  | _, _, .fail _ => True
  | _, _, .act _ next => ∀ answer, (next answer).EveryGuard p
  | _, _, .introduce _ next => next.EveryGuard p
  | _, _, .invoke _ function next => function.EveryGuard p ∧ next.EveryGuard p

end

mutual

theorem SkillFunction.everyGuard_of_forall {p : Guard → Prop} (all : ∀ guard, p guard) :
    (function : SkillFunction) → function.EveryGuard p
  | .native guard _ code => by
    rw [SkillFunction.EveryGuard]
    exact ⟨all guard, fun argument => Program.everyGuard_of_forall all (code argument)⟩
  | .semantic guard renderer backend => by
    rw [SkillFunction.EveryGuard]
    exact ⟨all guard, Program.everyGuard_of_forall all renderer,
      fun prompt => Program.everyGuard_of_forall all (backend prompt)⟩

theorem Program.everyGuard_of_forall {p : Guard → Prop} (all : ∀ guard, p guard) :
    {output : OutputShape} → {n : Nat} → (program : Program output n) → program.EveryGuard p
  | _, _, .done _ => by simp [Program.EveryGuard]
  | _, _, .fail _ => by simp [Program.EveryGuard]
  | _, _, .act _ next => by
    rw [Program.EveryGuard]
    exact fun answer => Program.everyGuard_of_forall all (next answer)
  | _, _, .introduce _ next => by
    rw [Program.EveryGuard]
    exact Program.everyGuard_of_forall all next
  | _, _, .invoke _ function next => by
    rw [Program.EveryGuard]
    exact ⟨SkillFunction.everyGuard_of_forall all function, Program.everyGuard_of_forall all next⟩

end

namespace Session

/-- What happens at once, where functions with guards in `p` run. A callable is entered only after the
policy agreed. -/
inductive Step (p : Guard → Prop) : Session → Session → Prop
  | act {n : Nat} (action : Action n) (scope : Scope n) (token : Option TokenId) (s : Session) :
      Step p s (action.perform scope token s).2.2
  | create {n : Nat} (origin : Origin n) (scope : Scope n) (s : Session) :
      Step p s (origin.create scope s).2
  | issue (s : Session) : Step p s s.newToken.2
  | consult {guard : Guard} (caller : Context) (s : Session) (member : p guard) :
      Step p s (guard.consult caller s).2
  | consultRendered {guard : Guard} (caller : Context) (rendered : String) (s : Session)
      (member : p guard) : Step p s (guard.consultRendered caller rendered s).2
  | log (entry : Log.Entry) (s : Session) : Step p s (s.log entry)
  | enter {guard : Guard} (role : Role) (caller : Context) (s : Session) (member : p guard)
      (allowed : guard.Allows caller s) : Step p s (guard.enter role caller s)
  | settle (guard : Guard) (output : OutputShape) (caller : Context) (verdict forced : Bool)
      (result : output.Result) (s : Session) :
      Step p s (output.settle caller (verdict && !forced)
        (guard.complete output verdict forced s) result).2

abbrev Steps (p : Guard → Prop) : Session → Session → Prop := Relation.ReflTransGen (Step p)

/-- What an adapter does around the callables is a few steps. -/
theorem Steps.keeps {p : Guard → Prop} {guard : Guard} (member : p guard) (caller : Context)
    (s : Session) : guard.Keeps caller (Steps p s) where
  consult t steps := steps.tail (.consult caller t member)
  consultRendered rendered t steps := steps.tail (.consultRendered caller rendered t member)
  log entry t steps := steps.tail (.log entry t)
  enter role t allowed steps := steps.tail (.enter role caller t member allowed)
  settle output verdict forced result t steps :=
    steps.tail (.settle guard output caller verdict forced result t)

end Session

open Session

mutual

theorem SkillFunction.invoke_steps {p : Guard → Prop} : (function : SkillFunction) →
    function.EveryGuard p → ∀ (caller : Context) (token : TokenId) (s : Session),
      Steps p s (function.invoke caller token s).2
  | .native guard shape code, every, caller, token, s => by
    rw [SkillFunction.EveryGuard] at every
    obtain ⟨member, everyBody⟩ := every
    refine SkillFunction.invoke_keeps (.native guard shape code) token
      (Steps.keeps member caller s) ?_ .refl
    intro argument t steps
    exact steps.trans (Program.run_steps (code argument) (everyBody argument) _ _ t)
  | .semantic guard renderer backend, every, caller, token, s => by
    rw [SkillFunction.EveryGuard] at every
    obtain ⟨member, everyRenderer, everyBackend⟩ := every
    refine SkillFunction.invoke_keeps (.semantic guard renderer backend) token
      (Steps.keeps member caller s) ⟨?_, ?_⟩ .refl
    · intro t steps
      exact steps.trans (Program.run_steps renderer everyRenderer _ _ t)
    · intro prompt t steps
      exact steps.trans (Program.run_steps (backend prompt) (everyBackend prompt) _ _ t)

theorem Program.run_steps {p : Guard → Prop} : {output : OutputShape} → {n : Nat} →
    (program : Program output n) → program.EveryGuard p →
      ∀ (scope : Scope n) (token : Option TokenId) (s : Session),
        Steps p s (program.run scope token s).2
  | _, _, .done value, _, scope, token, s => by
    rw [Program.run]
  | _, _, .fail cause, _, scope, token, s => by
    rw [Program.run]
  | _, _, .act action next, every, scope, token, s => by
    rw [Program.EveryGuard] at every
    rw [Program.run]
    exact .head (.act action scope token s) (Program.run_steps (next _) (every _) _ token _)
  | _, _, .introduce origin next, every, scope, token, s => by
    rw [Program.EveryGuard] at every
    rw [Program.run]
    exact .head (.create origin scope s) (Program.run_steps next every _ token _)
  | _, _, .invoke context function next, every, scope, token, s => by
    rw [Program.EveryGuard] at every
    rw [Program.run]
    have issued : Steps p s (s.tokenOrNew token).2 := by
      cases token with
      | none => exact .single (.issue s)
      | some given => exact .refl
    have invoked := SkillFunction.invoke_steps function every.1 (scope context).share
      (s.tokenOrNew token).1 (s.tokenOrNew token).2
    exact (issued.trans invoked).trans (Program.run_steps next every.2 _ token _)

end

theorem Pipeline.runFrom_steps {p : Guard → Prop} (token : TokenId) (index : Nat)
    (steps : List SkillFunction) (every : ∀ step ∈ steps, step.EveryGuard p) (context : Context)
    (s : Session) : Steps p s (Pipeline.runFrom token index steps context s).2 := by
  induction steps generalizing index context s with
  | nil => exact .single (.log _ s)
  | cons step steps ih =>
    rw [Pipeline.runFrom]
    split
    · exact .single (.log _ s)
    · have invoked := SkillFunction.invoke_steps step (every step (List.mem_cons_self ..)) context
        token (Pipeline.logStep index step s)
      have started := Relation.ReflTransGen.head (Step.log _ s) invoked
      dsimp only
      split
      · exact started.tail (.log _ _)
      · have rest := fun other member => every other (List.mem_cons_of_mem step member)
        exact started.trans (ih (index + 1) rest _ _)

/-! What every run keeps. -/

namespace Session
variable {p : Guard → Prop} {s t : Session}

theorem Step.issued_le (step : Step p s t) : s.issued ≤ t.issued := by
  cases step with
  | act action scope token s => exact Nat.le_of_eq (action.perform_issued scope token s).symm
  | create origin scope s => exact origin.create_issued_le scope s
  | issue s => exact Nat.le_succ _
  | @consult guard caller s member =>
    exact Nat.le_of_eq (guard.policy.consult_issued (guard.currentDescriptor s) caller s).symm
  | @consultRendered guard caller rendered s member =>
    exact Nat.le_of_eq
      (guard.policy.consultRendered_issued (guard.currentDescriptor s) caller s rendered).symm
  | log entry s => exact Nat.le_refl _
  | enter role caller s member allowed => exact Nat.le_refl _
  | settle guard output caller verdict forced result s =>
    exact Nat.le_of_eq
      (output.settle_issued caller _ (guard.complete output verdict forced s) result).symm

theorem Step.grows (step : Step p s t) :
    s.Records (fun _ => True) t := by
  cases step with
  | act action scope token s =>
    exact (action.perform_records scope token s).mono fun _ _ => trivial
  | create origin scope s => exact .of_trail_eq (origin.create_trail scope s)
  | issue s => exact .refl s
  | consult caller s member => exact (Guard.records_of_consult rfl).mono fun _ _ => trivial
  | consultRendered caller rendered s member =>
    exact (Guard.records_of_consultRendered rfl).mono fun _ _ => trivial
  | log entry s => exact .of_trail_cons (log_trail ..) trivial
  | enter role caller s member allowed => exact .of_trail_cons (record_trail ..) trivial
  | settle guard output caller verdict forced result s =>
    exact .of_trail_cons (output.settle_trail ..) trivial

theorem Steps.issued_le (steps : Steps p s t) : s.issued ≤ t.issued := by
  induction steps with
  | refl => exact Nat.le_refl _
  | tail _ step ih => exact Nat.le_trans ih step.issued_le

theorem Steps.records {q : Event → Prop} (keeps : ∀ {s t : Session}, Step p s t → s.Records q t)
    (steps : Steps p s t) : s.Records q t := by
  induction steps with
  | refl => exact .refl s
  | tail _ step ih => exact ih.trans (keeps step)

end Session

theorem SkillFunction.issued_le_invoke (function : SkillFunction) (caller : Context) (token : TokenId)
    (s : Session) : s.issued ≤ (function.invoke caller token s).2.issued :=
  (function.invoke_steps (function.everyGuard_of_forall fun _ : Guard => True.intro) caller token
    s).issued_le

theorem Program.issued_le_run {output : OutputShape} {n : Nat} (program : Program output n)
    (scope : Scope n) (token : Option TokenId) (s : Session) :
    s.issued ≤ (program.run scope token s).2.issued :=
  (program.run_steps (program.everyGuard_of_forall fun _ : Guard => True.intro) scope token s).issued_le

/-- A program adds to the trail and takes nothing away. -/
theorem Program.trail_grows {output : OutputShape} {n : Nat} (program : Program output n)
    (scope : Scope n) (token : Option TokenId) (s : Session) :
    ∃ events, (program.run scope token s).2.trail = events ++ s.trail := by
  have steps := program.run_steps (program.everyGuard_of_forall fun _ : Guard => True.intro)
    scope token s
  obtain ⟨events, trail, -⟩ := steps.records Session.Step.grows
  exact ⟨events, trail⟩

/-- A context that exists goes on existing. -/
theorem SkillFunction.invoke_hasStore (function : SkillFunction) (caller : Context) (token : TokenId)
    {s : Session} {context : Context} (known : s.HasStore context) :
    (function.invoke caller token s).2.HasStore context :=
  Nat.lt_of_lt_of_le known (function.issued_le_invoke caller token s)

end TaintTracking
