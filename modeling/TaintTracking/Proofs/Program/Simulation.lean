import TaintTracking.Proofs.Session.Steps

/-!
Functions that run in two sessions side by side. A simulation relates the sessions, the contexts and the
tokens of the one run with those of the other, and is closed under everything that happens at once. Main
statement: an invocation of one function on related callers comes to related ends, however deep its
callables invoke others. A simulation of a session by itself is an invariant.
-/

namespace TaintTracking

/-! Callables that hold tokens which they were not given. -/

def Action.HoldsOnly {n : Nat} (held : TokenId → Prop) : Action n → Prop
  | .cancelHeld token => held token
  | _ => True

mutual

/-- The tokens that callables hold from elsewhere, here and in all functions that they may invoke, are in
`held`. -/
def SkillFunction.HoldsOnly (held : TokenId → Prop) : SkillFunction → Prop
  | .native _ _ code => ∀ argument, (code argument).HoldsOnly held
  | .semantic _ renderer backend =>
    renderer.HoldsOnly held ∧ ∀ prompt, (backend prompt).HoldsOnly held

def Program.HoldsOnly (held : TokenId → Prop) : {output : OutputShape} → {n : Nat} →
    Program output n → Prop
  | _, _, .done _ => True
  | _, _, .fail _ => True
  | _, _, .act action next => action.HoldsOnly held ∧ ∀ answer, (next answer).HoldsOnly held
  | _, _, .introduce _ next => next.HoldsOnly held
  | _, _, .invoke _ function next => function.HoldsOnly held ∧ next.HoldsOnly held

end

theorem Action.holdsOnly_of_forall {n : Nat} {held : TokenId → Prop} (all : ∀ token, held token)
    (action : Action n) : action.HoldsOnly held := by
  cases action with
  | cancelHeld token => exact all token
  | _ => trivial

mutual

theorem SkillFunction.holdsOnly_of_forall {held : TokenId → Prop} (all : ∀ token, held token) :
    (function : SkillFunction) → function.HoldsOnly held
  | .native _ _ code => by
    rw [SkillFunction.HoldsOnly]
    exact fun argument => Program.holdsOnly_of_forall all (code argument)
  | .semantic _ renderer backend => by
    rw [SkillFunction.HoldsOnly]
    exact ⟨Program.holdsOnly_of_forall all renderer,
      fun prompt => Program.holdsOnly_of_forall all (backend prompt)⟩

theorem Program.holdsOnly_of_forall {held : TokenId → Prop} (all : ∀ token, held token) :
    {output : OutputShape} → {n : Nat} → (program : Program output n) → program.HoldsOnly held
  | _, _, .done _ => by simp [Program.HoldsOnly]
  | _, _, .fail _ => by simp [Program.HoldsOnly]
  | _, _, .act action next => by
    rw [Program.HoldsOnly]
    exact ⟨action.holdsOnly_of_forall all, fun answer => Program.holdsOnly_of_forall all (next answer)⟩
  | _, _, .introduce _ next => by
    rw [Program.HoldsOnly]
    exact Program.holdsOnly_of_forall all next
  | _, _, .invoke _ function next => by
    rw [Program.HoldsOnly]
    exact ⟨SkillFunction.holdsOnly_of_forall all function, Program.holdsOnly_of_forall all next⟩

end

/-- From here on the policy answers in the second session as it does in the first. -/
def Policy.AnswersAlike (s s' : Session) : Policy → Prop
  | .contextual _ => True
  | .scripted id _ answer tag => ∀ i,
    answer (s'.consultations id + i) = answer (s.consultations id + i) ∧
      ∀ own ∈ tag, own (s'.consultations id + i) = own (s.consultations id + i)

namespace Policy.AnswersAlike
variable {s s' t t' : Session} {policy : Policy}

theorem of_eq (same : s'.consultations = s.consultations) (policy : Policy) :
    policy.AnswersAlike s s' := by
  cases policy with
  | contextual defaultTrusted => trivial
  | scripted id label answer tag =>
    intro i
    rw [same]
    exact ⟨rfl, fun _ _ => rfl⟩

theorem congr (alike : policy.AnswersAlike s s') (left : t.consultations = s.consultations)
    (right : t'.consultations = s'.consultations) : policy.AnswersAlike t t' := by
  cases policy with
  | contextual defaultTrusted => trivial
  | scripted id label answer tag =>
    rw [AnswersAlike, left, right]
    exact alike

theorem now {id : PolicyId} {label : String} {answer : Nat → Descriptor → Store → Except TrustError Bool}
    {tag : Option (Nat → Descriptor → Store → String → Except TrustError TaintedValue)}
    (alike : (Policy.scripted id label answer tag).AnswersAlike s s') :
    answer (s'.consultations id) = answer (s.consultations id) ∧
      ∀ own ∈ tag, own (s'.consultations id) = own (s.consultations id) := alike 0

/-- A consultation is counted in both sessions. -/
theorem account (alike : policy.AnswersAlike s s') (id : PolicyId) (descriptor : Descriptor)
    (store : Store) (verdict : Except TrustError Bool) :
    policy.AnswersAlike (Policy.account id descriptor store verdict s)
      (Policy.account id descriptor store verdict s') := by
  cases policy with
  | contextual defaultTrusted => trivial
  | scripted own label answer tag =>
    intro i
    dsimp only [Policy.account, Session.record, assign]
    by_cases mine : own = id
    · have later := alike (1 + i)
      rw [← Nat.add_assoc, ← Nat.add_assoc, mine] at later
      rw [if_pos mine, if_pos mine]
      exact later
    · rw [if_neg mine, if_neg mine]
      exact alike i

end Policy.AnswersAlike

/-- The relations between two runs and what they are closed under. What contexts and tokens correspond
depends on how many identities were handed out in the first session. -/
structure Simulation where
  sessions : Session → Session → Prop
  contexts : Nat → Context → Context → Prop
  tokens : Nat → TokenId → TokenId → Prop
  guards : Guard → Prop
  held : TokenId → Prop
  contexts_mono : ∀ {n m c c'}, n ≤ m → contexts n c c' → contexts m c c'
  tokens_mono : ∀ {n m token token'}, n ≤ m → tokens n token token' → tokens m token token'
  error : ∀ {n c c'}, contexts n c c' → c'.error = c.error
  description : ∀ {n c c'}, contexts n c c' → c'.description = c.description
  fail : ∀ {n c c'}, contexts n c c' → ∀ error, contexts n (c.fail error) (c'.fail error)
  clearError : ∀ {n c c'}, contexts n c c' → contexts n c.clearError c'.clearError
  storeOf : ∀ {s s' c c'}, sessions s s' → contexts s.issued c c' → s'.storeOf c' = s.storeOf c
  edit : ∀ {s s' c c'}, sessions s s' → contexts s.issued c c' → ∀ change,
    sessions (s.edit c change) (s'.edit c' change)
  newContext : ∀ {s s'}, sessions s s' → ∀ store,
    contexts (s.issued + 1) (s.newContext store).1 (s'.newContext store).1 ∧
      sessions (s.newContext store).2 (s'.newContext store).2
  cloneContext : ∀ {s s' c c'}, sessions s s' → contexts s.issued c c' →
    contexts (s.issued + 1) (s.cloneContext c).1 (s'.cloneContext c').1 ∧
      sessions (s.cloneContext c).2 (s'.cloneContext c').2
  newToken : ∀ {s s'}, sessions s s' →
    tokens (s.issued + 1) s.newToken.1 s'.newToken.1 ∧ sessions s.newToken.2 s'.newToken.2
  isCancelled : ∀ {s s' token token'}, sessions s s' → tokens s.issued token token' →
    s'.isCancelled token' = s.isCancelled token
  cancel : ∀ {s s' token token'}, sessions s s' → tokens s.issued token token' →
    sessions (s.cancel token) (s'.cancel token')
  cancelHeld : ∀ {s s' token}, sessions s s' → held token →
    sessions (s.cancel token) (s'.cancel token)
  sleep : ∀ {s s'}, sessions s s' → ∀ ms, sessions (s.sleep ms) (s'.sleep ms)
  setForce : ∀ {s s'}, sessions s s' → ∀ flag force,
    sessions (s.setForce flag force) (s'.setForce flag force)
  record : ∀ {s s'}, sessions s s' → ∀ event, sessions (s.record event) (s'.record event)
  forcesUntrusted : ∀ {s s' guard}, sessions s s' → guards guard →
    guard.forcesUntrusted s' = guard.forcesUntrusted s
  answersAlike : ∀ {s s' guard}, sessions s s' → guards guard → guard.policy.AnswersAlike s s'
  account : ∀ {s s'}, sessions s s' → ∀ id descriptor store verdict,
    sessions (Policy.account id descriptor store verdict s) (Policy.account id descriptor store verdict s')

namespace Simulation
variable (sim : Simulation)

/-- An invocation ends with a context and a session. -/
def Returns (out out' : Context × Session) : Prop :=
  sim.contexts out.2.issued out.1 out'.1 ∧ sim.sessions out.2 out'.2

def Outputs (n : Nat) : (shape : OutputShape) → shape.Result → shape.Result → Prop
  | .nothing, _, _ => True
  | .text, content, content' => content' = content
  | .context, context, context' => sim.contexts n context context'

/-- A program ends with an output or a failure. -/
def Outcomes (n : Nat) (shape : OutputShape) :
    Except Cause shape.Result → Except Cause shape.Result → Prop
  | .ok output, .ok output' => sim.Outputs n shape output output'
  | .error cause, .error cause' => cause' = cause
  | _, _ => False

def Ends (shape : OutputShape) (out out' : Except Cause shape.Result × Session) : Prop :=
  sim.Outcomes out.2.issued shape out.1 out'.1 ∧ sim.sessions out.2 out'.2

theorem Ends.cases {shape : OutputShape} {out out' : Except Cause shape.Result × Session}
    (ends : sim.Ends shape out out') :
    (∃ cause t t', out = (.error cause, t) ∧ out' = (.error cause, t') ∧ sim.sessions t t') ∨
      ∃ output output' t t', out = (.ok output, t) ∧ out' = (.ok output', t') ∧
        sim.Outputs t.issued shape output output' ∧ sim.sessions t t' := by
  obtain ⟨result, t⟩ := out
  obtain ⟨result', t'⟩ := out'
  obtain ⟨outcomes, sessions⟩ := ends
  match result, result', outcomes with
  | .error cause, .error _, rfl => exact .inl ⟨cause, t, t', rfl, rfl, sessions⟩
  | .ok output, .ok output', outputs =>
    exact .inr ⟨output, output', t, t', rfl, rfl, outputs, sessions⟩

/-- On related contexts and tokens the program comes to related ends. -/
def Runs {output : OutputShape} {n : Nat} (program : Program output n) : Prop :=
  ∀ {scope scope' : Scope n} {token token' : Option TokenId} {s s' : Session}, sim.sessions s s' →
    (∀ i, sim.contexts s.issued (scope i) (scope' i)) →
    Option.Rel (sim.tokens s.issued) token token' →
    sim.Ends output (program.run scope token s) (program.run scope' token' s')

variable {sim} {s s' : Session}

section Consult
variable {guard : Guard} {c c' : Context} (related : sim.sessions s s') (member : sim.guards guard)
  (callers : sim.contexts s.issued c c')
include related member callers

omit callers in
theorem currentDescriptor_eq : guard.currentDescriptor s' = guard.currentDescriptor s := by
  rw [Guard.currentDescriptor, sim.forcesUntrusted related member, Guard.currentDescriptor]

/-- The policy is asked about the same variables, and gives the same answer. -/
theorem consult : ∃ verdict t t', guard.consult c s = (verdict, t) ∧
    guard.consult c' s' = (verdict, t') ∧ sim.sessions t t' := by
  have alike := sim.answersAlike related member
  have seen := sim.storeOf related callers
  unfold Guard.consult Policy.consult
  rw [seen, currentDescriptor_eq related member]
  cases policy : guard.policy with
  | contextual defaultTrusted =>
    refine ⟨_, _, _, rfl, rfl, sim.record ?_ _⟩
    dsimp only [Policy.logVerdict]
    split
    · exact sim.record related _
    · exact related
  | scripted id label answer tag =>
    rw [policy] at alike
    dsimp only
    rw [alike.now.1]
    exact ⟨_, _, _, rfl, rfl, sim.account related id _ _ _⟩

theorem consultRendered (rendered : String) : ∃ tagged t t',
    guard.consultRendered c rendered s = (tagged, t) ∧
      guard.consultRendered c' rendered s' = (tagged, t') ∧ sim.sessions t t' := by
  have alike := sim.answersAlike related member
  have seen := sim.storeOf related callers
  obtain ⟨verdict, t, t', first, second, after⟩ := consult related member callers
  unfold Guard.consultRendered Policy.consultRendered
  unfold Guard.consult at first second
  split
  next id label answer own policy =>
    rw [policy] at alike
    dsimp only
    rw [seen, currentDescriptor_eq related member, alike.now.2 own rfl]
    exact ⟨_, _, _, rfl, rfl, sim.account related id _ _ _⟩
  next =>
    rw [first, second]
    exact ⟨_, t, t', rfl, rfl, after⟩

end Consult

theorem settle {c c' : Context} (related : sim.sessions s s') (callers : sim.contexts s.issued c c')
    (trusted : Bool) : (shape : OutputShape) → {output output' : shape.Result} →
    sim.Outputs s.issued shape output output' →
      sim.Returns (shape.settle c trusted s output) (shape.settle c' trusted s' output')
  | .nothing, _, _, _ => by
    cases trusted with
    | true => exact ⟨callers, related⟩
    | false => exact ⟨callers, sim.edit related callers _⟩
  | .text, content, content', outputs => by
    obtain rfl : content' = content := outputs
    exact ⟨callers, sim.edit related callers _⟩
  | .context, _, _, replacements => ⟨replacements, related⟩

section Program
variable {n : Nat} {scope scope' : Scope n} {token token' : Option TokenId}
  (related : sim.sessions s s') (scopes : ∀ i, sim.contexts s.issued (scope i) (scope' i))
include related scopes

theorem perform (given : Option.Rel (sim.tokens s.issued) token token') (action : Action n)
    (holds : action.HoldsOnly sim.held) :
    (action.perform scope' token' s').1 = (action.perform scope token s).1 ∧
      (∀ i, sim.contexts s.issued ((action.perform scope token s).2.1 i)
        ((action.perform scope' token' s').2.1 i)) ∧
      sim.sessions (action.perform scope token s).2.2 (action.perform scope' token' s').2.2 := by
  cases action with
  | observe context =>
    refine ⟨?_, scopes, related⟩
    have seen := sim.storeOf related (scopes context)
    have error := sim.error (scopes context)
    have description := sim.description (scopes context)
    simp only [Action.perform, Session.view, seen, error, description]
  | edit context change => exact ⟨rfl, scopes, sim.edit related (scopes context) change⟩
  | fail context error =>
    refine ⟨rfl, fun i => ?_, related⟩
    simp only [Action.perform, Scope.set]
    split
    · exact sim.fail (scopes context) error
    · exact scopes i
  | clearError context =>
    refine ⟨rfl, fun i => ?_, related⟩
    simp only [Action.perform, Scope.set]
    split
    · exact sim.clearError (scopes context)
    · exact scopes i
  | note text => exact ⟨rfl, scopes, sim.record related _⟩
  | log entry => exact ⟨rfl, scopes, sim.record related _⟩
  | sleep ms => exact ⟨rfl, scopes, sim.sleep related ms⟩
  | cancel =>
    cases given with
    | some tokens => exact ⟨rfl, scopes, sim.cancel related tokens⟩
    | none => exact ⟨rfl, scopes, related⟩
  | cancelHeld token => exact ⟨rfl, scopes, sim.cancelHeld related holds⟩
  | checkCancelled =>
    cases given with
    | some tokens => exact ⟨congrArg some (sim.isCancelled related tokens), scopes, related⟩
    | none => exact ⟨rfl, scopes, related⟩
  | setForce flag force => exact ⟨rfl, scopes, sim.setForce related flag force⟩

theorem create (origin : Origin n) : sim.Returns (origin.create scope s) (origin.create scope' s') := by
  cases origin with
  | fresh store => exact sim.newContext related store
  | share context => exact ⟨sim.clearError (scopes context), related⟩
  | clone context => exact sim.cloneContext related (scopes context)

end Program

theorem given_mono {n m : Nat} (later : n ≤ m) {token token' : Option TokenId}
    (given : Option.Rel (sim.tokens n) token token') : Option.Rel (sim.tokens m) token token' := by
  cases given with
  | some tokens => exact .some (sim.tokens_mono later tokens)
  | none => exact .none

/-- Where no token is given, a new one is made in both sessions. -/
theorem tokenOrNew (related : sim.sessions s s') {token token' : Option TokenId}
    (given : Option.Rel (sim.tokens s.issued) token token') :
    s.issued ≤ (s.tokenOrNew token).2.issued ∧
      sim.tokens (s.tokenOrNew token).2.issued (s.tokenOrNew token).1 (s'.tokenOrNew token').1 ∧
      sim.sessions (s.tokenOrNew token).2 (s'.tokenOrNew token').2 := by
  cases given with
  | some tokens => exact ⟨Nat.le_refl _, tokens, related⟩
  | none => exact ⟨Nat.le_succ _, sim.newToken related⟩

theorem push {n m : Nat} {scope scope' : Scope n} {c c' : Context}
    (scopes : ∀ i, sim.contexts m (scope i) (scope' i)) (new : sim.contexts m c c') (i : Fin (n + 1)) :
    sim.contexts m (scope.push c i) (scope'.push c' i) := by
  unfold Scope.push
  split
  · exact scopes _
  · exact new

end Simulation

namespace SkillFunction

theorem issued_le_runBody (guard : Guard) (shape : Shape)
    (code : shape.input.Argument → Program shape.output shape.input.contexts) (caller : Context)
    (token : TokenId) (verdict : Bool) (s : Session) :
    s.issued ≤ (runBody guard shape code caller token verdict s).2.issued :=
  Program.issued_le_run _ _ _ (guard.enter .body caller (guard.logInvoking verdict s))

theorem issued_le_runRenderer (guard : Guard) (renderer : Program .text 1) (caller : Context)
    (s : Session) : s.issued ≤ (runRenderer guard renderer caller s).2.issued :=
  Program.issued_le_run _ _ _ (guard.enter .renderer caller s)

theorem issued_le_runBackend (guard : Guard) (backend : String → Program .text 0) (caller : Context)
    (token : TokenId) (prompt : TaintedValue) (s : Session) :
    s.issued ≤ (runBackend guard backend caller token prompt s).2.issued :=
  Program.issued_le_run _ _ _ (guard.enter .backend caller (guard.logRendered prompt s))

end SkillFunction

namespace Simulation
variable {sim : Simulation} {s s' : Session}

section Callables
variable {c c' : Context} {token token' : TokenId} (related : sim.sessions s s')
  (callers : sim.contexts s.issued c c') (tokens : sim.tokens s.issued token token') (guard : Guard)
include related callers

theorem runRenderer {renderer : Program .text 1} (runs : sim.Runs renderer) :
    sim.Ends .text (SkillFunction.runRenderer guard renderer c s)
      (SkillFunction.runRenderer guard renderer c' s') := by
  unfold SkillFunction.runRenderer Guard.enter
  rw [sim.storeOf related callers]
  exact runs (sim.record related _) (fun _ => callers) .none

include tokens

theorem runBody {shape : Shape}
    {code : shape.input.Argument → Program shape.output shape.input.contexts}
    (runs : ∀ argument, sim.Runs (code argument)) (verdict : Bool) :
    sim.Ends shape.output (SkillFunction.runBody guard shape code c token verdict s)
      (SkillFunction.runBody guard shape code c' token' verdict s') := by
  have seen := sim.storeOf related callers
  unfold SkillFunction.runBody Guard.enter Guard.logInvoking Session.log
  rw [Session.storeOf_record, Session.storeOf_record, seen]
  refine runs _ (sim.record (sim.record related _) _) (fun _ => ?_) ?_
  · unfold Scope.ofContext Shape.given
    split
    · exact sim.clearError callers
    · exact callers
  · unfold Shape.token
    split
    · exact .some tokens
    · exact .none

theorem runBackend {backend : String → Program .text 0} (runs : ∀ text, sim.Runs (backend text))
    (prompt : TaintedValue) :
    sim.Ends .text (SkillFunction.runBackend guard backend c token prompt s)
      (SkillFunction.runBackend guard backend c' token' prompt s') := by
  have seen := sim.storeOf related callers
  unfold SkillFunction.runBackend Guard.enter Guard.logRendered Session.log
  rw [Session.storeOf_record, Session.storeOf_record, seen]
  exact runs _ (sim.record (sim.record related _) _) (fun _ => callers) (.some tokens)

end Callables

section Invoke
variable {guard : Guard} {c c' : Context} {token token' : TokenId} (related : sim.sessions s s')
  (callers : sim.contexts s.issued c c') (tokens : sim.tokens s.issued token token')
  (member : sim.guards guard)
include related callers tokens member

/-- What an adapter does around a body keeps the two runs together. -/
theorem invoke_native {shape : Shape}
    {code : shape.input.Argument → Program shape.output shape.input.contexts}
    (runs : ∀ argument, sim.Runs (code argument)) :
    sim.Returns ((SkillFunction.native guard shape code).invoke c token s)
      ((SkillFunction.native guard shape code).invoke c' token' s') := by
  obtain ⟨verdict, s₁, s₁', consulted, consulted', related⟩ := consult related member callers
  rw [← Guard.issued_of_consult consulted] at callers tokens
  rw [SkillFunction.invoke_native, SkillFunction.invoke_native, consulted, consulted']
  cases verdict with
  | error error => exact ⟨sim.fail callers _, related⟩
  | ok verdict =>
    have forced := sim.forcesUntrusted related member
    have later := SkillFunction.issued_le_runBody guard shape code c token verdict s₁
    have ends := runBody related callers tokens guard runs verdict
    obtain ⟨cause, t, t', ran, ran', related⟩ | ⟨output, output', t, t', ran, ran', outputs, related⟩ :=
      ends.cases
    · rw [ran] at later
      simp only [ran, ran']
      exact ⟨sim.fail (sim.contexts_mono later callers) _, sim.record related _⟩
    · rw [ran] at later
      simp only [ran, ran', forced]
      exact settle (sim.record related _) (sim.contexts_mono later callers) _ shape.output outputs

/-- What an adapter does around a renderer and a backend keeps the two runs together. -/
theorem invoke_semantic {renderer : Program .text 1} {backend : String → Program .text 0}
    (renders : sim.Runs renderer) (completes : ∀ prompt, sim.Runs (backend prompt)) :
    sim.Returns ((SkillFunction.semantic guard renderer backend).invoke c token s)
      ((SkillFunction.semantic guard renderer backend).invoke c' token' s') := by
  obtain ⟨verdict, s₁, s₁', consulted, consulted', related⟩ := consult related member callers
  rw [← Guard.issued_of_consult consulted] at callers tokens
  rw [SkillFunction.invoke_semantic, SkillFunction.invoke_semantic, consulted, consulted']
  cases verdict with
  | error error => exact ⟨sim.fail callers _, related⟩
  | ok verdict =>
    have later := SkillFunction.issued_le_runRenderer guard renderer c s₁
    have ends := runRenderer related callers guard renders
    obtain ⟨cause, s₂, s₂', ran, ran', related⟩ | ⟨_, rendered, s₂, s₂', ran, ran', rfl, related⟩ :=
      ends.cases
    · rw [ran] at later
      simp only [ran, ran']
      exact ⟨sim.fail (sim.contexts_mono later callers) _, sim.record related _⟩
    rw [ran] at later
    replace callers := sim.contexts_mono later callers
    replace tokens := sim.tokens_mono later tokens
    obtain ⟨tagged, s₃, s₃', tag, tag', related⟩ := consultRendered related member callers rendered
    rw [← Guard.issued_of_consultRendered tag] at callers tokens
    simp only [ran, ran', tag, tag']
    cases tagged with
    | error error => exact ⟨sim.fail callers _, related⟩
    | ok prompt =>
      have later := SkillFunction.issued_le_runBackend guard backend c token prompt s₃
      have ends := runBackend related callers tokens guard completes prompt
      obtain ⟨cause, t, t', ran, ran', related⟩ |
        ⟨_, completion, t, t', ran, ran', rfl, related⟩ := ends.cases
      · rw [ran] at later
        simp only [ran, ran']
        exact ⟨sim.fail (sim.contexts_mono later callers) _, sim.record related _⟩
      · rw [ran] at later
        have forced := sim.forcesUntrusted related member
        simp only [ran, ran', forced]
        exact settle (sim.record related _) (sim.contexts_mono later callers) _ .text rfl

end Invoke

end Simulation

open Simulation

mutual

/-- Whatever a simulation relates, it relates after a function was invoked in both sessions. -/
theorem SkillFunction.invoke_simulates (sim : Simulation) : (function : SkillFunction) →
    function.EveryGuard sim.guards → function.HoldsOnly sim.held →
    ∀ {c c' : Context} {token token' : TokenId} {s s' : Session}, sim.sessions s s' →
      sim.contexts s.issued c c' → sim.tokens s.issued token token' →
      sim.Returns (function.invoke c token s) (function.invoke c' token' s')
  | .native guard shape code, every, holds, _, _, _, _, _, _, related, callers, tokens => by
    rw [SkillFunction.EveryGuard] at every
    rw [SkillFunction.HoldsOnly] at holds
    refine Simulation.invoke_native related callers tokens every.1 fun argument => ?_
    exact Program.run_simulates sim (code argument) (every.2 argument) (holds argument)
  | .semantic guard renderer backend, every, holds, _, _, _, _, _, _, related, callers, tokens => by
    rw [SkillFunction.EveryGuard] at every
    rw [SkillFunction.HoldsOnly] at holds
    refine Simulation.invoke_semantic related callers tokens every.1 ?_ fun prompt => ?_
    · exact Program.run_simulates sim renderer every.2.1 holds.1
    · exact Program.run_simulates sim (backend prompt) (every.2.2 prompt) (holds.2 prompt)

theorem Program.run_simulates (sim : Simulation) : {output : OutputShape} → {n : Nat} →
    (program : Program output n) → program.EveryGuard sim.guards → program.HoldsOnly sim.held →
      sim.Runs program
  | output, _, .done value, _, _, _, _, _, _, _, _, related, scopes, _ => by
    rw [Program.run, Program.run]
    refine ⟨?_, related⟩
    cases output with
    | nothing => trivial
    | text => rfl
    | context => exact scopes value
  | _, _, .fail cause, _, _, _, _, _, _, _, _, related, _, _ => by
    rw [Program.run, Program.run]
    exact ⟨rfl, related⟩
  | _, _, .act action next, every, holds, scope, scope', token, token', s, s', related, scopes, given => by
    rw [Program.EveryGuard] at every
    rw [Program.HoldsOnly] at holds
    obtain ⟨answers, after, related⟩ := perform related scopes given action holds.1
    rw [Program.run, Program.run]
    have issued := action.perform_issued scope token s
    dsimp only
    rw [answers]
    rw [← issued] at after given
    exact Program.run_simulates sim (next _) (every _) (holds.2 _) related after given
  | _, _, .introduce origin next, every, holds, scope, _, _, _, s, _, related, scopes, given => by
    rw [Program.EveryGuard] at every
    rw [Program.HoldsOnly] at holds
    obtain ⟨new, after⟩ := create related scopes origin
    rw [Program.run, Program.run]
    have later := origin.create_issued_le scope s
    refine Program.run_simulates sim next every holds after (push (fun i => ?_) new) ?_
    · exact sim.contexts_mono later (scopes i)
    · exact given_mono later given
  | _, _, .invoke context function next, every, holds, scope, scope', token, token', s, s', related,
      scopes, given => by
    rw [Program.EveryGuard] at every
    rw [Program.HoldsOnly] at holds
    obtain ⟨issued, tokens, after⟩ := tokenOrNew related given
    have shared := sim.clearError (sim.contexts_mono issued (scopes context))
    obtain ⟨new, returned⟩ :=
      SkillFunction.invoke_simulates sim function every.1 holds.1 after shared tokens
    have later := Nat.le_trans issued (function.issued_le_invoke (scope context).share
      (s.tokenOrNew token).1 (s.tokenOrNew token).2)
    rw [Program.run, Program.run]
    refine Program.run_simulates sim next every.2 holds.2 returned (push (fun i => ?_) new) ?_
    · exact sim.contexts_mono later (scopes i)
    · exact given_mono later given

end

end TaintTracking
