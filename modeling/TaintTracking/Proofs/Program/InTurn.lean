import TaintTracking.Proofs.Program.Alike

/-!
Running one callable after the other in one program. Main statement: for every renderer and every backend
there is a program that runs the renderer without a token, and then the backend on what was rendered.
-/

namespace TaintTracking

/-! Programs under more contexts. The contexts that a program has in scope come after `k` others. -/

def OutputShape.shift (k : Nat) {n : Nat} : (shape : OutputShape) → shape.Value n → shape.Value (k + n)
  | .nothing, _ => ()
  | .text, content => content
  | .context, position => position.natAdd k

def Action.shift (k : Nat) {n : Nat} : Action n → Action (k + n)
  | .observe context => .observe (context.natAdd k)
  | .edit context change => .edit (context.natAdd k) change
  | .fail context error => .fail (context.natAdd k) error
  | .clearError context => .clearError (context.natAdd k)
  | .note text => .note text
  | .log entry => .log entry
  | .sleep ms => .sleep ms
  | .cancel => .cancel
  | .cancelHeld token => .cancelHeld token
  | .checkCancelled => .checkCancelled
  | .setForce flag force => .setForce flag force

theorem Action.answer_shift (k : Nat) {n : Nat} (action : Action n) :
    (action.shift k).Answer = action.Answer := by
  cases action <;> rfl

def Origin.shift (k : Nat) {n : Nat} : Origin n → Origin (k + n)
  | .fresh store => .fresh store
  | .share context => .share (context.natAdd k)
  | .clone context => .clone (context.natAdd k)

def Program.shift (k : Nat) : {output : OutputShape} → {n : Nat} → Program output n →
    Program output (k + n)
  | output, _, .done value => .done (output.shift k value)
  | _, _, .fail cause => .fail cause
  | _, _, .act action next =>
    .act (action.shift k) fun answer => (next (cast (action.answer_shift k) answer)).shift k
  | _, _, .introduce origin next => .introduce (origin.shift k) (next.shift k)
  | _, _, .invoke context function next => .invoke (context.natAdd k) function (next.shift k)

/-- The wider scope holds the contexts of the narrower one after `k` others. -/
def Scope.Extends {k n : Nat} (wide : Scope (k + n)) (scope : Scope n) : Prop :=
  ∀ i : Fin n, wide (i.natAdd k) = scope i

namespace Scope.Extends
variable {k n : Nat} {wide : Scope (k + n)} {scope : Scope n}

theorem push (extend : wide.Extends scope) (context : Context) :
    @Scope.Extends k (n + 1) (wide.push context) (scope.push context) := by
  intro i
  unfold Scope.push
  by_cases inside : i.val < n
  · have insideToo : (i.natAdd k).val < k + n := by
      rw [Fin.val_natAdd]
      omega
    rw [dif_pos insideToo, dif_pos inside]
    exact extend ⟨i.val, inside⟩
  · have outsideToo : ¬(i.natAdd k).val < k + n := by
      rw [Fin.val_natAdd]
      omega
    rw [dif_neg outsideToo, dif_neg inside]

theorem set (extend : wide.Extends scope) (position : Fin n) (context : Context) :
    (wide.set (position.natAdd k) context).Extends (scope.set position context) := by
  intro i
  unfold Scope.set
  by_cases here : i = position
  · rw [if_pos here, if_pos (by rw [here])]
  · rw [if_neg here, if_neg fun same => here (by simpa [Fin.ext_iff] using same)]
    exact extend i

end Scope.Extends

section Shift
variable {k n : Nat} {wide : Scope (k + n)} {scope : Scope n} (extend : wide.Extends scope)
include extend

theorem Action.perform_shift (action : Action n) (token : Option TokenId) (s : Session) :
    cast (action.answer_shift k) ((action.shift k).perform wide token s).1 =
        (action.perform scope token s).1 ∧
      ((action.shift k).perform wide token s).2.1.Extends (action.perform scope token s).2.1 ∧
      ((action.shift k).perform wide token s).2.2 = (action.perform scope token s).2.2 := by
  cases action with
  | observe context =>
    refine ⟨?_, extend, rfl⟩
    exact congrArg s.view (extend context)
  | edit context change =>
    refine ⟨rfl, extend, ?_⟩
    exact congrArg (s.edit · change) (extend context)
  | fail context error =>
    refine ⟨rfl, ?_, rfl⟩
    simp only [Action.perform, Action.shift, extend context]
    exact extend.set context _
  | clearError context =>
    refine ⟨rfl, ?_, rfl⟩
    simp only [Action.perform, Action.shift, extend context]
    exact extend.set context _
  | _ => exact ⟨rfl, extend, rfl⟩

theorem Origin.create_shift (origin : Origin n) (s : Session) :
    (origin.shift k).create wide s = origin.create scope s := by
  cases origin with
  | fresh store => rfl
  | share context => exact congrArg (fun c => (Context.share c, s)) (extend context)
  | clone context => exact congrArg s.cloneContext (extend context)

theorem OutputShape.result_shift (shape : OutputShape) (value : shape.Value n) :
    shape.result wide (shape.shift k value) = shape.result scope value := by
  cases shape with
  | nothing => rfl
  | text => rfl
  | context => exact extend value

end Shift

/-- What a program does is not changed by contexts that it does not name. -/
theorem Program.run_shift {k : Nat} : {output : OutputShape} → {n : Nat} →
    (program : Program output n) → ∀ {wide : Scope (k + n)} {scope : Scope n}, wide.Extends scope →
      ∀ (token : Option TokenId) (s : Session),
        (program.shift k).run wide token s = program.run scope token s
  | output, _, .done value, wide, scope, extend, token, s => by
    rw [Program.shift, Program.run, Program.run, OutputShape.result_shift extend]
  | _, _, .fail cause, _, _, _, _, _ => by
    rw [Program.shift, Program.run, Program.run]
  | _, _, .act action next, wide, scope, extend, token, s => by
    obtain ⟨answer, after, session⟩ := Action.perform_shift extend action token s
    rw [Program.shift, Program.run, Program.run]
    dsimp only
    rw [answer, session]
    exact Program.run_shift (next _) after token _
  | _, _, .introduce origin next, wide, scope, extend, token, s => by
    rw [Program.shift, Program.run, Program.run, Origin.create_shift extend]
    exact Program.run_shift next (extend.push _) token _
  | _, _, .invoke context function next, wide, scope, extend, token, s => by
    rw [Program.shift, Program.run, Program.run, extend context]
    exact Program.run_shift next (extend.push _) token _

/-! One callable after the other. -/

/-- What an action that asks for a token answers where there is none. -/
def Action.withoutToken? {n : Nat} : (action : Action n) → Option action.Answer
  | .cancel => some ()
  | .checkCancelled => some none
  | _ => none

/-- Never in the way: what it guards is not sensitive. -/
def Guard.relay : Guard := ⟨Descriptor.new "relay" "relay", 0, .default⟩

/-- Hands a call on to the function from a synchronous body, which has no token to hand on with it. -/
def SkillFunction.relayed (function : SkillFunction) : SkillFunction :=
  .native .relay ⟨.context, .context, false⟩ fun _ =>
    .invoke (Fin.last 0) function (.done (Fin.last 1))

/-- The program, as it runs without a token, and then the one that goes on from its output, in whatever
contexts are in scope by then. -/
def Program.followedBy {last : OutputShape} : {output : OutputShape} → {n : Nat} → Program output n →
    ((m : Nat) → output.Value m → Program last m) → Program last n
  | _, n, .done value, next => next n value
  | _, _, .fail cause, _ => .fail cause
  | _, _, .act action rest, next =>
    match action.withoutToken? with
    | some answer => (rest answer).followedBy next
    | none => .act action fun answer => (rest answer).followedBy next
  | _, _, .introduce origin rest, next => .introduce origin (rest.followedBy next)
  | _, _, .invoke context function rest, next =>
    .invoke context function.relayed (rest.followedBy next)

/-- A renderer and then the backend, on what was rendered. -/
def Program.inTurn (renderer : Program .text 1) (backend : String → Program .text 0) :
    Program .text 1 :=
  renderer.followedBy fun m rendered => (backend rendered).shift m

/-- What callables leave on the trail for themselves. -/
def Event.isNote : Event → Bool
  | .noted _ => true
  | _ => false

section Token
variable {n : Nat} {action : Action n} (scope : Scope n) (s : Session)

theorem Action.perform_of_answer {answer : action.Answer} (known : action.withoutToken? = some answer) :
    action.perform scope none s = (answer, scope, s) := by
  cases action <;> cases known <;> rfl

theorem Action.perform_of_no_answer (unknown : action.withoutToken? = none) (token : Option TokenId) :
    action.perform scope token s = action.perform scope none s := by
  cases action <;> first | rfl | cases unknown

end Token

/-- A relayed function is invoked with a new token, and what it returns is returned. -/
theorem SkillFunction.invoke_relayed (function : SkillFunction) (context : Context) (token : TokenId)
    (s : Session) : ∃ t, s.Alike Event.isNote t ∧
      Session.Agree Event.isNote (function.invoke context.share t.newToken.1 t.newToken.2)
        (function.relayed.invoke context token s) := by
  let verdict := (s.storeOf context).isAllTrusted && true
  let asked :=
    s.record (.consulted (Guard.relay.currentDescriptor s) (s.storeOf context) (.ok verdict))
  let entered := Guard.relay.enter .body context (Guard.relay.logInvoking verdict asked)
  have consent : Guard.relay.consult context s = (.ok verdict, asked) := rfl
  have body : runBody .relay ⟨.context, .context, false⟩
      (fun _ => .invoke (Fin.last 0) function (.done (Fin.last 1))) context token verdict asked =
        (.ok (function.invoke context.share entered.newToken.1 entered.newToken.2).1,
          (function.invoke context.share entered.newToken.1 entered.newToken.2).2) := by
    rw [runBody, Program.run]
    dsimp only
    rw [Program.run]
    rfl
  refine ⟨entered, (((Session.Alike.refl s).drop rfl).drop rfl).drop rfl, ?_⟩
  rw [relayed, invoke_of_body consent body]
  exact ⟨rfl, (Session.Alike.refl _).drop rfl⟩

/-- Goes on from the output of a program, if it gave one. -/
def Program.andThen {shape last : OutputShape} (out : Except Cause shape.Result × Session)
    (next : shape.Result → Session → Except Cause last.Result × Session) :
    Except Cause last.Result × Session :=
  match out with
  | (.error cause, s) => (.error cause, s)
  | (.ok result, s) => next result s

section AndThen
variable {shape last : OutputShape}
  (next : shape.Result → Session → Except Cause last.Result × Session) (s : Session)

@[simp] theorem Program.andThen_error (cause : Cause) :
    Program.andThen (.error cause, s) next = (.error cause, s) := rfl

@[simp] theorem Program.andThen_ok (result : shape.Result) :
    Program.andThen (.ok result, s) next = next result s := rfl

end AndThen

/-- What is to come after a program comes in its place, on the output that the program gives. The induction is
on the program; the two sessions stay alike but for what the relays leave on the trail. -/
theorem Program.run_followedBy {last : OutputShape} {token : TokenId} : {output : OutputShape} →
    {n : Nat} → (program : Program output n) →
    ∀ {next : (m : Nat) → output.Value m → Program last m}
      {after : output.Result → Session → Except Cause last.Result × Session},
      (∀ {m : Nat} (value : output.Value m) (scope : Scope m) {s t : Session},
        s.Alike Event.isNote t → Session.Agree Event.isNote (after (output.result scope value) s)
          ((next m value).run scope (some token) t)) →
      ∀ {scope : Scope n} {s t : Session}, (∀ i, (scope i).Coherent) → s.Alike Event.isNote t →
        Session.Agree Event.isNote (Program.andThen (program.run scope none s) after)
          ((program.followedBy next).run scope (some token) t)
  | _, _, .done value, next, after, goesOn, scope, s, t, coherent, alike => by
    rw [Program.followedBy, Program.run]
    exact goesOn value scope alike
  | _, _, .fail cause, next, after, goesOn, scope, s, t, coherent, alike => by
    rw [Program.followedBy, Program.run, Program.run]
    exact ⟨rfl, alike⟩
  | _, _, .act action rest, next, after, goesOn, scope, s, t, coherent, alike => by
    rw [Program.followedBy, Program.run]
    cases known : action.withoutToken? with
    | some answer =>
      rw [Action.perform_of_answer scope s known]
      exact Program.run_followedBy (rest answer) goesOn coherent alike
    | none =>
      obtain ⟨agree, answer, coherent⟩ := action.perform_agree alike coherent
      dsimp only
      rw [Program.run, Action.perform_of_no_answer scope t known]
      dsimp only
      rw [answer, agree.1]
      exact Program.run_followedBy (rest _) goesOn coherent agree.2
  | _, _, .introduce origin rest, next, after, goesOn, scope, s, t, coherent, alike => by
    obtain ⟨agree, new⟩ := origin.create_agree alike coherent
    rw [Program.followedBy, Program.run, Program.run]
    dsimp only
    rw [agree.1]
    exact Program.run_followedBy rest goesOn (Scope.coherent_push coherent new) agree.2
  | _, _, .invoke context function rest, next, after, goesOn, scope, s, t, coherent, alike => by
    -- The relay takes the new token that the program itself would have taken.
    obtain ⟨entered, quiet, relays⟩ := function.invoke_relayed (scope context).share token t
    obtain ⟨fresh, started⟩ := (Simulation.upTo Event.isNote).newToken (alike.trans quiet)
    obtain ⟨invoked, returned⟩ :=
      function.invoke_agree started (Context.coherent_share (scope context)) s.newToken.1
    have agree := invoked.trans (fresh ▸ relays)
    rw [Program.followedBy, Program.run, Program.run]
    simp only [Session.tokenOrNew]
    rw [agree.1]
    exact Program.run_followedBy rest goesOn (Scope.coherent_push coherent returned) agree.2

/-- The program runs the renderer without the token, and then the backend with it on what was rendered;
if the renderer fails, so does the program. Beside that it may leave its own marks on the trail, but no
notes. -/
def Program.RunsInTurn (code renderer : Program .text 1) (backend : String → Program .text 0) : Prop :=
  ∀ (caller : Context) (token : TokenId) (s : Session), caller.Coherent →
    Session.Agree Event.isNote
      (Program.andThen (renderer.run (Scope.ofContext caller) none s) fun rendered s =>
        (backend rendered).run (Scope.ofContext caller) (some token) s)
      (code.run (Scope.ofContext caller) (some token) s)

/-- There is such a program for every renderer and every backend, whatever they do. -/
theorem Program.inTurn_runsInTurn (renderer : Program .text 1) (backend : String → Program .text 0) :
    (renderer.inTurn backend).RunsInTurn renderer backend := by
  intro caller token s coherent
  refine Program.run_followedBy renderer ?_ (Scope.coherent_ofContext coherent) (.refl s)
  intro m rendered scope u v alike
  have extend : @Scope.Extends m 0 scope (Scope.ofContext caller) := fun i => i.elim0
  rw [Program.run_shift (backend rendered) extend]
  exact (backend rendered).run_agree alike (Scope.coherent_ofContext coherent) (some token)

end TaintTracking
