import TaintTracking.Proofs.Program.Detached
import TaintTracking.Proofs.Program.Output

/-!
The two checkpoints of a semantic function. Main statement: the policy is asked before rendering and,
where it agreed and a prompt was rendered, once more about what rendering left; the completion of that
prompt then takes the main variable over, and is trusted only under the second verdict.
-/

namespace TaintTracking

/-- The policy has no answer of its own for rendered prompts. -/
def Policy.Inherits : Policy → Prop
  | .contextual _ => True
  | .scripted _ _ _ tag => tag = none

theorem Policy.consultRendered_of_inherits {policy : Policy} (inherits : policy.Inherits)
    (descriptor : Descriptor) (context : Context) (rendered : String) (s : Session) :
    policy.consultRendered descriptor context rendered s =
      ((policy.consult descriptor context s).1.map fun trusted => ⟨rendered, trusted⟩,
        (policy.consult descriptor context s).2) := by
  cases policy with
  | contextual defaultTrusted => rfl
  | scripted id label answer tag =>
    obtain rfl : tag = none := inherits
    rfl

/-- One consultation: it is on the trail with what it saw and said, and at most log entries with it. -/
structure Guard.Asks (guard : Guard) (caller : Context) (s : Session)
    (answer : Except TrustError Bool × Session) : Prop where
  consult : guard.consult caller s = answer
  stores : answer.2.stores = s.stores
  trail : ∃ entries : List Log.Entry, answer.2.trail =
    .consulted (guard.currentDescriptor s) (s.storeOf caller) answer.1 ::
      entries.map .logged ++ s.trail

theorem Guard.asks_consult (guard : Guard) (caller : Context) (s : Session) :
    guard.Asks caller s (guard.consult caller s) where
  consult := rfl
  stores := guard.policy.consult_stores (guard.currentDescriptor s) caller s
  trail := guard.policy.consult_trail (guard.currentDescriptor s) caller s

/-- The stages of a semantic function as far as an invocation got, each with what came of it and the
session after it. -/
structure Course where
  asked : Except TrustError Bool × Session
  rendered : Option (Except Cause String × Session)
  askedAgain : Option (Except TrustError Bool × Session)
  completed : Option (Except Cause String × Session)

namespace Course

/-- Each stage is entered if and only if the one before it went well, and on what that one left. -/
structure Follows (guard : Guard) (renderer : Program .text 1) (backend : String → Program .text 0)
    (caller : Context) (token : TokenId) (s : Session) (course : Course) : Prop where
  asked : guard.Asks caller s course.asked
  rendered : ∀ rendering, course.rendered = some rendering ↔
    ∃ verdict t, course.asked = (.ok verdict, t) ∧
      renderer.run (Scope.ofContext caller) none (guard.enter .renderer caller t) = rendering
  askedAgain : ∀ answer, course.askedAgain = some answer ↔
    ∃ prompt t, course.rendered = some (.ok prompt, t) ∧ guard.Asks caller t answer
  completed : ∀ completion, course.completed = some completion ↔
    ∃ prompt t verdict u, course.rendered = some (.ok prompt, t) ∧
      course.askedAgain = some (.ok verdict, u) ∧
        (backend prompt).run (Scope.ofContext caller) (some token)
          (guard.enter .backend caller (guard.logRendered ⟨prompt, verdict⟩ u)) = completion

/-- What the caller is given, by the stage at which the invocation ended. -/
structure Yields (guard : Guard) (caller : Context) (course : Course) (out : Context × Session) :
    Prop where
  denied : ∀ error t, course.asked = (.error error, t) → out = (caller.fail (.untrusted error), t)
  renderFailed : ∀ cause t, course.rendered = some (.error cause, t) →
    out = (caller.fail (guard.failure cause), guard.logSemanticFailed cause t)
  promptDenied : ∀ error t, course.askedAgain = some (.error error, t) →
    out = (caller.fail (.untrusted error), t)
  backendFailed : ∀ cause t, course.completed = some (.error cause, t) →
    out = (caller.fail (guard.failure cause), guard.logSemanticFailed cause t)
  completed : ∀ prompt t verdict u completion v, course.rendered = some (.ok prompt, t) →
    course.askedAgain = some (.ok verdict, u) → course.completed = some (.ok completion, v) →
      out.1 = caller ∧ out.2.trail =
        .completed guard.descriptor .text verdict (guard.forcesUntrusted v) :: v.trail ∧
      out.2.storeOf caller =
        { main := ⟨completion,
            (t.storeOf caller).main.trusted && verdict && !guard.forcesUntrusted v⟩
          others := (t.storeOf caller).others }

/-- What comes of the second consultation where the policy is the contextual one. -/
structure Contextual (guard : Guard) (caller : Context) (defaultTrusted : Bool) (course : Course)
    (out : Context × Session) : Prop where
  verdict : ∀ prompt t verdict u, course.rendered = some (.ok prompt, t) →
    course.askedAgain = some (.ok verdict, u) →
      verdict = ((t.storeOf caller).isAllTrusted && defaultTrusted)
  agrees : ∀ prompt t, course.rendered = some (.ok prompt, t) →
    (guard.descriptor.isSensitive = true → (t.storeOf caller).isAllTrusted = true) →
      ∃ verdict u, course.askedAgain = some (.ok verdict, u)
  blocks : ∀ prompt t, course.rendered = some (.ok prompt, t) →
    (∃ slot ∈ (t.storeOf caller).slots, slot.value.trusted = false) →
      guard.descriptor.isSensitive = true →
        course.completed = none ∧ out.1 = caller.fail (.untrusted guard.blocked) ∧
          out.2.stores = t.stores
  untrusts : ∀ prompt t completion v, course.rendered = some (.ok prompt, t) →
    (∃ slot ∈ (t.storeOf caller).slots, slot.value.trusted = false) →
      course.completed = some (.ok completion, v) →
        (out.2.storeOf caller).main = ⟨completion, false⟩

/-- What comes after a stage, if it was entered and went well. -/
def andThen {ε α β : Type} (stage : Option (Except ε α × Session)) (next : α → Session → Option β) :
    Option β :=
  match stage with
  | some (.ok value, t) => next value t
  | _ => none

theorem andThen_eq_some {ε α β : Type} {stage : Option (Except ε α × Session)}
    {next : α → Session → Option β} {result : β} :
    andThen stage next = some result ↔
      ∃ value t, stage = some (.ok value, t) ∧ next value t = some result := by
  constructor
  · intro entered
    match stage, entered with
    | some (.ok value, t), entered => exact ⟨value, t, rfl, entered⟩
  · rintro ⟨value, t, rfl, entered⟩
    exact entered

end Course

/-- The course that the invocation of a semantic function takes. -/
def Guard.course (guard : Guard) (renderer : Program .text 1) (backend : String → Program .text 0)
    (caller : Context) (token : TokenId) (s : Session) : Course :=
  let asked := guard.consult caller s
  let rendered := Course.andThen (some asked) fun _ t =>
    some (renderer.run (Scope.ofContext caller) none (guard.enter .renderer caller t))
  let askedAgain := Course.andThen rendered fun _ t => some (guard.consult caller t)
  let completed := Course.andThen rendered fun prompt _ => Course.andThen askedAgain fun verdict t =>
    some ((backend prompt).run (Scope.ofContext caller) (some token)
      (guard.enter .backend caller (guard.logRendered ⟨prompt, verdict⟩ t)))
  ⟨asked, rendered, askedAgain, completed⟩

theorem Guard.course_follows (guard : Guard) (renderer : Program .text 1)
    (backend : String → Program .text 0) (caller : Context) (token : TokenId) (s : Session) :
    (guard.course renderer backend caller token s).Follows guard renderer backend caller token s := by
  constructor
  · exact guard.asks_consult caller s
  · intro rendering
    simp only [Guard.course, Course.andThen_eq_some, Option.some.injEq]
  · intro answer
    have asks : ∀ t, guard.Asks caller t answer ↔ guard.consult caller t = answer :=
      fun t => ⟨(·.consult), fun same => same ▸ guard.asks_consult caller t⟩
    simp only [asks, Guard.course, Course.andThen_eq_some, Option.some.injEq]
  · intro completion
    constructor
    · intro completed
      obtain ⟨prompt, t, rendered, rest⟩ := Course.andThen_eq_some.mp completed
      obtain ⟨verdict, u, askedAgain, ran⟩ := Course.andThen_eq_some.mp rest
      exact ⟨prompt, t, verdict, u, rendered, askedAgain, Option.some.inj ran⟩
    · rintro ⟨prompt, t, verdict, u, rendered, askedAgain, ran⟩
      refine Course.andThen_eq_some.mpr ⟨prompt, t, rendered, ?_⟩
      exact Course.andThen_eq_some.mpr ⟨verdict, u, askedAgain, congrArg some ran⟩

namespace Course
variable {guard : Guard} {renderer : Program .text 1} {backend : String → Program .text 0}
  {caller : Context} {token : TokenId} {s : Session} {course : Course}

namespace Follows
variable (follows : course.Follows guard renderer backend caller token s)
include follows

theorem runRenderer_of_rendered {rendering : Except Cause String × Session}
    (rendered : course.rendered = some rendering) :
    ∃ verdict t, guard.consult caller s = (.ok verdict, t) ∧
      SkillFunction.runRenderer guard renderer caller t = rendering := by
  obtain ⟨verdict, t, asked, ran⟩ := (follows.rendered _).mp rendered
  exact ⟨verdict, t, follows.asked.consult.trans asked, ran⟩

section Prompt
variable {prompt : String} {t : Session} (rendered : course.rendered = some (.ok prompt, t))
include rendered

theorem asks_again {answer : Except TrustError Bool × Session}
    (askedAgain : course.askedAgain = some answer) : guard.Asks caller t answer := by
  obtain ⟨prompt', t', rendered', asks⟩ := (follows.askedAgain _).mp askedAgain
  cases rendered.symm.trans rendered'
  exact asks

theorem consultRendered_of_askedAgain (inherits : guard.policy.Inherits)
    {answer : Except TrustError Bool} {u : Session} (askedAgain : course.askedAgain = some (answer, u)) :
    guard.consultRendered caller prompt t =
      (answer.map fun trusted => ⟨prompt, trusted⟩, u) := by
  have asked : guard.policy.consult (guard.currentDescriptor t) caller t = (answer, u) :=
    (follows.asks_again rendered askedAgain).consult
  rw [Guard.consultRendered, Policy.consultRendered_of_inherits inherits, asked]

theorem runBackend_of_completed {verdict : Bool} {u : Session}
    {completion : Except Cause String × Session} (askedAgain : course.askedAgain = some (.ok verdict, u))
    (completed : course.completed = some completion) :
    SkillFunction.runBackend guard backend caller token ⟨prompt, verdict⟩ u = completion := by
  obtain ⟨prompt', t', verdict', u', rendered', askedAgain', ran⟩ :=
    (follows.completed _).mp completed
  cases rendered.symm.trans rendered'
  cases askedAgain.symm.trans askedAgain'
  exact ran

/-- A backend is given no context, and so leaves the variables of the caller as rendering left them. -/
theorem storeOf_of_completed (known : s.HasStore caller) {verdict : Bool} {u v : Session}
    {completion : Except Cause String} (askedAgain : course.askedAgain = some (.ok verdict, u))
    (completed : course.completed = some (completion, v)) : v.storeOf caller = t.storeOf caller := by
  obtain ⟨first, asked, consent, render⟩ := follows.runRenderer_of_rendered rendered
  have again := follows.asks_again rendered askedAgain
  have later : s.issued ≤ u.issued := by
    have rendering := SkillFunction.issued_le_runRenderer guard renderer caller asked
    rw [render, Guard.issued_of_consult consent] at rendering
    rwa [Guard.issued_of_consult again.consult]
  have old : caller.store < u.issued := Nat.lt_of_lt_of_le known later
  have ran := follows.runBackend_of_completed rendered askedAgain completed
  have kept := (backend prompt).stores_run_detached (Scope.ofContext caller) (some token)
    (guard.enter .backend caller (guard.logRendered ⟨prompt, verdict⟩ u)) old
  calc v.storeOf caller = u.stores caller.store := by
        rw [show v = _ from (congrArg Prod.snd ran).symm]
        exact kept
    _ = t.storeOf caller := congrFun again.stores caller.store

end Prompt

/-- The invocation of a semantic function ends as its course does. -/
theorem yields (inherits : guard.policy.Inherits) (known : s.HasStore caller) :
    course.Yields guard caller
      ((SkillFunction.semantic guard renderer backend).invoke caller token s) := by
  constructor
  · intro error t asked
    have denial : (SkillFunction.semantic guard renderer backend).guard.consult caller s =
        (.error error, t) := follows.asked.consult.trans asked
    exact (SkillFunction.Exit.denied denial).invoke_eq
  · intro cause t rendered
    obtain ⟨verdict, asked, consent, render⟩ := follows.runRenderer_of_rendered rendered
    exact (SkillFunction.Exit.renderFailed consent render).invoke_eq
  · intro error u askedAgain
    obtain ⟨prompt, t, rendered, -⟩ := (follows.askedAgain _).mp askedAgain
    obtain ⟨verdict, asked, consent, render⟩ := follows.runRenderer_of_rendered rendered
    have denial := follows.consultRendered_of_askedAgain rendered inherits askedAgain
    exact (SkillFunction.Exit.promptDenied consent render denial).invoke_eq
  · intro cause v completed
    obtain ⟨prompt, t, verdict, u, rendered, askedAgain, -⟩ := (follows.completed _).mp completed
    obtain ⟨first, asked, consent, render⟩ := follows.runRenderer_of_rendered rendered
    have tag := follows.consultRendered_of_askedAgain rendered inherits askedAgain
    have ran := follows.runBackend_of_completed rendered askedAgain completed
    exact (SkillFunction.Exit.backendFailed consent render tag ran).invoke_eq
  · intro prompt t verdict u completion v rendered askedAgain completed
    obtain ⟨first, asked, consent, render⟩ := follows.runRenderer_of_rendered rendered
    have tag := follows.consultRendered_of_askedAgain rendered inherits askedAgain
    have ran := follows.runBackend_of_completed rendered askedAgain completed
    have same := follows.storeOf_of_completed rendered known askedAgain completed
    have store := OutputShape.settle_store caller (verdict && !guard.forcesUntrusted v)
      (guard.complete .text verdict (guard.forcesUntrusted v) v)
      (show OutputShape.text ≠ .context by decide) completion
    rw [(SkillFunction.Exit.backendDone consent render tag ran).invoke_eq]
    refine ⟨rfl, rfl, store.trans ?_⟩
    rw [show Session.storeOf (guard.complete .text verdict _ v) caller = _ from same, Bool.and_assoc]
    rfl

/-- The backend is not entered on a prompt that was denied. -/
theorem completed_of_denial {error : TrustError} {u : Session}
    (denial : course.askedAgain = some (.error error, u)) : course.completed = none := by
  apply Option.eq_none_iff_forall_ne_some.mpr
  intro completion completed
  obtain ⟨_, _, verdict, u', -, agreed, -⟩ := (follows.completed _).mp completed
  cases denial.symm.trans agreed

section Contextual
variable {defaultTrusted : Bool} (policy : guard.policy = .contextual defaultTrusted) {prompt : String}
  {t : Session} (rendered : course.rendered = some (.ok prompt, t))
include policy rendered

theorem answer_of_contextual : ∃ u, course.askedAgain =
    some (Policy.contextualVerdict defaultTrusted guard.descriptor (t.storeOf caller), u) := by
  have asks := guard.asks_consult caller t
  refine ⟨(guard.consult caller t).2, (follows.askedAgain _).mpr ⟨prompt, t, rendered, ?_⟩⟩
  rwa [Guard.verdict_of_consult policy (show guard.consult caller t = (_, _) from rfl)]

theorem verdict_of_contextual {verdict : Bool} {u : Session}
    (askedAgain : course.askedAgain = some (.ok verdict, u)) :
    verdict = ((t.storeOf caller).isAllTrusted && defaultTrusted) := by
  have asks := follows.asks_again rendered askedAgain
  exact (Policy.contextualVerdict_eq_ok.mp (Guard.verdict_of_consult policy asks.consult)).2

end Contextual

theorem contextual {defaultTrusted : Bool} (policy : guard.policy = .contextual defaultTrusted)
    (known : s.HasStore caller) :
    course.Contextual guard caller defaultTrusted
      ((SkillFunction.semantic guard renderer backend).invoke caller token s) := by
  have inherits : guard.policy.Inherits := by
    rw [policy]
    trivial
  have yields := follows.yields inherits known
  constructor
  · intro prompt t verdict u rendered askedAgain
    exact follows.verdict_of_contextual policy rendered askedAgain
  · intro prompt t rendered trusted
    obtain ⟨u, answer⟩ := follows.answer_of_contextual policy rendered
    rw [Policy.contextualVerdict_eq_ok.mpr ⟨trusted, rfl⟩] at answer
    exact ⟨_, u, answer⟩
  · intro prompt t rendered tainted sensitive
    obtain ⟨u, answer⟩ := follows.answer_of_contextual policy rendered
    have untrusted := (Store.isAllTrusted_eq_false_iff _).mpr tainted
    rw [Policy.contextualVerdict_eq_error.mpr ⟨sensitive, untrusted, rfl⟩] at answer
    rw [yields.promptDenied _ u answer]
    exact ⟨follows.completed_of_denial answer, rfl, (follows.asks_again rendered answer).stores⟩
  · intro prompt t completion v rendered tainted completed
    obtain ⟨_, _, verdict, u, rendered', askedAgain, -⟩ := (follows.completed _).mp completed
    cases rendered.symm.trans rendered'
    have refused : verdict = false := by
      rw [follows.verdict_of_contextual policy rendered askedAgain,
        (Store.isAllTrusted_eq_false_iff _).mpr tainted, Bool.false_and]
    obtain ⟨-, -, store⟩ := yields.completed prompt t verdict u completion v rendered askedAgain completed
    rw [store, refused, Bool.and_false, Bool.false_and]

end Follows

end Course

namespace SkillFunction

/-- The two checkpoints of a semantic function, whatever its policy answers, and whatever its renderer and
its backend do. The session need only know the store of the caller. -/
theorem invoke_semantic_checkpoints {guard : Guard} (inherits : guard.policy.Inherits)
    (renderer : Program .text 1) (backend : String → Program .text 0) {caller : Context}
    (token : TokenId) {s : Session} (known : s.HasStore caller) :
    let course := guard.course renderer backend caller token s
    let out := (semantic guard renderer backend).invoke caller token s
    course.Follows guard renderer backend caller token s ∧ course.Yields guard caller out ∧
      ∀ defaultTrusted, guard.policy = .contextual defaultTrusted →
        course.Contextual guard caller defaultTrusted out := by
  have follows := guard.course_follows renderer backend caller token s
  exact ⟨follows, follows.yields inherits known, fun _ policy => follows.contextual policy known⟩

def digestGuard : Guard := ⟨Descriptor.new "desk" "digest", 4, .contextual true⟩

/-- A renderer that brings an untrusted variable in. -/
def clip : Program .text 1 :=
  .act (.edit (Fin.last 0) (.set "Clip" (some "page") false)) fun _ => @Program.done .text 1 "digest"

def digest (prompt : String) : Program .text 0 := @Program.done .text 0 (prompt ++ "!")

/-- The main variable was trusted, and so was the first verdict. -/
theorem invoke_semantic_checkpoints_digest :
    let s := (Session.empty.newContext (Store.ofMain (TaintedValue.ofText "mail"))).2
    let caller := Context.new 0 0
    let out := (semantic digestGuard clip digest).invoke caller 7 s
    digestGuard.policy.Inherits ∧ s.HasStore caller ∧ s.isTrusted caller = true ∧
      (digestGuard.course clip digest caller 7 s).asked.1 = .ok true ∧
      (out.2.storeOf caller).main = ⟨"digest!", false⟩ := by
  intro s caller out
  have inherits : digestGuard.policy.Inherits := trivial
  have known : s.HasStore caller := by decide
  have law := invoke_semantic_checkpoints inherits clip digest 7 known
  refine ⟨inherits, known, by decide, rfl, ?_⟩
  refine (law.2.2 true rfl).untrusts _ _ _ _ rfl ?_ rfl
  decide

end SkillFunction

end TaintTracking
