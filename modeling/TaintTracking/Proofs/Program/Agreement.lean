import TaintTracking.Proofs.Program.InTurn

/-!
The two adapters do the same where they can be compared. Main statement: a semantic function whose renderer
leaves the variables alone, and a native function whose body runs the same renderer and then the same
backend, come to the same end under the contextual policy.
-/

namespace TaintTracking

/-! What adapters leave on the trail is no note. -/

section Quiet
variable {s t : Session} (alike : s.Alike Event.isNote t)
include alike

theorem Session.Alike.log (entry : Log.Entry) : s.Alike Event.isNote (t.log entry) := alike.drop rfl

theorem Session.Alike.enter (guard : Guard) (role : Role) (caller : Context) :
    s.Alike Event.isNote (guard.enter role caller t) := alike.drop rfl

end Quiet

namespace Guard
variable {guard : Guard} {defaultTrusted : Bool} (policy : guard.policy = .contextual defaultTrusted)
  (caller : Context) (s : Session)
include policy

/-- The contextual policy answers by the variables, and leaves nothing but its trace. -/
theorem consult_contextual : ∃ t,
    guard.consult caller s =
        (Policy.contextualVerdict defaultTrusted guard.descriptor (s.storeOf caller), t) ∧
      s.Alike Event.isNote t := by
  rw [Guard.consult, policy]
  refine ⟨_, rfl, Session.Alike.drop ?_ rfl⟩
  unfold Policy.logVerdict
  split
  · exact (Session.Alike.refl s).drop rfl
  · exact .refl s

theorem tagged_of_contextual {rendered : String} {tagged : Except TrustError TaintedValue}
    {t : Session} (consulted : guard.consultRendered caller rendered s = (tagged, t)) :
    tagged = (Policy.contextualVerdict defaultTrusted guard.descriptor (s.storeOf caller)).map
        (fun trusted => ⟨rendered, trusted⟩) ∧
      s.Alike Event.isNote t := by
  obtain ⟨u, asked, quiet⟩ := consult_contextual policy caller s
  rw [Guard.consult, policy] at asked
  rw [Guard.consultRendered, policy, Policy.consultRendered, asked] at consulted
  · cases consulted
    exact ⟨rfl, quiet⟩
  · intro id label answer tag same
    cases same

end Guard

/-- Guards of the same skill and name, with the same policy, that are alike in all that decides about an
output when a function is invoked in `s`. -/
structure Guard.SameTerms (guard guard' : Guard) (s : Session) : Prop where
  skill : guard'.descriptor.skill = guard.descriptor.skill
  function : guard'.descriptor.function = guard.descriptor.function
  sensitive : guard'.descriptor.isSensitive = guard.descriptor.isSensitive
  policy : guard'.policy = guard.policy
  forced : guard'.forcesUntrusted s = guard.forcesUntrusted s

namespace Guard.SameTerms
variable {guard guard' : Guard} {s : Session} (same : guard.SameTerms guard' s)
include same

theorem contextualVerdict (defaultTrusted : Bool) (store : Store) :
    Policy.contextualVerdict defaultTrusted guard'.descriptor store =
      Policy.contextualVerdict defaultTrusted guard.descriptor store := by
  simp only [Policy.contextualVerdict, Policy.blocked, same.sensitive, same.skill, same.function]

theorem failure (cause : Cause) : guard'.failure cause = guard.failure cause := by
  simp only [Guard.failure, same.skill, same.function]

end Guard.SameTerms

theorem Guard.forcesUntrusted_of_alike (guard : Guard) {kept : Event → Bool} {s t : Session}
    (alike : s.Alike kept t) : guard.forcesUntrusted t = guard.forcesUntrusted s := by
  rw [Guard.forcesUntrusted, alike.forced, Guard.forcesUntrusted]

namespace SkillFunction

/-- An asynchronous body gets the context of its caller, where no error is recorded on it. -/
theorem runBody_of_clean {guard : Guard} {code : Unit → Program .text 1} {caller : Context}
    (coherent : caller.Coherent) (clean : caller.hasError = false) (token : TokenId) (verdict : Bool)
    (s : Session) :
    runBody guard ⟨.context, .text, true⟩ code caller token verdict s =
      (code ()).run (Scope.ofContext caller) (some token)
        (guard.enter .body caller (guard.logInvoking verdict s)) := by
  have same : caller.share = caller := coherent.clearError clean
  unfold runBody
  simp only [Shape.given, Shape.token, if_true, same]

/-! What the semantic function runs, against the body of the native one. Both start after a consultation that
left the variables alone. -/

section Body
variable {guard guard' : Guard} {code renderer : Program .text 1} {backend : String → Program .text 0}
  {caller : Context} {token : TokenId} {s asked asked' u : Session}
  (runsInTurn : code.RunsInTurn renderer backend) (coherent : caller.Coherent)
  (quiet : s.Alike Event.isNote asked) (quiet' : s.Alike Event.isNote asked') (trusted : Bool)
include runsInTurn coherent quiet quiet'

theorem body_agree {result : Except Cause OutputShape.text.Result}
    (render : runRenderer guard renderer caller asked = (result, u)) :
    ∃ v, u.Alike Event.isNote v ∧
      Session.Agree Event.isNote
        (Program.andThen (result, v) fun rendered v =>
          (backend rendered).run (Scope.ofContext caller) (some token) v)
        (code.run (Scope.ofContext caller) (some token)
          (guard'.enter .body caller (guard'.logInvoking trusted asked'))) := by
  have entered' : s.Alike Event.isNote (guard'.enter .body caller (guard'.logInvoking trusted asked')) :=
    (quiet'.log _).enter guard' .body caller
  have renders := renderer.run_agree ((quiet.enter guard .renderer caller).symm.trans entered')
    (Scope.coherent_ofContext coherent) none
  rw [← runRenderer, render] at renders
  obtain ⟨v, ran, alike⟩ := renders.exists_eq
  refine ⟨v, alike, ?_⟩
  rw [← ran]
  exact runsInTurn caller token _ coherent

theorem body_agree_of_renderFailed {cause : Cause}
    (render : runRenderer guard renderer caller asked = (.error cause, u)) :
    Session.Agree Event.isNote (.error cause, u) (code.run (Scope.ofContext caller) (some token)
      (guard'.enter .body caller (guard'.logInvoking trusted asked'))) := by
  obtain ⟨v, alike, body⟩ := body_agree runsInTurn coherent quiet quiet' trusted render
  rw [Program.andThen_error] at body
  obtain ⟨same, later⟩ := body
  exact ⟨same, alike.trans later⟩

theorem body_agree_of_rendered {rendered : String} {prompt : TaintedValue} {tagged w : Session}
    {result : Except Cause String}
    (render : runRenderer guard renderer caller asked = (.ok rendered, u))
    (quietly : u.Alike Event.isNote tagged) (same : prompt.content = rendered)
    (backendRun : runBackend guard backend caller token prompt tagged = (result, w)) :
    Session.Agree Event.isNote (result, w) (code.run (Scope.ofContext caller) (some token)
      (guard'.enter .body caller (guard'.logInvoking trusted asked'))) := by
  obtain ⟨v, alike, body⟩ := body_agree runsInTurn coherent quiet quiet' trusted render
  rw [Program.andThen_ok, ← same] at body
  have resumed : v.Alike Event.isNote
      (guard.enter .backend caller (guard.logRendered prompt tagged)) :=
    ((alike.symm.trans quietly).log _).enter guard .backend caller
  have completes := (backend prompt.content).run_agree resumed.symm (Scope.coherent_ofContext coherent)
    (some token)
  rw [← runBackend, backendRun] at completes
  exact completes.trans body

end Body

section Native
variable {guard guard' : Guard} {code : Unit → Program .text 1} {caller : Context} {token : TokenId}
  {s t u : Session} {trusted : Bool} (coherent : caller.Coherent) (clean : caller.hasError = false)
  (consent : guard'.consult caller s = (.ok trusted, t))
include coherent clean consent

/-- Where the body fails, the native function fails as a semantic one does. -/
theorem native_agree_of_error (same : guard.SameTerms guard' s) {cause : Cause}
    (body : Session.Agree Event.isNote (.error cause, u)
      ((code ()).run (Scope.ofContext caller) (some token)
        (guard'.enter .body caller (guard'.logInvoking trusted t)))) :
    Session.Agree Event.isNote
      (caller.fail (guard.failure cause), guard.logSemanticFailed cause u)
      ((native guard' ⟨.context, .text, true⟩ code).invoke caller token s) := by
  obtain ⟨w, ran, alike⟩ := body.exists_eq
  rw [← runBody_of_clean coherent clean] at ran
  rw [invoke_native, consent]
  dsimp only
  rw [ran]
  exact ⟨congrArg caller.fail (same.failure cause), alike.dropBoth rfl rfl⟩

/-- Where the body succeeds, the native function lets the text in as a semantic one does, if the flag
stands as it did before the body. -/
theorem native_agree_of_ok {completion : String} {forced : Bool}
    (sameForce : guard'.forcesUntrusted t = forced)
    (body : Session.Agree Event.isNote (.ok completion, u)
      ((code ()).run (Scope.ofContext caller) (some token)
        (guard'.enter .body caller (guard'.logInvoking trusted t)))) :
    Session.Agree Event.isNote
      (OutputShape.text.settle caller (trusted && !forced) (guard.complete .text trusted forced u)
        completion)
      ((native guard' ⟨.context, .text, true⟩ code).invoke caller token s) := by
  obtain ⟨w, ran, alike⟩ := body.exists_eq
  rw [← runBody_of_clean coherent clean] at ran
  rw [invoke_of_body consent ran, sameForce]
  exact ⟨rfl, (alike.dropBoth rfl rfl).edit caller _⟩

end Native

/-- Under the contextual policy, a semantic function and a native one that runs the same two callables in
turn come to the same end, whichever way the invocation goes: the same context with the same error, the same
variables, and the same notes of the callables, so that each of these was entered as often. There is
such a native function for any two callables. -/
theorem adapters_agree {guard guard' : Guard} {renderer : Program .text 1}
    {backend : String → Program .text 0} {caller : Context} {token : TokenId} {s : Session}
    (contextual : guard.IsContextual) (same : guard.SameTerms guard' s)
    (coherent : caller.Coherent) (clean : caller.hasError = false)
    (reads : renderer.Keeps (Scope.ofContext caller) none fun t =>
      t.storeOf caller = s.storeOf caller ∧ guard.forcesUntrusted t = guard.forcesUntrusted s)
    (leaves : ∀ prompt, (backend prompt).Keeps (Scope.ofContext caller) (some token) fun t =>
      guard.forcesUntrusted t = guard.forcesUntrusted s) :
    (∃ code : Program .text 1, code.RunsInTurn renderer backend) ∧
      ∀ code : Unit → Program .text 1, (code ()).RunsInTurn renderer backend →
        Session.Agree Event.isNote ((semantic guard renderer backend).invoke caller token s)
          ((native guard' ⟨.context, .text, true⟩ code).invoke caller token s) := by
  refine ⟨⟨_, renderer.inTurn_runsInTurn backend⟩, fun code runsInTurn => ?_⟩
  obtain ⟨defaultTrusted, policy⟩ := contextual
  obtain ⟨asked, ask, quiet⟩ := Guard.consult_contextual policy caller s
  obtain ⟨asked', ask', quiet'⟩ := Guard.consult_contextual (same.policy.trans policy) caller s
  rw [same.contextualVerdict] at ask'
  have sameForce : guard'.forcesUntrusted asked' = guard.forcesUntrusted s :=
    (guard'.forcesUntrusted_of_alike quiet').trans same.forced
  have entered := quiet.enter guard .renderer caller
  have kept : ∀ {result u}, runRenderer guard renderer caller asked = (result, u) →
      u.storeOf caller = s.storeOf caller ∧ guard.forcesUntrusted u = guard.forcesUntrusted s :=
    fun render => reads.of_run ⟨Session.storeOf_congr entered.stores caller,
      guard.forcesUntrusted_of_alike entered⟩ render
  have exit := (semantic guard renderer backend).invoke_exit caller token s
  generalize (semantic guard renderer backend).invoke caller token s = out at exit ⊢
  cases exit with
  | denied denial =>
    obtain ⟨refused, rfl⟩ := Prod.mk.inj (ask.symm.trans denial)
    rw [refused] at ask'
    rw [invoke_native, ask']
    exact ⟨rfl, quiet.symm.trans quiet'⟩
  | renderFailed consent render =>
    obtain ⟨agreed, rfl⟩ := Prod.mk.inj (ask.symm.trans consent)
    rw [agreed] at ask'
    exact native_agree_of_error coherent clean ask' same
      (body_agree_of_renderFailed runsInTurn coherent quiet quiet' _ render)
  | promptDenied consent render denial =>
    obtain ⟨agreed, rfl⟩ := Prod.mk.inj (ask.symm.trans consent)
    have tagged := (Guard.tagged_of_contextual policy caller _ denial).1
    rw [(kept render).1, agreed] at tagged
    cases tagged
  | backendFailed consent render tag backendRun =>
    obtain ⟨agreed, rfl⟩ := Prod.mk.inj (ask.symm.trans consent)
    obtain ⟨tagged, quietly⟩ := Guard.tagged_of_contextual policy caller _ tag
    rw [(kept render).1, agreed] at tagged
    cases tagged
    rw [agreed] at ask'
    exact native_agree_of_error coherent clean ask' same
      (body_agree_of_rendered runsInTurn coherent quiet quiet' _ render quietly rfl backendRun)
  | backendDone consent render tag backendRun =>
    obtain ⟨agreed, rfl⟩ := Prod.mk.inj (ask.symm.trans consent)
    obtain ⟨tagged, quietly⟩ := Guard.tagged_of_contextual policy caller _ tag
    rw [(kept render).1, agreed] at tagged
    cases tagged
    rw [agreed] at ask'
    -- The semantic function reads its flag after the backend, the native one before its body.
    have keptForce := (leaves _).of_run ((guard.forcesUntrusted_of_alike
      ((quietly.log _).enter guard .backend caller)).trans (kept render).2) backendRun
    exact native_agree_of_ok coherent clean ask' (sameForce.trans keptForce.symm)
      (body_agree_of_rendered runsInTurn coherent quiet quiet' _ render quietly rfl backendRun)

/-- Quotes the main variable. -/
def quote : Program .text 1 :=
  .act (.note "quoting") fun _ => .act (.observe (Fin.last 0)) fun seen =>
    @Program.done .text 1 ("> " ++ seen.store.main.content)

/-- Takes its time over the prompt, and calls the run off. -/
def reply (prompt : String) : Program .text 0 :=
  .act (.note "replying") fun _ => .act (.sleep 5) fun _ => .act .cancel fun _ =>
    @Program.done .text 0 (prompt ++ "?")

def quoteGuard : Guard :=
  ⟨{ Descriptor.new "desk" "reply" with isSemantic := true }, 1, .contextual true⟩

def replyGuard : Guard := ⟨Descriptor.new "desk" "reply", 2, .contextual true⟩

/-- On an untrusted page, both answer untrusted. -/
theorem adapters_agree_quoteThenReply :
    let page := Session.empty.edit (Context.new 0 0) (.updateMain "page" false)
    quoteGuard.IsContextual ∧ quoteGuard.SameTerms replyGuard page ∧
      (Context.new 0 0).Coherent ∧ (Context.new 0 0).hasError = false ∧
      (quote.Keeps (Scope.ofContext (Context.new 0 0)) none fun t =>
        t.storeOf (Context.new 0 0) = page.storeOf (Context.new 0 0) ∧
          quoteGuard.forcesUntrusted t = quoteGuard.forcesUntrusted page) ∧
      (∀ prompt, (reply prompt).Keeps (Scope.ofContext (Context.new 0 0)) (some 7) fun t =>
        quoteGuard.forcesUntrusted t = quoteGuard.forcesUntrusted page) ∧
      (quote.inTurn reply).RunsInTurn quote reply ∧
      Session.Agree Event.isNote ((semantic quoteGuard quote reply).invoke (Context.new 0 0) 7 page)
        ((native replyGuard ⟨.context, .text, true⟩ fun _ => quote.inTurn reply).invoke
          (Context.new 0 0) 7 page) := by
  intro page
  have contextual : quoteGuard.IsContextual := ⟨true, rfl⟩
  have same : quoteGuard.SameTerms replyGuard page := ⟨rfl, rfl, rfl, rfl, rfl⟩
  have reads : quote.Keeps (Scope.ofContext (Context.new 0 0)) none fun t =>
      t.storeOf (Context.new 0 0) = page.storeOf (Context.new 0 0) ∧
        quoteGuard.forcesUntrusted t = quoteGuard.forcesUntrusted page := by
    intro t before
    simp only [quote, Program.run]
    exact before
  have leaves : ∀ prompt, (reply prompt).Keeps (Scope.ofContext (Context.new 0 0)) (some 7) fun t =>
      quoteGuard.forcesUntrusted t = quoteGuard.forcesUntrusted page := by
    intro prompt t before
    simp only [reply, Program.run]
    simp only [Guard.forcesUntrusted] at before ⊢
    rw [← before]
    exact congrArg (fun forced => (forced quoteGuard.flag).getD false)
      (Session.sleep_forced (t.record (.noted "replying")) 5)
  have coherent : (Context.new 0 0).Coherent := rfl
  have runs := quote.inTurn_runsInTurn reply
  exact ⟨contextual, same, coherent, rfl, reads, leaves, runs,
    (adapters_agree contextual same coherent rfl reads leaves).2 (fun _ => quote.inTurn reply) runs⟩

end SkillFunction

end TaintTracking
