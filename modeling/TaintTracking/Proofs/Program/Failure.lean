import TaintTracking.Proofs.Program.Exit
import TaintTracking.Proofs.Program.Guard

/-!
How an invocation fails. Main statement: an invocation that fails gives the caller its own context back, with
this failure in place of any earlier error and with the variables as the last callable left them; an
invocation that does not fail lets an output in.
-/

namespace TaintTracking

/-- What an adapter leaves on the trail when it gives up: a consultation, and log entries. -/
def Event.IsReport : Event → Prop
  | .consulted _ _ _ => True
  | .logged _ => True
  | _ => False

theorem Event.IsCheck.isReport {descriptor : Descriptor} {store : Store}
    {verdict : Except TrustError Bool} :
    (event : Event) → event.IsCheck descriptor store verdict → event.IsReport
  | .consulted _ _ _, _ => trivial
  | .logged _, _ => trivial

/-- The output of the function was let in, as the last thing that happened. -/
def Guard.Completes (guard : Guard) (out : Context × Session) : Prop :=
  ∃ output verdict forced trail,
    out.2.trail = .completed guard.descriptor output verdict forced :: trail

/-- An invocation that ended in `out` with the failure `error`, where `left` is the session before the
adapter gave up. -/
structure Guard.GivesUp (guard : Guard) (caller : Context) (error : InvocationError) (left : Session)
    (out : Context × Session) : Prop where
  run : out.1.run = caller.run
  store : out.1.store = caller.store
  recorded : out.1.error = some error
  description : out.1.description = error.message
  stores : out.2.stores = left.stores
  session : ∃ consultations trail, out.2 = { left with consultations, trail }
  reports : left.Records Event.IsReport out.2
  incomplete : ¬guard.Completes out

namespace Guard
variable {guard : Guard} {caller : Context} {left t : Session}

theorem not_completes_of_trail {out : Context × Session} {event : Event} {trail : List Event}
    (head : out.2.trail = event :: trail) (report : event.IsReport) : ¬guard.Completes out := by
  rintro ⟨output, verdict, forced, earlier, completed⟩
  obtain rfl : event = _ := (List.cons.inj (head.symm.trans completed)).1
  exact report

theorem givesUp_of_denial {error : TrustError} (denial : guard.consult caller left = (.error error, t)) :
    guard.GivesUp caller (.untrusted error) left (caller.fail (.untrusted error), t) := by
  have after : (guard.policy.consult (guard.currentDescriptor left) caller left).2 = t :=
    congrArg Prod.snd denial
  have session := guard.consult_session caller left
  obtain ⟨entries, trail⟩ := guard.policy.consult_trail (guard.currentDescriptor left) caller left
  rw [after] at trail
  rw [denial] at session
  exact ⟨rfl, rfl, rfl, rfl, stores_of_consult denial, session,
    (records_of_consult denial).mono Event.IsCheck.isReport, not_completes_of_trail trail trivial⟩

theorem givesUp_of_promptDenial {rendered : String} {error : TrustError}
    (denial : guard.consultRendered caller rendered left = (.error error, t)) :
    guard.GivesUp caller (.untrusted error) left (caller.fail (.untrusted error), t) := by
  have after : (guard.policy.consultRendered (guard.currentDescriptor left) caller rendered left).2 = t :=
    congrArg Prod.snd denial
  have stores := stores_of_consultRendered denial
  have reports := (records_of_consultRendered denial).mono Event.IsCheck.isReport
  rcases guard.policy.consultRendered_cases (guard.currentDescriptor left) caller left rendered with
    inherited | ⟨id, tagged, own⟩
  · have session := guard.policy.consult_session (guard.currentDescriptor left) caller left
    obtain ⟨entries, trail⟩ := guard.policy.consult_trail (guard.currentDescriptor left) caller left
    rw [inherited] at after
    rw [after] at session trail
    exact ⟨rfl, rfl, rfl, rfl, stores, session, reports, not_completes_of_trail trail trivial⟩
  · rw [own] at after
    subst after
    exact ⟨rfl, rfl, rfl, rfl, stores, ⟨_, _, rfl⟩, reports, not_completes_of_trail rfl trivial⟩

/-- A callable that fails is reported in the log. -/
theorem givesUp_of_log (guard : Guard) (caller : Context) (cause : Cause) (left : Session)
    (entry : Log.Entry) :
    guard.GivesUp caller (guard.failure cause) left (caller.fail (guard.failure cause), left.log entry) :=
  ⟨rfl, rfl, rfl, rfl, rfl, ⟨_, _, rfl⟩, .of_trail_cons (Session.log_trail ..) trivial,
    not_completes_of_trail (Session.log_trail ..) trivial⟩

end Guard

namespace SkillFunction

/-- The ways in which an invocation fails, with the error, and with the session as the last callable that
was entered left it. -/
inductive Fails (caller : Context) (token : TokenId) (s : Session) :
    SkillFunction → InvocationError → Session → Prop
  | denied {function : SkillFunction} {error : TrustError} {asked : Session}
      (denial : function.guard.consult caller s = (.error error, asked)) :
      Fails caller token s function (.untrusted error) s
  | body {guard : Guard} {shape : Shape}
      {code : shape.input.Argument → Program shape.output shape.input.contexts}
      {verdict : Bool} {cause : Cause} {asked left : Session}
      (consent : guard.consult caller s = (.ok verdict, asked))
      (body : runBody guard shape code caller token verdict asked = (.error cause, left)) :
      Fails caller token s (.native guard shape code)
        (.failed guard.descriptor.skill guard.descriptor.function cause) left
  | renderer {guard : Guard} {renderer : Program .text 1} {backend : String → Program .text 0}
      {verdict : Bool} {cause : Cause} {asked left : Session}
      (consent : guard.consult caller s = (.ok verdict, asked))
      (render : runRenderer guard renderer caller asked = (.error cause, left)) :
      Fails caller token s (.semantic guard renderer backend)
        (.failed guard.descriptor.skill guard.descriptor.function cause) left
  | prompt {guard : Guard} {renderer : Program .text 1} {backend : String → Program .text 0}
      {verdict : Bool} {rendered : String} {error : TrustError} {asked left again : Session}
      (consent : guard.consult caller s = (.ok verdict, asked))
      (render : runRenderer guard renderer caller asked = (.ok rendered, left))
      (denial : guard.consultRendered caller rendered left = (.error error, again)) :
      Fails caller token s (.semantic guard renderer backend) (.untrusted error) left
  | backend {guard : Guard} {renderer : Program .text 1} {backend : String → Program .text 0}
      {verdict : Bool} {rendered : String} {prompt : TaintedValue} {cause : Cause}
      {asked drawn again left : Session}
      (consent : guard.consult caller s = (.ok verdict, asked))
      (render : runRenderer guard renderer caller asked = (.ok rendered, drawn))
      (tag : guard.consultRendered caller rendered drawn = (.ok prompt, again))
      (backendRun : runBackend guard backend caller token prompt again = (.error cause, left)) :
      Fails caller token s (.semantic guard renderer backend)
        (.failed guard.descriptor.skill guard.descriptor.function cause) left

theorem Fails.givesUp {function : SkillFunction} {caller : Context} {token : TokenId} {s left : Session}
    {error : InvocationError} (fails : function.Fails caller token s error left) :
    function.guard.GivesUp caller error left (function.invoke caller token s) := by
  cases fails with
  | denied denial =>
    rw [(Exit.denied denial).invoke_eq]
    exact Guard.givesUp_of_denial denial
  | body consent body =>
    rw [(Exit.bodyFailed consent body).invoke_eq]
    exact Guard.givesUp_of_log ..
  | renderer consent render =>
    rw [(Exit.renderFailed consent render).invoke_eq]
    exact Guard.givesUp_of_log ..
  | prompt consent render denial =>
    rw [(Exit.promptDenied consent render denial).invoke_eq]
    exact Guard.givesUp_of_promptDenial denial
  | backend consent render tag backendRun =>
    rw [(Exit.backendFailed consent render tag backendRun).invoke_eq]
    exact Guard.givesUp_of_log ..

/-- Every invocation fails in one of these ways or lets the output of the function in. -/
theorem fails_or_completes (function : SkillFunction) (caller : Context) (token : TokenId) (s : Session) :
    (∃ error left, function.Fails caller token s error left) ∨
      function.guard.Completes (function.invoke caller token s) := by
  have exit := function.invoke_exit caller token s
  generalize function.invoke caller token s = out at exit ⊢
  cases exit with
  | denied denial => exact .inl ⟨_, _, .denied denial⟩
  | bodyFailed consent body => exact .inl ⟨_, _, .body consent body⟩
  | bodyDone consent body => exact .inr ⟨_, _, _, _, OutputShape.settle_trail ..⟩
  | renderFailed consent render => exact .inl ⟨_, _, .renderer consent render⟩
  | promptDenied consent render denial => exact .inl ⟨_, _, .prompt consent render denial⟩
  | backendFailed consent render tag backendRun =>
    exact .inl ⟨_, _, .backend consent render tag backendRun⟩
  | backendDone consent render tag backendRun =>
    exact .inr ⟨_, _, _, _, OutputShape.settle_trail ..⟩

/-- An invocation fails exactly if no output is let in. A failure writes nothing but itself, and no context that
was made in the meantime is on the store that the caller is given. -/
theorem invoke_failure (function : SkillFunction) (caller : Context) (token : TokenId) (s : Session) :
    let out := function.invoke caller token s
    ((∃ error left, function.Fails caller token s error left) ↔ ¬function.guard.Completes out) ∧
      ∀ error left, function.Fails caller token s error left →
        function.guard.GivesUp caller error left out ∧
          (s.HasStore caller → ∀ made : Context, s.issued ≤ made.store →
            out.1.sharesStoreWith made = false) := by
  intro out
  refine ⟨⟨?_, (function.fails_or_completes caller token s).resolve_right⟩, ?_⟩
  · rintro ⟨error, left, fails⟩
    exact fails.givesUp.incomplete
  · intro error left fails
    refine ⟨fails.givesUp, fun known made new => beq_eq_false_iff_ne.mpr ?_⟩
    rw [show out.1.store = caller.store from fails.givesUp.store]
    exact Nat.ne_of_lt (Nat.lt_of_lt_of_le known new)

def spillGuard : Guard := ⟨Descriptor.new "desk" "spill", 5, .contextual false⟩

/-- A body that writes through its context, builds another one, records an error on it and fails. -/
def spillCode : Program .context 1 :=
  .act (.edit (Fin.last 0) (.insert "Note" "half")) fun _ =>
    .introduce (.fresh (Store.ofMain ⟨"built", true⟩)) <|
      .act (.fail (Fin.last 1) (.cancelled 3)) fun _ => @Program.fail .context 2 ⟨"spilt", ["no lid"]⟩

/-- The caller came with an error of its own and keeps what it had, with what the body wrote. -/
theorem invoke_failure_spill :
    let s := (Session.empty.newContext (Store.ofMain (TaintedValue.ofText "mail"))).2
    let caller := (Context.new 0 0).fail (.cancelled 1)
    let spill := native spillGuard ⟨.context, .context, true⟩ fun _ => spillCode
    let error := InvocationError.failed "desk" "spill" ⟨"spilt", ["no lid"]⟩
    let wrote := (spillGuard.enter .body caller (spillGuard.logInvoking false
      (spillGuard.consult caller s).2)).edit caller (.insert "Note" "half")
    let built := wrote.newContext (Store.ofMain ⟨"built", true⟩)
    spill.Fails caller 7 s error built.2 ∧ s.HasStore caller ∧
      spill.guard.GivesUp caller error built.2 (spill.invoke caller 7 s) ∧
        (spill.invoke caller 7 s).1.sharesStoreWith built.1 = false := by
  intro s caller spill error wrote built
  have fails : spill.Fails caller 7 s error built.2 :=
    .body (show spillGuard.consult caller s = (.ok false, _) from rfl) rfl
  have known : s.HasStore caller := by decide
  obtain ⟨givesUp, unseen⟩ := (spill.invoke_failure caller 7 s).2 error built.2 fails
  exact ⟨fails, known, givesUp, unseen known built.1 (by decide)⟩

end SkillFunction

end TaintTracking
