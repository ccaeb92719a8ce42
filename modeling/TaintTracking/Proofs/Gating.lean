import TaintTracking.Builtin
import TaintTracking.Proofs.Session.Steps

/-!
Sensitive functions under the contextual policy. Main statement: in any run of a pipeline, whatever
the callables do and however deep they invoke each other, a callable of a sensitive function is
entered only while every variable of its caller is trusted; where a check finds one that is not, the
invocation ends there, with the refusal and nothing written.
-/

namespace TaintTracking

/-- What is required of an event when sensitive functions are guarded: an entry finds every variable
trusted, and a consultation that finds one untrusted is answered with the refusal. -/
def Event.Gated : Event → Prop
  | .entered _ descriptor store =>
    descriptor.isSensitive = true → ∀ slot ∈ store.slots, slot.value.trusted = true
  | .consulted descriptor store verdict =>
    descriptor.isSensitive = true → (∃ slot ∈ store.slots, slot.value.trusted = false) →
      verdict = .error (.sensitiveOnUntrusted descriptor.skill descriptor.function)
  | _ => True

def Event.IsEntry : Event → Prop
  | .entered _ _ _ => True
  | _ => False

theorem Event.IsRemark.gated : (event : Event) → event.IsRemark → event.Gated
  | .noted _, _ => trivial
  | .logged _, _ => trivial

theorem Event.IsCheck.not_isEntry {descriptor : Descriptor} {store : Store}
    {verdict : Except TrustError Bool} :
    (event : Event) → event.IsCheck descriptor store verdict → ¬event.IsEntry
  | .consulted _ _ _, _ => id
  | .logged _, _ => id

theorem Event.IsCheck.gated {defaultTrusted : Bool} {descriptor : Descriptor} {store : Store}
    {verdict : Except TrustError Bool}
    (contextual : Policy.contextualVerdict defaultTrusted descriptor store = verdict) :
    (event : Event) → event.IsCheck descriptor store verdict → event.Gated
  | .logged _, _ => trivial
  | .consulted _ _ _, check => by
    obtain ⟨rfl, rfl, rfl⟩ := check
    intro sensitive untrusted
    rw [← contextual, Policy.contextualVerdict_eq_error]
    exact ⟨sensitive, (Store.isAllTrusted_eq_false_iff _).mpr untrusted, rfl⟩

theorem Guard.Allows.isTrusted {guard : Guard} {caller : Context} {s : Session}
    (contextual : guard.IsContextual) (allowed : guard.Allows caller s)
    (sensitive : guard.descriptor.isSensitive = true) : s.isTrusted caller = true := by
  obtain ⟨earlier, later, same, ⟨verdict, consent⟩ | ⟨rendered, prompt, tag⟩⟩ := allowed
  · rw [Session.isTrusted, same]
    exact (Guard.agreed_of_consult contextual consent).1 sensitive
  · rw [Session.isTrusted, same]
    exact (Guard.agreed_of_consultRendered contextual tag).1 sensitive

open Session

theorem Session.Step.gated {s t : Session} (step : Step Guard.IsContextual s t) :
    s.Records Event.Gated t := by
  cases step with
  | act action scope token s => exact (action.perform_records scope token s).mono Event.IsRemark.gated
  | create origin scope s => exact .of_trail_eq (origin.create_trail scope s)
  | issue s => exact .refl s
  | @consult guard caller s contextual =>
    obtain ⟨defaultTrusted, policy⟩ := contextual
    have verdict := Guard.verdict_of_consult policy (show guard.consult caller s = (_, _) from rfl)
    rw [← guard.contextualVerdict_currentDescriptor s] at verdict
    exact (Guard.records_of_consult rfl).mono (Event.IsCheck.gated verdict)
  | @consultRendered guard caller rendered s contextual =>
    obtain ⟨defaultTrusted, policy⟩ := contextual
    have verdict := Guard.verdict_of_consultRendered policy
      (show guard.consultRendered caller rendered s = (_, _) from rfl)
    rw [← guard.contextualVerdict_currentDescriptor s] at verdict
    exact (Guard.records_of_consultRendered rfl).mono (Event.IsCheck.gated verdict)
  | log entry s => exact .of_trail_cons (log_trail ..) trivial
  | @enter guard role caller s contextual allowed =>
    refine .of_trail_cons (record_trail ..) fun sensitive => ?_
    exact (Store.isAllTrusted_iff _).mp (allowed.isTrusted contextual sensitive)
  | settle guard output caller verdict forced result s =>
    exact .of_trail_cons (output.settle_trail ..) trivial

/-- An invocation that ended at a check made in `s`: the caller has its own context back, with the
refusal, nothing is written, and no callable was entered after the check. -/
structure Guard.Blocks (guard : Guard) (caller : Context) (s : Session) (out : Context × Session) :
    Prop where
  refusal : out.1 = caller.fail
    (.untrusted (.sensitiveOnUntrusted guard.descriptor.skill guard.descriptor.function))
  recorded : out.1.error =
    some (.untrusted (.sensitiveOnUntrusted guard.descriptor.skill guard.descriptor.function))
  stores : out.2.stores = s.stores
  noEntry : s.Records (fun event => ¬event.IsEntry) out.2

theorem Guard.blocks_of_refusal {guard : Guard} {caller : Context} {s t : Session}
    (stores : t.stores = s.stores) (noEntry : s.Records (fun event => ¬event.IsEntry) t) :
    guard.Blocks caller s (caller.fail (.untrusted guard.blocked), t) := ⟨rfl, rfl, stores, noEntry⟩

namespace SkillFunction

/-- The check before a function runs. -/
theorem invoke_blocked {function : SkillFunction} {caller : Context} {s : Session}
    (contextual : function.guard.IsContextual) (sensitive : function.descriptor.isSensitive = true)
    (untrusted : s.isTrusted caller = false) (token : TokenId) :
    function.guard.Blocks caller s (function.invoke caller token s) := by
  have refuses : ∀ {verdict : Bool} {t : Session},
      function.guard.consult caller s ≠ (.ok verdict, t) := by
    intro verdict t consent
    have trusted := (Guard.agreed_of_consult contextual consent).1 sensitive
    rw [untrusted] at trusted
    cases trusted
  have exit := function.invoke_exit caller token s
  generalize function.invoke caller token s = out at exit ⊢
  cases exit with
  | denied denial =>
    rw [(Guard.refused_of_consult contextual denial).2.2]
    exact Guard.blocks_of_refusal (Guard.stores_of_consult denial)
      ((Guard.records_of_consult denial).mono Event.IsCheck.not_isEntry)
  | bodyFailed consent body => exact absurd consent refuses
  | bodyDone consent body => exact absurd consent refuses
  | renderFailed consent render => exact absurd consent refuses
  | promptDenied consent render denial => exact absurd consent refuses
  | backendFailed consent render tag backendRun => exact absurd consent refuses
  | backendDone consent render tag backendRun => exact absurd consent refuses

/-- The check on a rendered prompt, which sees what rendering left. -/
theorem invoke_blocked_rendered {guard : Guard} {renderer : Program .text 1}
    {backend : String → Program .text 0} {caller : Context} {s s₁ s₂ : Session} {verdict : Bool}
    {rendered : String} (contextual : guard.IsContextual)
    (sensitive : guard.descriptor.isSensitive = true)
    (consent : guard.consult caller s = (.ok verdict, s₁))
    (render : runRenderer guard renderer caller s₁ = (.ok rendered, s₂))
    (untrusted : s₂.isTrusted caller = false) (token : TokenId) :
    guard.Blocks caller s₂ ((semantic guard renderer backend).invoke caller token s) := by
  have refuses : ∀ {prompt : TaintedValue} {t : Session},
      guard.consultRendered caller rendered s₂ ≠ (.ok prompt, t) := by
    intro prompt t tag
    have trusted := (Guard.agreed_of_consultRendered contextual tag).1 sensitive
    rw [untrusted] at trusted
    cases trusted
  have exit := (semantic guard renderer backend).invoke_exit caller token s
  generalize (semantic guard renderer backend).invoke caller token s = out at exit ⊢
  cases exit with
  | denied denial => cases consent.symm.trans denial
  | renderFailed consent' render' =>
    cases consent.symm.trans consent'
    cases render.symm.trans render'
  | promptDenied consent' render' denial =>
    cases consent.symm.trans consent'
    cases render.symm.trans render'
    rw [(Guard.refused_of_consultRendered contextual denial).2.2]
    exact Guard.blocks_of_refusal (Guard.stores_of_consultRendered denial)
      ((Guard.records_of_consultRendered denial).mono Event.IsCheck.not_isEntry)
  | backendFailed consent' render' tag backendRun =>
    cases consent.symm.trans consent'
    cases render.symm.trans render'
    exact absurd tag refuses
  | backendDone consent' render' tag backendRun =>
    cases consent.symm.trans consent'
    cases render.symm.trans render'
    exact absurd tag refuses

end SkillFunction

namespace Pipeline

/-- Sensitive functions are gated in every run: all entries and consultations are as they should be,
in the steps and in whatever these invoke, and a function that a check finds untrusted is blocked
there, before it runs or on its rendered prompt. -/
theorem runSteps_gated (steps : List SkillFunction)
    (contextual : ∀ step ∈ steps, step.EveryGuard Guard.IsContextual) (context : Context)
    (token : TokenId) (s : Session) :
    s.Records Event.Gated (runSteps steps context token s).2 ∧
      (∀ (function : SkillFunction) (caller : Context) (inner : TokenId) (t : Session),
        function.guard.IsContextual → function.descriptor.isSensitive = true →
        (∃ slot ∈ (t.storeOf caller).slots, slot.value.trusted = false) →
          function.guard.Blocks caller t (function.invoke caller inner t)) ∧
      ∀ (guard : Guard) (renderer : Program .text 1) (backend : String → Program .text 0)
        (caller : Context) (inner : TokenId) (verdict : Bool) (rendered : String)
        (t t₁ t₂ : Session),
        guard.IsContextual → guard.descriptor.isSensitive = true →
        guard.consult caller t = (.ok verdict, t₁) →
        SkillFunction.runRenderer guard renderer caller t₁ = (.ok rendered, t₂) →
        (∃ slot ∈ (t₂.storeOf caller).slots, slot.value.trusted = false) →
          guard.Blocks caller t₂
            ((SkillFunction.semantic guard renderer backend).invoke caller inner t) := by
  refine ⟨?_, ?_, ?_⟩
  · exact (runFrom_steps token 0 steps contextual context.clearError s).records Step.gated
  · intro function caller inner t contextual sensitive untrusted
    exact SkillFunction.invoke_blocked contextual sensitive
      ((Store.isAllTrusted_eq_false_iff _).mpr untrusted) inner
  · intro guard renderer backend caller inner verdict rendered t t₁ t₂ contextual sensitive consent
      render untrusted
    exact SkillFunction.invoke_blocked_rendered contextual sensitive consent render
      ((Store.isAllTrusted_eq_false_iff _).mpr untrusted) inner

/-- A step that taints what it was given and then hands it to `publish`. -/
def taintAndPublish : SkillFunction :=
  .native ⟨Descriptor.new "desk" "relay", 0, .contextual true⟩ ⟨.context, .nothing, true⟩ fun _ =>
    .act (.edit (Fin.last 0) .untrustMain) fun _ =>
      .invoke (Fin.last 0) (Builtin.publish.function .default 1) (.done ())

def desk : Context := Context.new 0 0

def askGuard : Guard :=
  ⟨{ Descriptor.new "desk" "ask" with isSensitive := true }, 2, .contextual true⟩

/-- A renderer that taints the context of its function. -/
def taintingRenderer : Program .text 1 :=
  .act (.edit (Fin.last 0) .untrustMain) fun _ => @Program.done .text 1 "prompt"

theorem taintAndPublish_contextual : taintAndPublish.EveryGuard Guard.IsContextual := by
  simp [taintAndPublish, SkillFunction.EveryGuard, Program.EveryGuard, Guard.IsContextual,
    Builtin.function, SkillFunction.ofBody, Builtin.body, Builtin.publishCode]

/-- The nested `publish` is blocked, as is a sensitive function whose renderer taints. -/
theorem runSteps_gated_taintAndPublish :
    (∀ step ∈ [taintAndPublish], step.EveryGuard Guard.IsContextual) ∧
      Session.empty.Records Event.Gated (runSteps [taintAndPublish] desk 0 Session.empty).2 ∧
      (Builtin.publish.function .default 1).guard.Blocks desk (Session.empty.edit desk .untrustMain)
        ((Builtin.publish.function .default 1).invoke desk 0
          (Session.empty.edit desk .untrustMain)) ∧
      askGuard.Blocks desk
        (SkillFunction.runRenderer askGuard taintingRenderer desk
          (askGuard.consult desk Session.empty).2).2
        ((SkillFunction.semantic askGuard taintingRenderer fun _ =>
          @Program.done .text 0 "").invoke desk 0 Session.empty) := by
  have every : ∀ step ∈ [taintAndPublish], step.EveryGuard Guard.IsContextual :=
    List.forall_mem_singleton.mpr taintAndPublish_contextual
  have gated := runSteps_gated [taintAndPublish] every desk 0 Session.empty
  refine ⟨every, gated.1, ?_, ?_⟩
  · exact gated.2.1 _ desk 0 _ ⟨true, rfl⟩ rfl ⟨_, List.mem_cons_self .., rfl⟩
  · exact gated.2.2 askGuard taintingRenderer _ desk 0 true "prompt" Session.empty _ _ ⟨true, rfl⟩
      rfl rfl rfl ⟨_, List.mem_cons_self .., rfl⟩

end Pipeline

end TaintTracking
