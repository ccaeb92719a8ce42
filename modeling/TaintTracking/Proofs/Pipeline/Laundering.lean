import TaintTracking.Builtin
import TaintTracking.Proofs.Gating
import TaintTracking.Proofs.Pipeline.Boundary

/-!
Trust cannot be laundered in place. Main statement: once a run under the contextual policy is on an
untrusted context, only a function that replaces the context can make it trusted again, whatever the
bodies write; what the policy found before a body is conjoined into the main variable after it.
-/

namespace TaintTracking

/-- Where some variable is untrusted, rendering leaves some variable untrusted. -/
def Program.KeepsTaint (renderer : Program .text 1) : Prop :=
  ∀ (caller : Context) (rendered : String) (s t : Session), s.HasStore caller →
    s.isTrusted caller = false →
    renderer.run (Scope.ofContext caller) none s = (.ok rendered, t) → t.isTrusted caller = false

namespace SkillFunction

/-- A function under the contextual policy that gives no context of its own. Its body may do anything;
its renderer may not make an untrusted context trusted. -/
def Retains : SkillFunction → Prop
  | .native guard shape _ => guard.IsContextual ∧ shape.output ≠ .context
  | .semantic guard renderer _ => guard.IsContextual ∧ renderer.KeepsTaint

theorem Retains.isContextual {function : SkillFunction} (retains : function.Retains) :
    function.guard.IsContextual := by
  cases function with
  | native guard shape code => exact retains.1
  | semantic guard renderer backend => exact retains.1

theorem Retains.inPlace {function : SkillFunction} (retains : function.Retains) :
    function.outputShape ≠ .context := by
  cases function with
  | native guard shape code => exact retains.2
  | semantic guard renderer backend => exact OutputShape.noConfusion

/-- What an invocation on an untrusted context comes to: a callable failed, the function was blocked
with nothing written, or the main variable is untrusted now. -/
inductive TaintedEnd (caller : Context) (before : StoreId → Store) : Context × Session → Prop
  | failed {t : Session} (skill function : String) (cause : Cause) :
      TaintedEnd caller before (caller.fail (.failed skill function cause), t)
  | blocked {t : Session} (error : TrustError) (unwritten : t.stores = before) :
      TaintedEnd caller before (caller.fail (.untrusted error), t)
  | completed {t : Session} (untrusted : (t.storeOf caller).main.trusted = false) :
      TaintedEnd caller before (caller, t)

/-- An output let in without trust leaves the main variable untrusted. -/
theorem TaintedEnd.of_settle {caller : Context} {before : StoreId → Store} (output : OutputShape)
    (inPlace : output ≠ .context) (result : output.Result) (t : Session) :
    TaintedEnd caller before (output.settle caller false t result) := by
  have untrusted := output.settle_main_trusted caller false t inPlace result
  rw [Bool.and_false] at untrusted
  cases output with
  | nothing => exact .completed untrusted
  | text => exact .completed untrusted
  | context => exact absurd rfl inPlace

theorem invoke_tainted {function : SkillFunction} (retains : function.Retains) {caller : Context}
    {s : Session} (known : s.HasStore caller) (untrusted : s.isTrusted caller = false)
    (token : TokenId) : TaintedEnd caller s.stores (function.invoke caller token s) := by
  have contextual := retains.isContextual
  have exit := function.invoke_exit caller token s
  generalize function.invoke caller token s = out at exit ⊢
  cases exit with
  | denied denial => exact .blocked _ (Guard.stores_of_consult denial)
  | bodyFailed consent body => exact .failed _ _ _
  | @bodyDone guard shape code verdict output s₁ s₂ consent body =>
    obtain rfl : verdict = false := (Guard.agreed_of_consult contextual consent).2 untrusted
    rw [Bool.false_and]
    exact .of_settle shape.output retains.2 output _
  | renderFailed consent render => exact .failed _ _ _
  | promptDenied consent render denial =>
    have sensitive := (Guard.refused_of_consultRendered contextual denial).1
    have trusted := (Guard.agreed_of_consult contextual consent).1 sensitive
    exact absurd (untrusted.symm.trans trusted) Bool.false_ne_true
  | backendFailed consent render tag backendRun => exact .failed _ _ _
  | @backendDone guard renderer backend verdict rendered completion prompt s₁ s₂ s₃ s₄ consent render
      tag backendRun =>
    -- The caller is as untrusted when the renderer is entered as when the policy was consulted.
    have entered : (guard.enter .renderer caller s₁).isTrusted caller = false := by
      rw [Session.isTrusted, Guard.enter, Session.storeOf_record,
        Session.storeOf_congr (Guard.stores_of_consult consent) caller]
      exact untrusted
    have knownThen : (guard.enter .renderer caller s₁).HasStore caller := by
      rw [Session.HasStore, Guard.enter, Session.record_issued, Guard.issued_of_consult consent]
      exact known
    have left : s₂.isTrusted caller = false := retains.2 caller rendered _ s₂ knownThen entered render
    rw [(Guard.agreed_of_consultRendered contextual tag).2 left, Bool.false_and]
    exact .of_settle .text OutputShape.noConfusion completion _

end SkillFunction

namespace Pipeline.Run
variable {run : Run}

/-- The context that a step at boundary `k` would be invoked on is trusted. -/
def trustedAt (run : Run) (k : Nat) : Bool := (run.sessionAt k).isTrusted (run.contextAt k)

def mainAt (run : Run) (k : Nat) : TaintedValue := ((run.sessionAt k).storeOf (run.contextAt k)).main

section Known
variable (retains : ∀ step ∈ run.steps, step.Retains) (known : run.session.HasStore run.context)
include retains known

theorem hasStore_boundary (k : Nat) : (run.sessionAt k).HasStore (run.contextAt k) := by
  induction k with
  | zero => exact known
  | succ k ih =>
    by_cases inside : k < run.steps.length
    · have step := run.steps[k].invoke_hasStore (run.contextAt k) run.token
        (s := logStep k run.steps[k] (run.sessionAt k)) ih
      have same := SkillFunction.invoke_store (retains _ (List.getElem_mem inside)).inPlace
        (run.contextAt k) run.token (logStep k run.steps[k] (run.sessionAt k))
      rw [← run.boundary_succ inside] at step same
      rw [Session.HasStore, contextAt, same]
      exact step
    · rw [contextAt, sessionAt, boundary, List.getElem?_eq_none (by omega)]
      exact ih

theorem tainted_succ {k : Nat} (inside : k < run.steps.length) (untrusted : run.trustedAt k = false) :
    SkillFunction.TaintedEnd (run.contextAt k) (run.sessionAt k).stores (run.boundary (k + 1)) := by
  rw [run.boundary_succ inside]
  exact SkillFunction.invoke_tainted (retains _ (List.getElem_mem inside))
    (s := logStep k run.steps[k] (run.sessionAt k)) (hasStore_boundary retains known k) untrusted
    run.token

/-- A step on an untrusted context that reports no error leaves the main variable untrusted. -/
theorem mainAt_succ_untrusted {k : Nat} (inside : k < run.steps.length)
    (untrusted : run.trustedAt k = false) (clean : (run.contextAt (k + 1)).hasError = false) :
    (run.mainAt (k + 1)).trusted = false := by
  have ends := tainted_succ retains known inside untrusted
  rw [contextAt] at clean
  rw [mainAt, sessionAt, contextAt]
  generalize run.boundary (k + 1) = out at ends clean ⊢
  cases ends with
  | failed skill function cause => cases clean
  | blocked error unwritten => cases clean
  | completed untrusted => exact untrusted

/-- Once untrusted, a run stays so, and from the next boundary on the main variable is untrusted. -/
theorem untrusted_from {i j : Nat} (reached : i ≤ j) (untrusted : run.trustedAt i = false)
    (inside : j ≤ run.steps.length) (clean : ∀ m ≤ j, (run.contextAt m).hasError = false) :
    run.trustedAt j = false ∧ (i < j → (run.mainAt j).trusted = false) := by
  induction reached with
  | refl => exact ⟨untrusted, fun later => absurd later (Nat.lt_irrefl i)⟩
  | @step j reached ih =>
    have before := ih (by omega) (fun m le => clean m (by omega))
    have main := mainAt_succ_untrusted retains known inside before.1 (clean (j + 1) (Nat.le_refl _))
    exact ⟨Store.isAllTrusted_of_main_untrusted main, fun _ => main⟩

/-- The last step of a run may also be blocked, which leaves everything as it was. -/
theorem untrusted_last {i j : Nat} (reached : i ≤ j) (untrusted : run.trustedAt i = false)
    (inside : j < run.steps.length) (passed : ∀ m ≤ j, run.Passes m)
    (unfailed : ∀ skill function cause,
      (run.contextAt (j + 1)).error ≠ some (.failed skill function cause)) :
    run.trustedAt (j + 1) = false ∧
      ((run.contextAt (j + 1)).hasError = false ∨ i < j → (run.mainAt (j + 1)).trusted = false) := by
  obtain ⟨before, main⟩ := untrusted_from retains known reached untrusted (Nat.le_of_lt inside)
    (fun m le => (passed m le).1)
  have ends := tainted_succ retains known inside before
  rw [trustedAt, mainAt, sessionAt, contextAt]
  rw [contextAt] at unfailed
  generalize run.boundary (j + 1) = out at ends unfailed ⊢
  cases ends with
  | failed skill function cause => exact absurd rfl (unfailed skill function cause)
  | @blocked t error unwritten =>
    have same : t.storeOf ((run.contextAt j).fail (.untrusted error)) =
        (run.sessionAt j).storeOf (run.contextAt j) := congrFun unwritten _
    rw [Session.isTrusted, same]
    refine ⟨before, fun progress => ?_⟩
    rcases progress with clean | later
    · cases clean
    · exact main later
  | completed mainUntrusted =>
    exact ⟨Store.isAllTrusted_of_main_untrusted mainUntrusted, fun _ => mainUntrusted⟩

end Known

/-- No laundering in place: if a step starts on an untrusted context, so does every later one; of the
sensitive among them no callable is entered; and unless a callable failed, the run ends on an
untrusted context, on an untrusted main variable if any of these steps completed. -/
theorem never_launders (run : Run) (retains : ∀ step ∈ run.steps, step.Retains)
    (known : run.session.HasStore run.context) (i : Nat) (starts : run.Starts i)
    (untrusted : run.trustedAt i = false) :
    (∀ j ≥ i, run.Starts j → run.trustedAt j = false) ∧
      (∀ j ≥ i, (inside : j < run.steps.length) → run.Starts j →
        run.steps[j].descriptor.isSensitive = true →
          (run.sessionAt j).Records (fun event => ¬event.IsEntry) (run.sessionAt (j + 1))) ∧
      ((∀ skill function cause, run.result.1.error ≠ some (.failed skill function cause)) →
        run.result.2.isTrusted run.result.1 = false ∧
          ((∃ j ≥ i, run.Starts j ∧ (run.contextAt (j + 1)).hasError = false) →
            (run.result.2.storeOf run.result.1).main.trusted = false)) := by
  have later : ∀ j ≥ i, run.Starts j → run.trustedAt j = false := fun j reached started =>
    (untrusted_from retains known reached untrusted (Nat.le_of_lt started.1)
      (fun m le => (started.2 m le).1)).1
  refine ⟨later, ?_, ?_⟩
  · intro j reached inside started sensitive
    have blocks := SkillFunction.invoke_blocked (s := logStep j run.steps[j] (run.sessionAt j))
      (retains _ (List.getElem_mem inside)).isContextual sensitive (later j reached started) run.token
    rw [← run.boundary_succ inside] at blocks
    exact (Session.Records.of_trail_cons (Session.log_trail ..) id).trans blocks.noEntry
  · intro unfailed
    obtain ⟨k, ending, inside, passed, ends⟩ := run.ends
    obtain ⟨j, rfl⟩ := Nat.exists_eq_add_one.mpr (Nat.zero_lt_of_lt (ends.lt_of_starts starts))
    have reached : i ≤ j := Nat.le_of_lt_succ (ends.lt_of_starts starts)
    have last := untrusted_last retains known reached untrusted inside
      (fun m le => passed m (Nat.lt_succ_of_le le)) ?_
    · rw [Session.isTrusted, ends.storeOf_result]
      refine ⟨last.1, fun completed => last.2 ?_⟩
      obtain ⟨m, from_, started, clean⟩ := completed
      rcases Nat.lt_succ_iff_lt_or_eq.mp (ends.lt_of_starts started) with earlier | rfl
      · exact .inr (Nat.lt_of_le_of_lt from_ earlier)
      · exact .inl clean
    · intro skill function cause names
      have failed : (run.contextAt (j + 1)).hasError = true := by rw [Context.hasError, names]; rfl
      exact unfailed skill function cause ((ends.result_error failed).trans names)

/-- A body that claims its output and its context to be trusted. -/
def launder : SkillFunction :=
  .native ⟨Descriptor.new "desk" "launder", 0, .contextual true⟩ ⟨.context, .text, true⟩ fun _ =>
    .act (.edit (Fin.last 0) (.updateMain "clean" true)) fun _ => @Program.done .text 1 "clean"

/-- A semantic function with a constant prompt. -/
def summarize : SkillFunction :=
  .semantic ⟨Descriptor.new "desk" "summarize", 1, .contextual true⟩ (@Program.done .text 1 "prompt")
    fun _ => @Program.done .text 0 "summary"

/-- From an untrusted main variable, by way of a laundering body, to publication. -/
def publishFound : Run :=
  let (context, s) := Session.empty.newContext (Store.ofMain ⟨"found", false⟩)
  ⟨[launder, summarize, Builtin.publish.function .default 2], context, s.issued, s.newToken.2⟩

theorem publishFound_retains : ∀ step ∈ publishFound.steps, step.Retains := by
  have laundering : launder.Retains := ⟨⟨true, rfl⟩, OutputShape.noConfusion⟩
  have summarizing : summarize.Retains := by
    refine ⟨⟨true, rfl⟩, fun caller rendered s t _ untrusted rendering => ?_⟩
    rw [Program.run] at rendering
    cases rendering
    exact untrusted
  have publishing : (Builtin.publish.function .default 2).Retains :=
    ⟨⟨true, rfl⟩, OutputShape.noConfusion⟩
  intro step member
  simp only [publishFound, List.mem_cons, List.not_mem_nil, or_false] at member
  rcases member with rfl | rfl | rfl
  · exact laundering
  · exact summarizing
  · exact publishing

/-- Publication is reached on an untrusted context, and blocked there. -/
theorem never_launders_publishFound :
    publishFound.session.HasStore publishFound.context ∧ publishFound.trustedAt 0 = false ∧
      publishFound.Starts 2 ∧ publishFound.trustedAt 2 = false ∧
      (publishFound.sessionAt 2).Records (fun event => ¬event.IsEntry) (publishFound.sessionAt 3) ∧
      publishFound.result.2.isTrusted publishFound.result.1 = false ∧
      (publishFound.result.2.storeOf publishFound.result.1).main.trusted = false := by
  have known : publishFound.session.HasStore publishFound.context := by decide
  have passes : ∀ j ≤ 2, publishFound.Passes j := by
    intro j reached
    match j, reached with
    | 0, _ => exact ⟨rfl, rfl⟩
    | 1, _ => exact ⟨rfl, rfl⟩
    | 2, _ => exact ⟨rfl, rfl⟩
  have startsLast : publishFound.Starts 2 := ⟨by decide, passes⟩
  have starts : publishFound.Starts 0 := startsLast.of_lt (by decide)
  have untrusted : publishFound.trustedAt 0 = false := by decide
  obtain ⟨later, unentered, final⟩ :=
    publishFound.never_launders publishFound_retains known 0 starts untrusted
  have blocked : publishFound.result.1.error =
      some (.untrusted (Policy.blocked Builtin.publish.descriptor)) := rfl
  have ended := final fun skill function cause failed => nomatch blocked.symm.trans failed
  exact ⟨known, untrusted, startsLast, later 2 (by decide) startsLast,
    unentered 2 (by decide) (by decide) startsLast rfl, ended.1, ended.2 ⟨0, by decide, starts, rfl⟩⟩

end Pipeline.Run

end TaintTracking
