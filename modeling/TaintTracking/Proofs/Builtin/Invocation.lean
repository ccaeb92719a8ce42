import TaintTracking.Proofs.Builtin.State
import TaintTracking.Proofs.Gating
import TaintTracking.Proofs.Session.Cancellation
import TaintTracking.Proofs.TrustConfig

/-!
Invoking a built-in function. Main statement: on a context that holds a state, the function does what one
step does to the state, and takes its time unless it is refused.
-/

namespace TaintTracking

theorem normalize_echoName : normalize Builtin.echoName = Builtin.echoName := by decide +kernel

namespace Builtin

/-- What guards the function under a configuration. -/
def guard (trust : TrustConfig) (flag : FlagId) (builtin : Builtin) : Guard where
  descriptor := { trust.applyOverrides builtin.descriptor with isSemantic := false }
  flag
  policy := .contextual trust.defaultTrusted

theorem function_eq_native (trust : TrustConfig) (flag : FlagId) (builtin : Builtin) :
    builtin.function trust flag =
      .native (builtin.guard trust flag) builtin.body.shape builtin.body.code := rfl

namespace State

/-- So much of the run is over, and the context shows the state. -/
structure HeldBy (state : State) (terms : Terms) (elapsed : Nat) (context : Context) (s : Session) :
    Prop where
  view : s.view context = state.snapshot
  hold : terms.Hold elapsed s

theorem HeldBy.storeOf {state : State} {terms : Terms} {elapsed : Nat} {context : Context}
    {s : Session} (held : state.HeldBy terms elapsed context s) : s.storeOf context = state.store :=
  congrArg Snapshot.store held.view

theorem HeldBy.clean {state : State} {terms : Terms} {elapsed : Nat} {context : Context} {s : Session}
    (held : state.HeldBy terms elapsed context s) (going : state.refusal = none) :
    context.error = none ∧ context.description = "" := by
  have error := congrArg Snapshot.error held.view
  have description := congrArg Snapshot.description held.view
  rw [snapshot, going] at error description
  exact ⟨error, description⟩

theorem Coherent.isTrusted_of_view {state : State} (coherent : state.Coherent) {context : Context}
    {s : Session} (shown : s.view context = state.snapshot) : s.isTrusted context = state.trusted := by
  have store : s.storeOf context = state.store := congrArg Snapshot.store shown
  rw [Session.isTrusted, store, coherent.isAllTrusted_store]

/-- The state with the echo that the function makes. -/
def echoed (state : State) (builtin : Builtin) : State :=
  { state with echo := if builtin = .echo then some ⟨state.content, state.trusted⟩ else state.echo }

theorem echoed_of_ne {state : State} {builtin : Builtin} (other : builtin ≠ .echo) :
    state.echoed builtin = state := by
  rw [echoed, if_neg other]

theorem edit_store_echo (state : State) (value : TaintedValue) :
    state.store.edit (.setValue echoName value) = { state with echo := some value }.store := by
  have apart : echoName ≠ mainName := by decide
  simp only [Store.edit, Store.setValue, normalize_echoName, if_neg apart, store]
  congr 1
  cases state.echo with
  | none => rfl
  | some old =>
    apply Std.ExtTreeMap.ext_getElem?
    intro key
    simp only [Std.ExtTreeMap.getElem?_insert]
    split <;> rfl

/-- The body of a function that keeps the context makes the echo, if it makes one, takes its time, and
gives what becomes of the text. -/
theorem runBody_of_storeOf {state : State} {builtin : Builtin} (kept : builtin ≠ .reset) (guard : Guard)
    {caller : Context} (token : TokenId) (verdict : Bool) {terms : Terms} {elapsed : Nat} {s : Session}
    (shows : s.storeOf caller = state.store) (hold : terms.Hold elapsed s) :
    ∃ output t, SkillFunction.runBody guard builtin.body.shape builtin.body.code caller token verdict s =
        (.ok output, t) ∧
      t.storeOf caller = (state.echoed builtin).store ∧ terms.Hold (elapsed + builtin.duration) t ∧
      builtin.body.shape.output.settledContent state.content output = builtin.rewrite state.content := by
  have content : (s.storeOf caller).main.content = state.content := congrArg (·.main.content) shows
  have entered : terms.Hold elapsed (guard.enter .body caller (guard.logInvoking verdict s)) :=
    ⟨hold.now, hold.cancelled, hold.alarm, hold.unset⟩
  have unchanged (other : builtin ≠ .echo) : s.storeOf caller = (state.echoed builtin).store := by
    rw [echoed_of_ne other, shows]
  cases builtin with
  | upper => exact ⟨_, _, rfl, unchanged nofun, entered, congrArg Text.uppercase content⟩
  | lower => exact ⟨_, _, rfl, unchanged nofun, entered, congrArg Text.lowercase content⟩
  | trim => exact ⟨_, _, rfl, unchanged nofun, entered, congrArg Text.trim content⟩
  | publish =>
    exact ⟨_, _, rfl, unchanged nofun,
      ⟨entered.now, entered.cancelled, entered.alarm, entered.unset⟩, rfl⟩
  | fetch =>
    refine ⟨_, _, rfl, ?_, entered.sleep fetchLatency, congrArg ("fetched: " ++ ·) content⟩
    rw [Session.storeOf_congr (Session.sleep_stores _ _)]
    exact unchanged nofun
  | echo =>
    have entering : (guard.enter .body caller (guard.logInvoking verdict s)).storeOf caller =
        state.store := shows
    have copies : SkillFunction.runBody guard Builtin.echo.body.shape Builtin.echo.body.code caller token
        verdict s = (.ok (), (guard.enter .body caller (guard.logInvoking verdict s)).edit caller
          (.setValue echoName (s.storeOf caller).main)) := rfl
    refine ⟨(), _, copies, ?_, ⟨entered.now, entered.cancelled, entered.alarm, entered.unset⟩, rfl⟩
    rw [Session.storeOf_edit, entering, shows]
    exact edit_store_echo state state.store.main
  | reset => exact absurd rfl kept

section Invoke
variable {state : State} {terms : Terms} {elapsed : Nat} {context : Context} {s : Session}

/-- The policy agrees with the verdict that the bit gives. -/
theorem HeldBy.consult (held : state.HeldBy terms elapsed context s) (coherent : state.Coherent)
    {trust : TrustConfig} {builtin : Builtin} (allowed : state.blocks trust builtin = false)
    (flag : FlagId) : ∃ t, (builtin.guard trust flag).consult context s =
        (.ok (state.trusted && trust.defaultTrusted), t) ∧
      t.storeOf context = state.store ∧ terms.Hold elapsed t := by
  have all : (s.storeOf context).isAllTrusted = state.trusted := coherent.isTrusted_of_view held.view
  have agrees : builtin.isSensitive trust = true → state.trusted = true := by
    intro sensitive
    simpa [blocks, sensitive] using allowed
  have verdict : ((builtin.guard trust flag).consult context s).1 =
      .ok (state.trusted && trust.defaultTrusted) := by
    rw [← all] at agrees ⊢
    exact Policy.contextualVerdict_eq_ok.mpr ⟨agrees, rfl⟩
  have same : ((builtin.guard trust flag).consult context s).2.stores = s.stores :=
    (builtin.guard trust flag).policy.consult_stores _ context s
  refine ⟨_, Prod.ext verdict rfl, ?_, held.hold.consult (builtin.guard trust flag) context⟩
  rw [Session.storeOf_congr same, held.storeOf]

theorem forcesUntrusted_of_hold (hold : terms.Hold elapsed s) {flag : FlagId}
    (own : terms.flag ≤ flag) (trust : TrustConfig) (builtin : Builtin) :
    (builtin.guard trust flag).forcesUntrusted s = builtin.forcesUntrusted trust := by
  rw [Guard.forcesUntrusted,
    show s.forced (builtin.guard trust flag).flag = none from hold.unset flag own]
  rfl

theorem inPlace_of_ne_reset {builtin : Builtin} (kept : builtin ≠ .reset) :
    builtin.body.shape.output ≠ .context := by
  cases builtin with
  | reset => exact absurd rfl kept
  | _ => decide

/-- `reset` replaces the context by that of a new run. -/
theorem view_invoke_reset {guard : Guard} {caller : Context} {verdict : Bool} {t : Session}
    (token : TokenId) (consent : guard.consult caller s = (.ok verdict, t)) (hold : terms.Hold elapsed t) :
    (ofInput .empty).HeldBy terms elapsed
      ((SkillFunction.native guard reset.body.shape reset.body.code).invoke caller token s).1
      ((SkillFunction.native guard reset.body.shape reset.body.code).invoke caller token s).2 := by
  have ran : SkillFunction.runBody guard reset.body.shape reset.body.code caller token verdict t =
      (.ok ((guard.enter .body caller (guard.logInvoking verdict t)).newContext Store.new).1,
        ((guard.enter .body caller (guard.logInvoking verdict t)).newContext Store.new).2) := rfl
  rw [SkillFunction.invoke_of_body consent ran]
  exact ⟨Session.view_newContext _ _, ⟨hold.now, hold.cancelled, hold.alarm, hold.unset⟩⟩

/-- A function that is not refused makes the context hold the next state. -/
theorem HeldBy.invoke (held : state.HeldBy terms elapsed context s) (coherent : state.Coherent)
    (going : state.refusal = none) {trust : TrustConfig} {builtin : Builtin}
    (allowed : state.blocks trust builtin = false) {flag : FlagId} (own : terms.flag ≤ flag) :
    (state.after trust builtin).HeldBy terms (elapsed + builtin.duration)
      ((builtin.function trust flag).invoke context terms.token s).1
      ((builtin.function trust flag).invoke context terms.token s).2 := by
  obtain ⟨t, consent, shows, hold⟩ := held.consult coherent allowed flag
  by_cases replaces : builtin = .reset
  · subst replaces
    exact view_invoke_reset terms.token consent hold
  · obtain ⟨output, u, ran, echoed, later, content⟩ :=
      runBody_of_storeOf replaces (builtin.guard trust flag) terms.token
        (state.trusted && trust.defaultTrusted) shows hold
    have inPlace := inPlace_of_ne_reset replaces
    have clean := held.clean going
    -- The bit as it is after the body is the one that the policy saw.
    have conjoined : (state.trusted && (state.trusted && trust.defaultTrusted &&
        !builtin.forcesUntrusted trust)) =
          (state.trusted && trust.defaultTrusted && !builtin.forcesUntrusted trust) := by
      cases state.trusted <;> rfl
    rw [function_eq_native, SkillFunction.invoke_of_body consent ran, forcesUntrusted_of_hold hold own]
    refine ⟨?_, later.settle _ _ _ _ _ _⟩
    rw [Session.view, OutputShape.settle_context context _ _ inPlace,
      OutputShape.settle_store context _ _ inPlace, Guard.complete, Session.storeOf_record, echoed,
      clean.1, clean.2, after_of_ne replaces]
    have main : TaintedValue.mk (builtin.body.shape.output.settledContent state.content output)
        (state.trusted && (state.trusted && trust.defaultTrusted && !builtin.forcesUntrusted trust)) =
          ⟨builtin.rewrite state.content,
            state.trusted && trust.defaultTrusted && !builtin.forcesUntrusted trust⟩ := by
      rw [content, conjoined]
    exact congrArg (fun main => Snapshot.mk ⟨main, (state.echoed builtin).store.others⟩ none "") main

/-- A refused function leaves the variables as they are. -/
theorem HeldBy.invoke_blocked (held : state.HeldBy terms elapsed context s) (coherent : state.Coherent)
    (going : state.refusal = none) {trust : TrustConfig} {builtin : Builtin}
    (blocked : state.blocks trust builtin = true) (flag : FlagId) :
    ((builtin.function trust flag).invoke context terms.token s).2.view
        ((builtin.function trust flag).invoke context terms.token s).1 =
      (state.step trust builtin).snapshot := by
  obtain ⟨sensitive, untrusted⟩ := Bool.and_eq_true_iff.mp blocked
  have found : s.isTrusted context = false := by
    rw [coherent.isTrusted_of_view held.view]
    simpa using untrusted
  have names := trust.applyOverrides_names builtin.descriptor
  have skillName : (builtin.function trust flag).guard.descriptor.skill = skill := names.1
  have functionName : (builtin.function trust flag).guard.descriptor.function = builtin.name := names.2
  have ends := @SkillFunction.invoke_blocked (builtin.function trust flag) _ _ ⟨_, rfl⟩ sensitive found
    terms.token
  rw [Session.view, ends.refusal, Session.storeOf_congr ends.stores, skillName, functionName,
    step_of_blocked going blocked]
  exact congrArg (Snapshot.mk · (some _) _) held.storeOf

end Invoke

end State

end Builtin

end TaintTracking
