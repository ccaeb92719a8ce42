import TaintTracking.Builtin
import TaintTracking.Proofs.Session.Steps

/-!
Functions that invoke functions on the context they were given. Main statement: when the callables
leave writing to the adapters, the main variable never gains trust in the whole tree of invocations,
and one output let in without trust, however deep and whatever fails around it, leaves it untrusted;
the verdicts that enclosing functions obtained earlier cannot undo that.
-/

namespace TaintTracking

/-- What a callable may assume of a context in scope: it is a handle on the store that the callable was
given, or on one that the callable made, or it came back from a function that may have replaced it. -/
inductive Standing where
  | given
  | made
  | returned

namespace Standing

/-- The new context has the last position. -/
def push {n : Nat} (standing : Fin n → Standing) (new : Standing) : Fin (n + 1) → Standing :=
  fun i => if h : i.val < n then standing ⟨i.val, h⟩ else new

end Standing

/-- No variable is written except in contexts of the callable's own. -/
def Action.Abstains {n : Nat} (standing : Fin n → Standing) : Action n → Prop
  | .edit context _ => standing context = .made
  | _ => True

def Origin.standing {n : Nat} (standing : Fin n → Standing) : Origin n → Standing
  | .fresh _ => .made
  | .share context => standing context
  | .clone _ => .made

/-- What comes back from a function invoked on the given context. -/
def SkillFunction.returns (function : SkillFunction) : Standing :=
  match function.outputShape with
  | .context => .returned
  | _ => .given

mutual

/-- The callables write to no variable of the context that they were given, and invoke functions on that
context only, each of which does the same. -/
def SkillFunction.Delegates : SkillFunction → Prop
  | .native _ _ code => ∀ argument, (code argument).Delegates fun _ => .given
  | .semantic _ renderer backend =>
    (renderer.Delegates fun _ => .given) ∧ ∀ prompt, (backend prompt).Delegates fun _ => .given

def Program.Delegates : {output : OutputShape} → {n : Nat} → Program output n →
    (Fin n → Standing) → Prop
  | _, _, .done _, _ => True
  | _, _, .fail _, _ => True
  | _, _, .act action next, standing =>
    action.Abstains standing ∧ ∀ answer, (next answer).Delegates standing
  | _, _, .introduce origin next, standing =>
    next.Delegates (Standing.push standing (origin.standing standing))
  | _, _, .invoke context function next, standing =>
    standing context = .given ∧ function.Delegates ∧
      next.Delegates (Standing.push standing function.returns)

end

/-- An output was let in without trust: on a false verdict, or under a force flag. -/
def Event.LetsTaintIn : Event → Prop
  | .completed _ output verdict forced => output ≠ .context ∧ (verdict = false ∨ forced = true)
  | _ => False

/-- What may happen to a store between two moments: trust of the main variable is lost and never gained,
the other variables stay, and if an output was let in without trust, the main variable ends untrusted. -/
structure Session.OnlyTaints (home : StoreId) (s t : Session) : Prop where
  issued : s.issued ≤ t.issued
  others : (t.stores home).others = (s.stores home).others
  main : (t.stores home).main.trusted = true → (s.stores home).main.trusted = true
  trail : ∃ events, t.trail = events ++ s.trail ∧
    ((∃ event ∈ events, event.LetsTaintIn) → (t.stores home).main.trusted = false)

theorem Event.IsRemark.not_letsTaintIn : (event : Event) → event.IsRemark → ¬event.LetsTaintIn
  | .noted _, _ => id
  | .logged _, _ => id

theorem Event.IsCheck.not_letsTaintIn {descriptor : Descriptor} {store : Store}
    {verdict : Except TrustError Bool} :
    (event : Event) → event.IsCheck descriptor store verdict → ¬event.LetsTaintIn
  | .consulted _ _ _, _ => id
  | .logged _, _ => id

namespace Session.OnlyTaints
variable {home : StoreId} {s t u : Session}

theorem of_untouched (issued : s.issued ≤ t.issued) (same : t.stores home = s.stores home)
    (records : s.Records (fun event => ¬event.LetsTaintIn) t) : OnlyTaints home s t := by
  obtain ⟨events, trail, quiet⟩ := records
  refine ⟨issued, by rw [same], fun trusted => by rwa [← same], events, trail, ?_⟩
  rintro ⟨event, member, taints⟩
  exact absurd taints (quiet event member)

theorem refl (home : StoreId) (s : Session) : OnlyTaints home s s :=
  of_untouched (Nat.le_refl _) rfl (.refl s)

theorem trans (first : OnlyTaints home s t) (second : OnlyTaints home t u) :
    OnlyTaints home s u := by
  obtain ⟨early, earlyTrail, earlyTaints⟩ := first.trail
  obtain ⟨late, lateTrail, lateTaints⟩ := second.trail
  refine ⟨Nat.le_trans first.issued second.issued, second.others.trans first.others,
    fun trusted => first.main (second.main trusted), late ++ early, ?_, ?_⟩
  · rw [lateTrail, earlyTrail, List.append_assoc]
  · rintro ⟨event, member, taints⟩
    rcases List.mem_append.mp member with inLate | inEarly
    · exact lateTaints ⟨event, inLate, taints⟩
    · -- Taint that came in early is still there, since no trust is gained later.
      have untrusted := earlyTaints ⟨event, inEarly, taints⟩
      cases trusted : (u.stores home).main.trusted with
      | false => rfl
      | true => exact absurd (second.main trusted) (by rw [untrusted]; exact Bool.false_ne_true)

theorem of_log (entry : Log.Entry) : OnlyTaints home s (s.log entry) :=
  of_untouched (Nat.le_refl _) rfl (.of_trail_cons (log_trail ..) id)

theorem of_enter (guard : Guard) (role : Role) (caller : Context) :
    OnlyTaints home s (guard.enter role caller s) :=
  of_untouched (Nat.le_refl _) rfl (.of_trail_cons (record_trail ..) id)

theorem of_consult (guard : Guard) (caller : Context) :
    OnlyTaints home s (guard.consult caller s).2 :=
  of_untouched (Nat.le_of_eq (Guard.issued_of_consult rfl).symm)
    (congrFun (Guard.stores_of_consult rfl) home)
    ((Guard.records_of_consult rfl).mono Event.IsCheck.not_letsTaintIn)

theorem of_consultRendered (guard : Guard) (caller : Context) (rendered : String) :
    OnlyTaints home s (guard.consultRendered caller rendered s).2 :=
  of_untouched (Nat.le_of_eq (Guard.issued_of_consultRendered rfl).symm)
    (congrFun (Guard.stores_of_consultRendered rfl) home)
    ((Guard.records_of_consultRendered rfl).mono Event.IsCheck.not_letsTaintIn)

/-- What is let in is conjoined with the main variable as it is by then. -/
theorem of_settle (guard : Guard) (output : OutputShape) (caller : Context) (verdict forced : Bool)
    (result : output.Result) (s : Session) :
    OnlyTaints caller.store s (output.settle caller (verdict && !forced)
      (guard.complete output verdict forced s) result).2 := by
  have issued := output.settle_issued caller (verdict && !forced)
    (guard.complete output verdict forced s) result
  have others := output.settle_others caller (verdict && !forced)
    (guard.complete output verdict forced s) result
  have trail := output.settle_trail caller (verdict && !forced)
    (guard.complete output verdict forced s) result
  by_cases replaces : output = .context
  · subst replaces
    refine of_untouched (Nat.le_of_eq issued.symm) rfl (.of_trail_cons trail ?_)
    exact fun taints => taints.1 rfl
  · have main := output.settle_main_trusted caller (verdict && !forced)
      (guard.complete output verdict forced s) replaces result
    refine ⟨Nat.le_of_eq issued.symm, others, fun trusted => ?_, [_], trail, ?_⟩
    · exact (Bool.and_eq_true_iff.mp (main.symm.trans trusted)).1
    · rintro ⟨event, member, taints⟩
      obtain rfl := List.mem_singleton.mp member
      refine main.trans ?_
      rcases taints.2 with rfl | rfl <;> simp

end Session.OnlyTaints

/-- Each context in scope has the store that its standing says, where `home` is the given one. -/
structure Scope.Fits {n : Nat} (scope : Scope n) (standing : Fin n → Standing) (home : StoreId) :
    Prop where
  given : ∀ i, standing i = .given → (scope i).store = home
  made : ∀ i, standing i = .made → (scope i).store ≠ home

namespace Scope.Fits
variable {n : Nat} {scope : Scope n} {standing : Fin n → Standing} {home : StoreId}

theorem of_given {context : Context} (here : context.store = home) :
    (Scope.ofContext context : Scope n).Fits (fun _ => .given) home :=
  ⟨fun _ _ => here, fun _ differs => nomatch differs⟩

theorem perform (fits : scope.Fits standing home) (action : Action n) (token : Option TokenId)
    (s : Session) : (action.perform scope token s).2.1.Fits standing home := by
  refine ⟨fun i here => ?_, fun i elsewhere => ?_⟩
  · exact (action.perform_scope_store scope token s i).trans (fits.given i here)
  · rw [action.perform_scope_store scope token s i]
    exact fits.made i elsewhere

/-- A context may join the scope under any standing that its store has. -/
theorem push (fits : scope.Fits standing home) {context : Context} {new : Standing}
    (given : new = .given → context.store = home) (made : new = .made → context.store ≠ home) :
    (scope.push context).Fits (Standing.push standing new) home := by
  refine ⟨fun i => ?_, fun i => ?_⟩
  · simp only [Scope.push, Standing.push]
    split
    · exact fits.given _
    · exact given
  · simp only [Scope.push, Standing.push]
    split
    · exact fits.made _
    · exact made

theorem create (fits : scope.Fits standing home) (origin : Origin n) {s : Session}
    (old : home < s.issued) :
    (scope.push (origin.create scope s).1).Fits
      (Standing.push standing (origin.standing standing)) home := by
  cases origin with
  | share context => exact fits.push (fits.given context) (fits.made context)
  | fresh store => exact fits.push (nomatch ·) fun _ => (Nat.ne_of_lt old).symm
  | clone context => exact fits.push (nomatch ·) fun _ => (Nat.ne_of_lt old).symm

/-- A context that a function was invoked on comes back as the same one unless it is replaced. -/
theorem returned (fits : scope.Fits standing home) {context : Context}
    (here : context.store = home) (function : SkillFunction) (token : TokenId) (s : Session) :
    (scope.push (function.invoke context token s).1).Fits
      (Standing.push standing function.returns) home := by
  by_cases replaces : function.outputShape = .context
  · have unknown : function.returns = .returned := by rw [SkillFunction.returns, replaces]
    rw [unknown]
    exact fits.push (nomatch ·) (nomatch ·)
  · have given : function.returns = .given := by
      rw [SkillFunction.returns]
      split
      next same => exact absurd same replaces
      next => rfl
    rw [given]
    exact fits.push (fun _ => (SkillFunction.invoke_store replaces context token s).trans here)
      (nomatch ·)

end Scope.Fits

/-- An action that abstains writes to no given store. -/
theorem Action.Abstains.target?_ne {n : Nat} {action : Action n} {standing : Fin n → Standing}
    {scope : Scope n} {home : StoreId} (abstains : action.Abstains standing)
    (fits : scope.Fits standing home) : action.target? scope ≠ some home := by
  cases action with
  | edit context change => exact fun here => fits.made context abstains (Option.some.inj here)
  | _ => exact nofun

namespace Session.OnlyTaints
variable {home : StoreId} {s t : Session}

theorem of_perform {n : Nat} {action : Action n} {standing : Fin n → Standing} {scope : Scope n}
    (abstains : action.Abstains standing) (fits : scope.Fits standing home)
    (token : Option TokenId) (s : Session) :
    OnlyTaints home s (action.perform scope token s).2.2 :=
  of_untouched (Nat.le_of_eq (action.perform_issued scope token s).symm)
    (action.perform_stores scope token s (abstains.target?_ne fits))
    ((action.perform_records scope token s).mono Event.IsRemark.not_letsTaintIn)

theorem of_create {n : Nat} (origin : Origin n) (scope : Scope n) (old : home < s.issued) :
    OnlyTaints home s (origin.create scope s).2 :=
  of_untouched (origin.create_issued_le scope s) (origin.create_stores scope s old)
    (.of_trail_eq (origin.create_trail scope s))

theorem of_tokenOrNew (token : Option TokenId) : OnlyTaints home s (s.tokenOrNew token).2 := by
  cases token with
  | some given => exact refl home s
  | none => exact of_untouched (Nat.le_succ _) rfl (.of_trail_eq rfl)

/-- What an adapter does around the callables. -/
theorem keeps (guard : Guard) (caller : Context) (s : Session) :
    guard.Keeps caller (OnlyTaints caller.store s) where
  consult _ only := only.trans (of_consult guard caller)
  consultRendered rendered _ only := only.trans (of_consultRendered guard caller rendered)
  log entry _ only := only.trans (of_log entry)
  enter role _ _ only := only.trans (of_enter guard role caller)
  settle output verdict forced result t only :=
    only.trans (of_settle guard output caller verdict forced result t)

theorem lt_issued (only : OnlyTaints home s t) (old : home < s.issued) : home < t.issued :=
  Nat.lt_of_lt_of_le old only.issued

end Session.OnlyTaints

open Session

mutual

theorem SkillFunction.invoke_onlyTaints : (function : SkillFunction) → function.Delegates →
    ∀ (caller : Context) (token : TokenId) (s : Session), s.HasStore caller →
      OnlyTaints caller.store s (function.invoke caller token s).2
  | .native guard shape code, delegates, caller, token, s, known => by
    rw [SkillFunction.Delegates] at delegates
    have here : (shape.given caller).store = caller.store := by
      simp only [Shape.given]
      split <;> rfl
    refine SkillFunction.invoke_keeps (.native guard shape code) token
      (OnlyTaints.keeps guard caller s) ?_ (.refl _ s)
    intro argument t only
    exact only.trans (Program.run_onlyTaints (code argument) (delegates argument) (.of_given here) _ t
      (only.lt_issued known))
  | .semantic guard renderer backend, delegates, caller, token, s, known => by
    rw [SkillFunction.Delegates] at delegates
    refine SkillFunction.invoke_keeps (.semantic guard renderer backend) token
      (OnlyTaints.keeps guard caller s) ⟨?_, ?_⟩ (.refl _ s)
    · intro t only
      exact only.trans (Program.run_onlyTaints renderer delegates.1 (.of_given rfl) _ t
        (only.lt_issued known))
    · intro prompt t only
      exact only.trans (Program.run_onlyTaints (backend prompt) (delegates.2 prompt) (.of_given rfl)
        _ t (only.lt_issued known))

theorem Program.run_onlyTaints {home : StoreId} : {output : OutputShape} → {n : Nat} →
    (program : Program output n) → {standing : Fin n → Standing} → program.Delegates standing →
      {scope : Scope n} → scope.Fits standing home → ∀ (token : Option TokenId) (s : Session),
        home < s.issued → OnlyTaints home s (program.run scope token s).2
  | _, _, .done value, _, _, scope, _, token, s, _ => by
    rw [Program.run]
    exact .refl home s
  | _, _, .fail cause, _, _, scope, _, token, s, _ => by
    rw [Program.run]
    exact .refl home s
  | _, _, .act action next, _, delegates, scope, fits, token, s, old => by
    rw [Program.Delegates] at delegates
    rw [Program.run]
    have first := OnlyTaints.of_perform delegates.1 fits token s
    exact first.trans (Program.run_onlyTaints (next _) (delegates.2 _) (fits.perform action token s)
      token _ (first.lt_issued old))
  | _, _, .introduce origin next, _, delegates, scope, fits, token, s, old => by
    rw [Program.Delegates] at delegates
    rw [Program.run]
    have first := OnlyTaints.of_create origin scope old
    exact first.trans (Program.run_onlyTaints next delegates (fits.create origin old) token _
      (first.lt_issued old))
  | _, _, .invoke context function next, _, delegates, scope, fits, token, s, old => by
    rw [Program.Delegates] at delegates
    rw [Program.run]
    obtain ⟨given, functionDelegates, nextDelegates⟩ := delegates
    have here : (scope context).share.store = home := fits.given context given
    have issued : OnlyTaints home s (s.tokenOrNew token).2 := .of_tokenOrNew token
    have invoked := SkillFunction.invoke_onlyTaints function functionDelegates
      (scope context).share (s.tokenOrNew token).1 (s.tokenOrNew token).2
      (Nat.lt_of_le_of_lt (Nat.le_of_eq here) (issued.lt_issued old))
    rw [here] at invoked
    have before := issued.trans invoked
    exact before.trans (Program.run_onlyTaints next nextDelegates (fits.returned here function _ _)
      token _ (before.lt_issued old))

end

namespace SkillFunction

/-- Taint survives nesting: whatever functions are invoked inside, and whichever of them fail, the main
variable is no more trusted than before, nothing else changes, and no output let in without trust is
forgotten. -/
theorem taint_survives (function : SkillFunction) (delegates : function.Delegates)
    (inPlace : function.outputShape ≠ .context) (caller : Context) (token : TokenId) (s : Session)
    (known : s.HasStore caller) :
    ∃ context t events, function.invoke caller token s = (context, t) ∧
      context.store = caller.store ∧
      ((t.storeOf context).main.trusted = true → (s.storeOf caller).main.trusted = true) ∧
      (t.storeOf context).others = (s.storeOf caller).others ∧
      t.trail = events ++ s.trail ∧
      ∀ event ∈ events, event.LetsTaintIn → (t.storeOf context).main.trusted = false := by
  have same := SkillFunction.invoke_store inPlace caller token s
  have only := function.invoke_onlyTaints delegates caller token s known
  obtain ⟨events, trail, taints⟩ := only.trail
  refine ⟨_, _, events, rfl, same, ?_⟩
  rw [Session.storeOf, same]
  exact ⟨only.main, only.others, trail, fun event member letsIn => taints ⟨event, member, letsIn⟩⟩

/-- A function that hands its context to `fetch` and fails after that. -/
def fetchThenFail : SkillFunction :=
  .native ⟨Descriptor.new "desk" "relay", 0, .contextual true⟩ ⟨.context, .nothing, true⟩ fun _ =>
    .invoke (Fin.last 0) (Builtin.fetch.function .default 1) (.fail (.ofRoot "late"))

theorem fetchThenFail_delegates : fetchThenFail.Delegates := by
  simp [fetchThenFail, Delegates, Program.Delegates, Builtin.function, ofBody, Builtin.body,
    Builtin.fetchCode, Action.Abstains]

/-- A context with nothing on it yet. -/
def desk : Context × Session := Session.empty.newContext Store.new

/-- The main variable was trusted, and is not after `fetch`, although its caller failed. -/
theorem taint_survives_fetchThenFail :
    fetchThenFail.outputShape ≠ .context ∧ desk.2.HasStore desk.1 ∧
      (desk.2.storeOf desk.1).main.trusted = true ∧
      ∃ context t, fetchThenFail.invoke desk.1 0 desk.2 = (context, t) ∧
        context.hasError = true ∧ (t.storeOf context).main.trusted = false := by
  have inPlace : fetchThenFail.outputShape ≠ .context := by decide
  have known : desk.2.HasStore desk.1 := by decide
  obtain ⟨context, t, events, ran, -, -, -, trail, taints⟩ :=
    fetchThenFail.taint_survives fetchThenFail_delegates inPlace desk.1 0 desk.2 known
  refine ⟨inPlace, known, rfl, context, t, ran, ?_, ?_⟩
  · exact congrArg (fun out => out.1.hasError) ran.symm
  · have completed : t.trail[1]? = some (.completed Builtin.fetch.descriptor .text true true) :=
      congrArg (fun out => out.2.trail[1]?) ran.symm
    have fresh : desk.2.trail = [] := rfl
    rw [trail, fresh, List.append_nil] at completed
    exact taints _ (List.mem_of_getElem? completed) ⟨OutputShape.noConfusion, .inr rfl⟩

end SkillFunction

end TaintTracking
