import TaintTracking.Proofs.Program.InTurn
import TaintTracking.Proofs.Session.Renumbering

/-!
Synchronous and asynchronous bodies. A synchronous body has no token and makes a new one wherever it invokes
a function; an asynchronous body is given one, and a share of the context. Main statement: for code that does not
use its token this makes no difference but in the numbers of what it hands out.
-/

namespace TaintTracking

mutual

/-- No callable uses the token that it is given, here and in all functions that are invoked with it. -/
def SkillFunction.IgnoresToken : SkillFunction → Prop
  | .native _ shape code => shape.asynchronous = true → ∀ argument, (code argument).IgnoresToken
  | .semantic _ _ backend => ∀ prompt, (backend prompt).IgnoresToken

def Program.IgnoresToken : {output : OutputShape} → {n : Nat} → Program output n → Prop
  | _, _, .done _ => True
  | _, _, .fail _ => True
  | _, _, .act action next => action.withoutToken? = none ∧ ∀ answer, (next answer).IgnoresToken
  | _, _, .introduce _ next => next.IgnoresToken
  | _, _, .invoke _ function next => function.IgnoresToken ∧ next.IgnoresToken

end

mutual

theorem SkillFunction.invoke_of_ignores : (function : SkillFunction) → function.IgnoresToken →
    ∀ (caller : Context) (token other : TokenId) (s : Session),
      function.invoke caller token s = function.invoke caller other s
  | .native guard shape code, ignores, caller, token, other, s => by
    rw [SkillFunction.IgnoresToken] at ignores
    have same : ∀ verdict t, SkillFunction.runBody guard shape code caller token verdict t =
        SkillFunction.runBody guard shape code caller other verdict t := by
      intro verdict t
      unfold SkillFunction.runBody Shape.token
      split
      next asynchronous =>
        exact Program.run_of_ignores (code _) (ignores asynchronous _) _ token other _
      next => rfl
    simp only [SkillFunction.invoke_native, same]
  | .semantic guard renderer backend, ignores, caller, token, other, s => by
    rw [SkillFunction.IgnoresToken] at ignores
    have same : ∀ prompt t, SkillFunction.runBackend guard backend caller token prompt t =
        SkillFunction.runBackend guard backend caller other prompt t := fun prompt t =>
      Program.run_of_ignores (backend prompt.content) (ignores prompt.content) _ token other _
    simp only [SkillFunction.invoke_semantic, same]

theorem Program.run_of_ignores : {output : OutputShape} → {n : Nat} → (program : Program output n) →
    program.IgnoresToken → ∀ (scope : Scope n) (token other : TokenId) (s : Session),
      program.run scope (some token) s = program.run scope (some other) s
  | _, _, .done _, _, _, _, _, _ => by rw [Program.run, Program.run]
  | _, _, .fail _, _, _, _, _, _ => by rw [Program.run, Program.run]
  | _, _, .act action next, ignores, scope, token, other, s => by
    rw [Program.IgnoresToken] at ignores
    rw [Program.run, Program.run, Action.perform_of_no_answer scope s ignores.1 (some token),
      Action.perform_of_no_answer scope s ignores.1 (some other)]
    exact Program.run_of_ignores (next _) (ignores.2 _) _ token other _
  | _, _, .introduce origin next, ignores, scope, token, other, s => by
    rw [Program.IgnoresToken] at ignores
    rw [Program.run, Program.run]
    exact Program.run_of_ignores next ignores _ token other _
  | _, _, .invoke context function next, ignores, scope, token, other, s => by
    rw [Program.IgnoresToken] at ignores
    rw [Program.run, Program.run]
    dsimp only [Session.tokenOrNew]
    rw [SkillFunction.invoke_of_ignores function ignores.1 (scope context).share token other s]
    exact Program.run_of_ignores next ignores.2 _ token other _

end

/-- What an asynchronous program starts with: contexts and tokens that were handed out before, in a session
that knows of nothing to come. -/
structure Scope.Known {n : Nat} (scope : Scope n) (held : TokenId → Prop) (token : TokenId)
    (s : Session) : Prop where
  run : ∀ i, (scope i).run < s.issued
  store : ∀ i, (scope i).store < s.issued
  token : token < s.issued
  held : ∀ other, held other → other < s.issued
  tidy : s.Tidy

namespace Scope.Known
variable {n : Nat} {scope : Scope n} {held : TokenId → Prop} {token : TokenId} {s : Session}
  (known : scope.Known held token s)

def gap (known : scope.Known held token s) (width : Nat) : Gap := ⟨s.issued, width, held, known.held⟩

include known

theorem pairs (width : Nat) (i : Fin n) : (known.gap width).Pairs s.issued (scope i) (scope i) :=
  ⟨(Context.renumber_of_known (known.gap width).numbers (known.run i) (known.store i)).symm,
    known.run i, known.store i⟩

theorem tokenPair (width : Nat) : (known.gap width).simulation.tokens s.issued token token :=
  ⟨((known.gap width).numbers.fixes token known.token).symm, known.token⟩

theorem perform (action : Action n) (holds : action.HoldsOnly held) :
    (action.perform scope (some token) s).2.1.Known held token
      (action.perform scope (some token) s).2.2 := by
  have start := (known.gap 0).match_skip known.tidy rfl
  obtain ⟨-, scopes, after⟩ := Simulation.perform
    (show (known.gap 0).simulation.sessions s s from start) (known.pairs 0)
    (.some (known.tokenPair 0)) action holds
  have issued := action.perform_issued scope (some token) s
  refine ⟨fun i => ?_, fun i => ?_, ?_, ?_, after.tidy⟩
  · rw [issued]
    exact (scopes i).run
  · rw [issued]
    exact (scopes i).store
  · rw [issued]
    exact known.token
  · rw [issued]
    exact known.held

theorem push {t : Session} (grown : s.issued ≤ t.issued) (tidy : t.Tidy) {context : Context}
    (run : context.run < t.issued) (store : context.store < t.issued) :
    (scope.push context).Known held token t where
  run i := by
    unfold Scope.push
    split
    · exact Nat.lt_of_lt_of_le (known.run _) grown
    · exact run
  store i := by
    unfold Scope.push
    split
    · exact Nat.lt_of_lt_of_le (known.store _) grown
    · exact store
  token := Nat.lt_of_lt_of_le known.token grown
  held other member := Nat.lt_of_lt_of_le (known.held other member) grown
  tidy := tidy

theorem create (origin : Origin n) :
    (scope.push (origin.create scope s).1).Known held token (origin.create scope s).2 := by
  have start := (known.gap 0).match_skip known.tidy rfl
  obtain ⟨new, after⟩ := Simulation.create
    (show (known.gap 0).simulation.sessions s s from start) (known.pairs 0) origin
  exact known.push (origin.create_issued_le scope s) after.tidy new.run new.store

end Scope.Known

namespace Renumbering
variable {known later : Nat}

/-- A program comes to the same end, under other numbers. -/
structure Ends (ρ : Renumbering known) (shape : OutputShape)
    (out out' : Except Cause shape.Result × Session) : Prop where
  result : out'.1 = out.1.map (shape.renumber ρ.map)
  session : out.2.Renumbered ρ.map out'.2

theorem ends_refl {shape : OutputShape} (out : Except Cause shape.Result × Session) :
    (refl known).Ends shape out out := by
  obtain ⟨result, s⟩ := out
  refine ⟨?_, .refl s⟩
  cases result with
  | error cause => rfl
  | ok result => cases shape <;> rfl

theorem Ends.weaken {ρ : Renumbering later} {shape : OutputShape}
    {out out' : Except Cause shape.Result × Session} (ends : ρ.Ends shape out out')
    (grown : known ≤ later) : (ρ.weaken grown).Ends shape out out' := ⟨ends.result, ends.session⟩

theorem Ends.trans {ρ σ : Renumbering known} {shape : OutputShape}
    {out out' out'' : Except Cause shape.Result × Session} (first : ρ.Ends shape out out')
    (second : σ.Ends shape out' out'') : (ρ.trans σ).Ends shape out out'' := by
  refine ⟨?_, first.session.trans second.session⟩
  rw [second.result, first.result]
  cases out.1 with
  | error cause => rfl
  | ok result => cases shape <;> rfl

theorem ends_of_gap {gap : Gap} {shape : OutputShape} {out out' : Except Cause shape.Result × Session}
    (ends : gap.simulation.Ends shape out out') : gap.numbers.Ends shape out out' := by
  obtain ⟨cause, t, t', rfl, rfl, same⟩ | ⟨output, output', t, t', rfl, rfl, outputs, same⟩ := ends.cases
  · exact ⟨rfl, same.renumbered⟩
  · refine ⟨?_, same.renumbered⟩
    cases shape with
    | nothing => rfl
    | text => exact congrArg Except.ok outputs
    | context => exact congrArg Except.ok outputs.renumbered

end Renumbering

/-- A program that ignores its token comes to the same end without one, but for the numbers that go to the
new tokens. -/
theorem Program.run_without_token {held : TokenId → Prop} : {output : OutputShape} → {n : Nat} →
    (program : Program output n) → program.IgnoresToken → program.HoldsOnly held →
    ∀ {scope : Scope n} {token : TokenId} {s : Session}, scope.Known held token s →
      ∃ ρ : Renumbering s.issued,
        ρ.Ends output (program.run scope (some token) s) (program.run scope none s)
  | _, _, .done value, _, _, scope, token, s, _ => by
    rw [Program.run, Program.run]
    exact ⟨.refl s.issued, Renumbering.ends_refl _⟩
  | _, _, .fail cause, _, _, scope, token, s, _ => by
    rw [Program.run, Program.run]
    exact ⟨.refl s.issued, Renumbering.ends_refl _⟩
  | _, _, .act action next, ignores, holds, scope, token, s, known => by
    rw [Program.IgnoresToken] at ignores
    rw [Program.HoldsOnly] at holds
    rw [Program.run, Program.run, ← Action.perform_of_no_answer scope s ignores.1 (some token)]
    have after := known.perform action holds.1
    obtain ⟨ρ, ends⟩ := Program.run_without_token (next _) (ignores.2 _) (holds.2 _) after
    exact ⟨_, ends.weaken (Nat.le_of_eq (action.perform_issued scope (some token) s).symm)⟩
  | _, _, .introduce origin next, ignores, holds, scope, token, s, known => by
    rw [Program.IgnoresToken] at ignores
    rw [Program.HoldsOnly] at holds
    rw [Program.run, Program.run]
    obtain ⟨ρ, ends⟩ := Program.run_without_token next ignores holds (known.create origin)
    exact ⟨_, ends.weaken (origin.create_issued_le scope s)⟩
  | output, _, .invoke context function next, ignores, holds, scope, token, s, known => by
    rw [Program.IgnoresToken] at ignores
    rw [Program.HoldsOnly] at holds
    rw [Program.run, Program.run]
    dsimp only [Session.tokenOrNew]
    rw [function.invoke_of_ignores ignores.1 (scope context).share s.newToken.1 token s.newToken.2]
    -- One number goes to the new token; from there on the two runs are the same up to this gap.
    let gap := known.gap 1
    have start : gap.simulation.sessions s s.newToken.2 := gap.match_skip known.tidy rfl
    have shared : gap.simulation.contexts s.issued (scope context).share (scope context).share :=
      gap.simulation.clearError (known.pairs 1 context)
    obtain ⟨pairs, same⟩ := function.invoke_simulates gap.simulation
      (function.everyGuard_of_forall fun _ => True.intro) holds.1 start shared (known.tokenPair 1)
    have grown := function.issued_le_invoke (scope context).share token s
    have later : s.issued ≤ (function.invoke (scope context).share token s.newToken.2).2.issued := by
      rw [same.issued]
      exact Nat.le_add_right_of_le grown
    have scopes := Simulation.push (fun i => gap.simulation.contexts_mono grown (known.pairs 1 i)) pairs
    have alike := next.run_simulates gap.simulation
      (next.everyGuard_of_forall fun _ => True.intro) holds.2 same scopes
      (Simulation.given_mono grown (.some (known.tokenPair 1)))
    obtain ⟨run, store⟩ := same.known pairs
    obtain ⟨ρ, ends⟩ := Program.run_without_token next ignores.2 holds.2
      (known.push later same.tidy run store)
    exact ⟨_, (Renumbering.ends_of_gap alike).trans (ends.weaken later)⟩

namespace SkillFunction

/-- What an invocation starts with: its context and its token were handed out before, by a session that knows of
nothing to come. -/
structure Ready (caller : Context) (token : TokenId) (s : Session) : Prop where
  run : caller.run < s.issued
  store : s.HasStore caller
  token : token < s.issued
  tidy : s.Tidy

end SkillFunction

namespace Renumbering

/-- An invocation comes to the same end, under other numbers. -/
structure Relates {known : Nat} (ρ : Renumbering known) (out out' : Context × Session) : Prop where
  context : out'.1 = out.1.renumber ρ.map
  session : out.2.Renumbered ρ.map out'.2

variable {known : Nat} {ρ : Renumbering known}

theorem Relates.view {out out' : Context × Session} (relates : ρ.Relates out out') :
    out'.2.view out'.1 = out.2.view out.1 := by
  rw [relates.context]
  exact relates.session.view out.1

theorem Relates.stores_of_known {out out' : Context × Session} (relates : ρ.Relates out out')
    {id : StoreId} (old : id < known) : out'.2.stores id = out.2.stores id := by
  have same := relates.session.stores id
  rwa [ρ.fixes id old] at same

theorem relates_settle {caller : Context} (same : caller.renumber ρ.map = caller) (trusted : Bool)
    {s t : Session} (renumbered : s.Renumbered ρ.map t) (shape : OutputShape) (result : shape.Result) :
    ρ.Relates (shape.settle caller trusted s result)
      (shape.settle caller trusted t (shape.renumber ρ.map result)) := by
  have edited : ∀ change, (s.edit caller change).Renumbered ρ.map (t.edit caller change) := by
    intro change
    have edited := renumbered.edit ρ.injective caller change
    rwa [same] at edited
  cases shape with
  | nothing =>
    cases trusted with
    | true => exact ⟨same.symm, renumbered⟩
    | false => exact ⟨same.symm, edited _⟩
  | text => exact ⟨same.symm, edited _⟩
  | context => exact ⟨rfl, renumbered⟩

end Renumbering

namespace SkillFunction

/-- A context without an error is not changed by sharing it, so the two bodies begin with the same one. -/
theorem runBody_relates {guard : Guard} {input : InputShape} {output : OutputShape}
    {code : input.Argument → Program output input.contexts} {caller : Context} {token : TokenId}
    {s : Session} (ignores : ∀ argument, (code argument).IgnoresToken)
    (holds : ∀ argument, (code argument).HoldsOnly (· < s.issued)) (shared : caller.share = caller)
    (ready : Ready caller token s) (verdict : Bool) :
    ∃ ρ : Renumbering s.issued,
      ρ.Ends output (runBody guard ⟨input, output, true⟩ code caller token verdict s)
        (runBody guard ⟨input, output, false⟩ code caller token verdict s) := by
  let entered := guard.enter .body caller (guard.logInvoking verdict s)
  have known : @Scope.Known input.contexts (Scope.ofContext caller) (· < s.issued) token entered :=
    ⟨fun _ => ready.run, fun _ => ready.store, ready.token, fun _ old => old,
      ready.tidy.congr rfl rfl rfl rfl⟩
  obtain ⟨ρ, ends⟩ := Program.run_without_token (code (input.argument (s.storeOf caller).main.content))
    (ignores _) (holds _) known
  refine ⟨ρ, ?_⟩
  change ρ.Ends output ((code _).run (Scope.ofContext caller.share) (some token) entered)
    ((code _).run (Scope.ofContext caller) none entered)
  rw [shared]
  exact ends

theorem invoke_relates {guard : Guard} {input : InputShape} {output : OutputShape}
    {code : input.Argument → Program output input.contexts} {caller : Context} {token : TokenId}
    {s : Session} (ignores : ∀ argument, (code argument).IgnoresToken)
    (holds : ∀ argument, (code argument).HoldsOnly (· < s.issued)) (shared : caller.share = caller)
    (ready : Ready caller token s) :
    ∃ ρ : Renumbering s.issued,
      ρ.Relates ((native guard ⟨input, output, true⟩ code).invoke caller token s)
        ((native guard ⟨input, output, false⟩ code).invoke caller token s) := by
  obtain ⟨consultations, trail, after⟩ := guard.consult_session caller s
  rw [invoke_native, invoke_native]
  rcases consulted : guard.consult caller s with ⟨error | verdict, asked⟩
  · exact ⟨.refl s.issued, rfl, .refl asked⟩
  · rw [consulted] at after
    subst after
    let asked := { s with consultations, trail }
    have still : Ready caller token asked :=
      ⟨ready.run, ready.store, ready.token, ready.tidy.congr rfl rfl rfl rfl⟩
    obtain ⟨ρ, result, session⟩ :=
      @runBody_relates guard input output code caller token asked ignores holds shared still verdict
    have same : caller.renumber ρ.map = caller := Context.renumber_of_known ρ ready.run ready.store
    dsimp only
    generalize runBody guard ⟨input, output, true⟩ code caller token verdict asked = out
      at result session ⊢
    generalize runBody guard ⟨input, output, false⟩ code caller token verdict asked = out'
      at result session ⊢
    obtain ⟨outcome, left⟩ := out
    obtain ⟨outcome', left'⟩ := out'
    subst result
    cases outcome with
    | error cause =>
      exact ⟨ρ, congrArg (·.fail (guard.failure cause)) same.symm, session.record _⟩
    | ok result =>
      exact ⟨ρ, Renumbering.relates_settle same _ (session.record _) output result⟩

/-- For code that does not use its token, a synchronous and an asynchronous function give the caller the same
variables and the same error, in its own run and on its own store, and leave the same trail. Only what was handed
out in the meantime may have other numbers. -/
theorem sync_async_agree {guard : Guard} {input : InputShape} {output : OutputShape}
    {code : input.Argument → Program output input.contexts} {caller : Context} {token : TokenId}
    {s : Session} (ignores : ∀ argument, (code argument).IgnoresToken)
    (holds : ∀ argument, (code argument).HoldsOnly (· < s.issued)) (coherent : caller.Coherent)
    (clean : caller.hasError = false) (ready : Ready caller token s) :
    let sync := (native guard ⟨input, output, false⟩ code).invoke caller token s
    let async := (native guard ⟨input, output, true⟩ code).invoke caller token s
    sync.2.view sync.1 = async.2.view async.1 ∧
      (output ≠ .context → sync.1.run = async.1.run ∧ sync.1.store = async.1.store) ∧
      (∀ id < s.issued, sync.2.stores id = async.2.stores id) ∧
      ∃ ρ : Renumbering s.issued, ρ.Relates async sync := by
  intro sync async
  obtain ⟨ρ, relates⟩ : ∃ ρ : Renumbering s.issued, ρ.Relates async sync :=
    invoke_relates ignores holds (coherent.clearError clean) ready
  refine ⟨relates.view, fun inPlace => ⟨?_, ?_⟩, fun id => relates.stores_of_known, ρ, relates⟩
  · have run := fun asynchronous =>
      @invoke_run (native guard ⟨input, output, asynchronous⟩ code) inPlace caller token s
    exact (run false).trans (run true).symm
  · have store := fun asynchronous =>
      @invoke_store (native guard ⟨input, output, asynchronous⟩ code) inPlace caller token s
    exact (store false).trans (store true).symm

def fileGuard : Guard := ⟨Descriptor.new "desk" "file", 6, .contextual true⟩

/-- Has the context filed by another function, and gives a new one. -/
def fileCode : Program .context 1 :=
  .invoke (Fin.last 0)
    (.native fileGuard ⟨.context, .nothing, true⟩ fun _ =>
      .act (.edit (Fin.last 0) (.insert "Filed" "yes")) fun _ => @Program.done .nothing 1 ())
    (.introduce (.fresh (Store.ofMain (TaintedValue.ofText "copy"))) (@Program.done .context 3 (Fin.last 2)))

/-- The synchronous body hands number 2 to a token, the asynchronous one to its new context. -/
theorem sync_async_agree_file :
    let s := (Session.empty.newContext (Store.ofMain (TaintedValue.ofText "mail"))).2.newToken.2
    let caller := Context.new 0 0
    let sync := (native fileGuard ⟨.context, .context, false⟩ fun _ => fileCode).invoke caller 1 s
    let async := (native fileGuard ⟨.context, .context, true⟩ fun _ => fileCode).invoke caller 1 s
    fileCode.IgnoresToken ∧ fileCode.HoldsOnly (· < s.issued) ∧ caller.Coherent ∧
      caller.hasError = false ∧ Ready caller 1 s ∧ sync.1 = Context.new 3 3 ∧
      async.1 = Context.new 2 2 ∧ sync.2.view sync.1 = async.2.view async.1 := by
  intro s caller sync async
  have ignores : fileCode.IgnoresToken := by
    simp [fileCode, SkillFunction.IgnoresToken, Program.IgnoresToken, Action.withoutToken?]
  have holds : fileCode.HoldsOnly (· < s.issued) := by
    simp [fileCode, SkillFunction.HoldsOnly, Program.HoldsOnly, Action.HoldsOnly]
  have tidy : s.Tidy :=
    (Session.Tidy.empty.issue.putStore (show Session.HasStore _ caller by decide) _).issue
  have ready : Ready caller 1 s := ⟨by decide, by decide, by decide, tidy⟩
  have law := @sync_async_agree fileGuard .context .context (fun _ => fileCode) caller 1 s
    (fun _ => ignores) (fun _ => holds) rfl rfl ready
  exact ⟨ignores, holds, rfl, rfl, ready, rfl, rfl, law.1⟩

end SkillFunction

end TaintTracking
