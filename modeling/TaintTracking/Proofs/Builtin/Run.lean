import Mathlib.Algebra.GroupWithZero.Nat
import Mathlib.Algebra.Order.BigOperators.Group.List
import Mathlib.Algebra.Order.Group.Nat
import TaintTracking.Proofs.Builtin.Invocation
import TaintTracking.Proofs.Builtin.Lookup
import TaintTracking.Proofs.Pipeline.Boundary

/-!
Runs of built-in functions. Main statements: at every boundary that a run reaches, its context shows the
state that the functions before it make of the input; a step is invoked exactly if none before it was
refused and the token is not cancelled by then.
-/

namespace TaintTracking

namespace Builtin

/-- The time that functions take one after another. -/
def elapsed (builtins : List Builtin) : Nat := (builtins.map duration).sum

theorem elapsed_take_succ {builtins : List Builtin} {k : Nat} (inside : k < builtins.length) :
    elapsed (builtins.take (k + 1)) = elapsed (builtins.take k) + builtins[k].duration := by
  rw [List.take_succ_eq_append_getElem inside, elapsed, List.map_append, List.sum_append]
  rfl

theorem elapsed_take_mono (builtins : List Builtin) {j k : Nat} (earlier : j ≤ k) :
    elapsed (builtins.take j) ≤ elapsed (builtins.take k) := by
  simp only [elapsed, List.map_take]
  exact List.monotone_sum_take _ earlier

namespace State

/-- The error at the end of a run of `n` functions that invoked `k` of them and left the state. -/
def endError (state : State) (k n : Nat) : Option InvocationError :=
  if state.refusal = none ∧ k < n then some (.cancelled k) else state.refusal.map .untrusted

/-- What is seen at the end of such a run. -/
def ending (state : State) (k n : Nat) : Snapshot where
  store := state.store
  error := state.endError k n
  description := ((state.endError k n).map InvocationError.message).getD ""

theorem ending_of_cancelled {state : State} {k n : Nat} (going : state.refusal = none) (before : k < n) :
    state.ending k n =
      ⟨state.store, some (.cancelled k), (InvocationError.cancelled k).message⟩ := by
  rw [ending, endError, if_pos ⟨going, before⟩]
  rfl

theorem ending_of_refused {state : State} {k n : Nat} (refused : state.refusal ≠ none) :
    state.ending k n = state.snapshot := by
  rw [ending, endError, if_neg fun both => refused both.1, Option.map_map]
  rfl

theorem ending_of_finished (state : State) (n : Nat) : state.ending n n = state.snapshot := by
  rw [ending, endError, if_neg fun both => Nat.lt_irrefl n both.2, Option.map_map]
  rfl

theorem hasError_of_view {state : State} {context : Context} {s : Session}
    (shown : s.view context = state.snapshot) : context.hasError = state.refusal.isSome := by
  have error : context.error = state.refusal.map .untrusted := congrArg Snapshot.error shown
  rw [Context.hasError, error, Option.isSome_map]

theorem hasError_eq_false_iff_of_view {state : State} {context : Context} {s : Session}
    (shown : s.view context = state.snapshot) : context.hasError = false ↔ state.refusal = none := by
  rw [hasError_of_view shown, Option.isSome_eq_false_iff, Option.isNone_iff_eq_none]

theorem isTrustViolation_of_view {state : State} {k n : Nat} {context : Context} {s : Session}
    (shown : s.view context = state.ending k n) : context.isTrustViolation = state.refusal.isSome := by
  have error : context.error = state.endError k n := congrArg Snapshot.error shown
  rw [Context.isTrustViolation, error, endError]
  cases state.refusal with
  | some refusal => rfl
  | none => by_cases before : k < n <;> simp [before]

theorem HeldBy.logStep {state : State} {terms : Terms} {elapsed : Nat} {context : Context} {s : Session}
    (held : state.HeldBy terms elapsed context s) (index : Nat) (step : SkillFunction) :
    state.HeldBy terms elapsed context (Pipeline.logStep index step s) :=
  ⟨held.view, held.hold.now, held.hold.cancelled, held.hold.alarm, held.hold.unset⟩

end State

/-- The run invokes built-in functions on a context that holds a state. -/
structure Carries (run : Pipeline.Run) (trust : TrustConfig) (terms : Terms) (start : State)
    (builtins : List Builtin) : Prop where
  steps : run.steps = functions trust terms.flag builtins
  token : run.token = terms.token
  begins : start.HeldBy terms 0 (run.contextAt 0) (run.sessionAt 0)
  going : start.refusal = none
  coherent : start.Coherent

namespace Carries
variable {run : Pipeline.Run} {trust : TrustConfig} {terms : Terms} {start : State}
  {builtins : List Builtin} (carries : Carries run trust terms start builtins)
include carries

theorem length_steps : run.steps.length = builtins.length := by
  rw [carries.steps, functions, List.length_mapIdx]

theorem boundary_succ {k : Nat} (inside : k < builtins.length) :
    run.boundary (k + 1) = (builtins[k].function trust (terms.flag + k)).invoke (run.contextAt k)
      terms.token (Pipeline.logStep k (builtins[k].function trust (terms.flag + k))
        (run.sessionAt k)) := by
  have within : k < run.steps.length := carries.length_steps ▸ inside
  have there : run.steps[k] = builtins[k].function trust (terms.flag + k) := by
    simp [carries.steps, functions]
  rw [run.boundary_succ within, there, carries.token]

/-- While no function was refused, the context holds the state. -/
theorem held {k : Nat} (inside : k ≤ builtins.length)
    (going : (start.run trust (builtins.take k)).refusal = none) :
    (start.run trust (builtins.take k)).HeldBy terms (elapsed (builtins.take k)) (run.contextAt k)
      (run.sessionAt k) := by
  induction k with
  | zero => exact carries.begins
  | succ k ih =>
    rw [start.run_take_succ trust inside] at going ⊢
    obtain ⟨before, allowed⟩ := State.step_refusal_eq_none_iff.mp going
    rw [State.step_of_allowed before allowed, elapsed_take_succ inside, Pipeline.Run.contextAt,
      Pipeline.Run.sessionAt, carries.boundary_succ inside]
    exact ((ih (Nat.le_of_lt inside) before).logStep k _).invoke (carries.coherent.run trust _) before
      allowed (Nat.le_add_right terms.flag k)

theorem view_succ {k : Nat} (inside : k < builtins.length)
    (going : (start.run trust (builtins.take k)).refusal = none) :
    (run.sessionAt (k + 1)).view (run.contextAt (k + 1)) =
      (start.run trust (builtins.take (k + 1))).snapshot := by
  cases blocked : (start.run trust (builtins.take k)).blocks trust builtins[k] with
  | false =>
    refine (carries.held inside ?_).view
    rw [start.run_take_succ trust inside]
    exact State.step_refusal_eq_none_iff.mpr ⟨going, blocked⟩
  | true =>
    rw [start.run_take_succ trust inside, Pipeline.Run.contextAt, Pipeline.Run.sessionAt,
      carries.boundary_succ inside]
    exact ((carries.held (Nat.le_of_lt inside) going).logStep k _).invoke_blocked
      (carries.coherent.run trust _) going blocked _

/-- At every boundary that is reached, the context shows what the functions before it make of the state. -/
theorem view {k : Nat} (inside : k ≤ builtins.length) (passed : ∀ j < k, run.Passes j) :
    (run.sessionAt k).view (run.contextAt k) = (start.run trust (builtins.take k)).snapshot := by
  induction k with
  | zero => exact carries.begins.view
  | succ k ih =>
    have shown := ih (Nat.le_of_lt inside) fun j earlier => passed j (Nat.lt_succ_of_lt earlier)
    have clean := (passed k (Nat.lt_succ_self k)).1
    exact carries.view_succ inside ((State.hasError_eq_false_iff_of_view shown).mp clean)

theorem going_iff {k : Nat} (inside : k ≤ builtins.length) (passed : ∀ j < k, run.Passes j) :
    (run.contextAt k).hasError = false ↔ (start.run trust (builtins.take k)).refusal = none :=
  State.hasError_eq_false_iff_of_view (carries.view inside passed)

/-- Once nothing was refused before a boundary, only the time says whether the run goes on there. -/
theorem passes_iff {k : Nat} (inside : k ≤ builtins.length)
    (going : (start.run trust (builtins.take k)).refusal = none) :
    run.Passes k ↔ terms.cancellation.reached (elapsed (builtins.take k)) = false := by
  have held := carries.held inside going
  rw [Pipeline.Run.Passes, State.hasError_of_view held.view, going, Pipeline.Run.cancelledAt,
    carries.token, held.hold.cancelled]
  exact and_iff_right rfl

/-- A step is invoked exactly if nothing before it was refused and the token is not cancelled by then. -/
theorem starts_iff {k : Nat} : run.Starts k ↔ k < builtins.length ∧
    (start.run trust (builtins.take k)).refusal = none ∧
      terms.cancellation.reached (elapsed (builtins.take k)) = false := by
  constructor
  · intro starts
    have inside : k < builtins.length := carries.length_steps ▸ starts.1
    have passes := starts.2 k (Nat.le_refl k)
    have going := (carries.going_iff (Nat.le_of_lt inside) fun j earlier =>
      starts.2 j (Nat.le_of_lt earlier)).mp passes.1
    exact ⟨inside, going, (carries.passes_iff (Nat.le_of_lt inside) going).mp passes⟩
  · rintro ⟨inside, going, early⟩
    refine ⟨carries.length_steps ▸ inside, fun j earlier => ?_⟩
    rw [carries.passes_iff (by omega) (State.going_take going earlier)]
    by_contra reached
    have late := Cancellation.reached_mono (elapsed_take_mono builtins earlier)
      (Bool.eq_true_of_not_eq_false reached)
    exact Bool.false_ne_true (early.symm.trans late)

/-- The run ends at one boundary, and what is seen then is what the functions before it leave, with the
cancellation if that is why it ended. -/
theorem exists_end : ∃ k ending, k ≤ builtins.length ∧ (∀ j, run.Starts j ↔ j < k) ∧
    run.EndsAt k ending ∧ run.result.2.view run.result.1 =
      (start.run trust (builtins.take k)).ending k builtins.length := by
  obtain ⟨k, ending, inside, passed, ends⟩ := run.ends
  have within : k ≤ builtins.length := carries.length_steps ▸ inside
  have shown := carries.view within passed
  have going := carries.going_iff within passed
  refine ⟨k, ending, within, fun j => ⟨ends.lt_of_starts, fun earlier => ?_⟩, ends, ?_⟩
  · exact ⟨Nat.lt_of_lt_of_le earlier inside, fun i le => passed i (Nat.lt_of_le_of_lt le earlier)⟩
  · cases ending with
    | failed =>
      obtain ⟨-, failed, result⟩ := ends
      have refused : (start.run trust (builtins.take k)).refusal ≠ none := fun clean =>
        Bool.false_ne_true ((going.mpr clean).symm.trans failed)
      rw [result, State.ending_of_refused refused]
      exact shown
    | cancelled =>
      obtain ⟨before, clean, -, -, result⟩ := ends
      have left := congrArg Snapshot.store shown
      rw [result, State.ending_of_cancelled (going.mp clean) (carries.length_steps ▸ before)]
      exact congrArg (Snapshot.mk · _ _) left
    | finished =>
      obtain ⟨last, clean, result⟩ := ends
      rw [result, ← last.trans carries.length_steps, State.ending_of_finished]
      exact shown

/-- A run whose time is never up where a step is left ends with what all its functions make of the
state. -/
theorem view_result_of_timely (timely : ∀ k < builtins.length,
      (start.run trust (builtins.take k)).refusal = none →
        terms.cancellation.reached (elapsed (builtins.take k)) = false) :
    run.result.2.view run.result.1 = (start.run trust builtins).snapshot := by
  obtain ⟨k, ending, inside, starts, -, shown⟩ := carries.exists_end
  have all : start.run trust builtins = start.run trust (builtins.take builtins.length) := by
    rw [List.take_length]
  by_cases going : (start.run trust (builtins.take k)).refusal = none
  · have last : k = builtins.length := by
      have unstarted : ¬run.Starts k := fun begun => Nat.lt_irrefl k ((starts k).mp begun)
      rw [carries.starts_iff] at unstarted
      by_contra before
      have within : k < builtins.length := by omega
      exact unstarted ⟨within, going, timely k within going⟩
    rw [shown, last, State.ending_of_finished, ← all]
  · rw [shown, State.ending_of_refused going, all, State.run_take_of_refused inside going]

/-- Without a cancellation the run ends with what all its functions make of the state. -/
theorem view_result (uncancelled : ∀ time, terms.cancellation.reached time = false) :
    run.result.2.view run.result.1 = (start.run trust builtins).snapshot :=
  carries.view_result_of_timely fun _ _ _ => uncancelled _

end Carries

end Builtin

/-- The run of a pipeline on an input. -/
def Pipeline.Run.ofInput (pipeline : Pipeline) (input : TaintedValue) (token : TokenId) (s : Session) :
    Pipeline.Run where
  steps := pipeline.steps
  context := (s.newContext (Store.ofMain input)).1
  token
  session := (s.newContext (Store.ofMain input)).2

theorem Pipeline.Run.result_ofInput (pipeline : Pipeline) (input : TaintedValue) (token : TokenId)
    (s : Session) : (ofInput pipeline input token s).result = pipeline.runInput input token s := rfl

namespace Builtin

theorem carries_ofInput {pipeline : Pipeline} {trust : TrustConfig} {terms : Terms}
    {builtins : List Builtin} {s : Session} (steps : pipeline.steps = functions trust terms.flag builtins)
    (hold : terms.Hold 0 s) (input : TaintedValue) :
    Carries (.ofInput pipeline input terms.token s) trust terms (.ofInput input) builtins where
  steps
  token := rfl
  begins := ⟨Session.view_newContext _ _, hold.now, hold.cancelled, hold.alarm, hold.unset⟩
  going := rfl
  coherent := State.coherent_ofInput input

/-- Functions that are looked up by names, all of them known and not too many, and that nobody cancels, make
of an input what the fold over the text, the one trust bit and the echo makes of it. At every boundary that
the run reaches, the context shows the fold so far, and all variables are trusted exactly if its bit is set. -/
theorem runInput_refines {trust : TrustConfig} {limits : PipelineConfig} {flag : FlagId}
    {names : List String} {token : TokenId} {s : Session}
    (known : ∀ name ∈ names, (lookup name trust flag).isSome) (bounded : names.length ≤ limits.maxSteps)
    (ready : s.Ready token flag) (input : TaintedValue) :
    let final := (State.ofInput input).run trust (named names)
    ∃ steps pipeline, lookupAll trust flag names = .ok steps ∧
      Pipeline.ofSteps steps limits = .ok pipeline ∧
      let result := pipeline.runInput input token s
      let run := Pipeline.Run.ofInput pipeline input token s
      result.2.view result.1 = final.snapshot ∧
        (result.2.storeOf result.1).slots =
          ⟨mainName, ⟨final.content, final.trusted⟩⟩ :: (final.echo.map (Slot.mk echoName)).toList ∧
        result.2.isTrusted result.1 = final.trusted ∧
        ∀ k ≤ names.length, (∀ j < k, run.Passes j) →
          (run.sessionAt k).view (run.contextAt k) =
              ((State.ofInput input).run trust ((named names).take k)).snapshot ∧
            (run.sessionAt k).isTrusted (run.contextAt k) =
              ((State.ofInput input).run trust ((named names).take k)).trusted := by
  have all : ∀ name ∈ names, (ofName? name).isSome := fun name member =>
    isSome_lookup name trust flag ▸ known name member
  have size := length_named all
  have carries : Carries
      (.ofInput ⟨functions trust flag (named names), limits.maxSteps⟩ input token s) trust
      ⟨token, .never, s.now, flag⟩ (.ofInput input) (named names) :=
    carries_ofInput rfl (ready.hold .never) input
  have coherent := State.coherent_ofInput input
  have shown := carries.view_result Cancellation.reached_never
  refine ⟨_, _, lookupAll_eq_ok_iff.mpr ⟨all, rfl⟩, ofSteps_functions_eq_ok_iff.mpr ⟨size ▸ bounded, rfl⟩,
    shown, ?_, ?_, fun k inside passed => ?_⟩
  · exact (congrArg (·.store.slots) shown).trans (State.slots_store _)
  · exact (coherent.run trust _).isTrusted_of_view shown
  · have there := carries.view (size ▸ inside) passed
    exact ⟨there, (coherent.run trust _).isTrusted_of_view there⟩

/-- What is fetched is kept from publication; the echo that was made before stays trusted. -/
theorem runInput_refines_publishFetched :
    ∃ steps pipeline, lookupAll .default 0 ["echo", "fetch", "publish", "reset"] = .ok steps ∧
      Pipeline.ofSteps steps ⟨4⟩ = .ok pipeline ∧
      let result := pipeline.runInput ⟨"page", true⟩ 0 Session.empty
      result.1.error = some (.untrusted (.sensitiveOnUntrusted "builtin" "publish")) ∧
        (result.2.storeOf result.1).slots =
          [⟨"input", ⟨"fetched: page", false⟩⟩, ⟨"echo", ⟨"page", true⟩⟩] := by
  obtain ⟨steps, pipeline, found, built, shown, slots, -⟩ :=
    @runInput_refines .default ⟨4⟩ 0 ["echo", "fetch", "publish", "reset"] 0 Session.empty (by decide)
      (by decide) (Session.ready_empty 0 0) ⟨"page", true⟩
  have error := congrArg Snapshot.error shown
  refine ⟨steps, pipeline, found, built, error.trans ?_, slots.trans ?_⟩
  · decide +kernel
  · decide +kernel

end Builtin

end TaintTracking
