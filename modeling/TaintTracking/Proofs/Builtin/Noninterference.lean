import TaintTracking.Pipeline.Report
import TaintTracking.Proofs.Builtin.Job

/-!
What a text says has no bearing on trust. Main statement: two jobs that differ in the text of the input
only invoke the same steps, end for the same reason, and leave variables of the same names and trust.
-/

namespace TaintTracking

/-- The names of the variables with their trust. -/
def Store.marks (store : Store) : List (String × Bool) :=
  store.slots.map fun slot => (slot.name, slot.value.trusted)

theorem Store.isAllTrusted_eq_all_marks (store : Store) :
    store.isAllTrusted = store.marks.all (·.2) := by
  rw [marks, List.all_map]
  rfl

/-- What is seen differs in contents only. -/
structure Snapshot.SameTrust (shown other : Snapshot) : Prop where
  marks : shown.store.marks = other.store.marks
  error : shown.error = other.error
  description : shown.description = other.description

/-- Of all that a report says, only the result depends on more than the trust. -/
theorem RunReport.ofContext_of_sameTrust {context other : Context} {s t : Session}
    (same : (s.view context).SameTrust (t.view other)) :
    (ofContext context s).trusted = (ofContext other t).trusted ∧
      (ofContext context s).error = (ofContext other t).error ∧
      (ofContext context s).trustViolation = (ofContext other t).trustViolation ∧
      (ofContext context s).cancelled = (ofContext other t).cancelled := by
  have marks : (s.storeOf context).marks = (t.storeOf other).marks := same.marks
  have error : context.error = other.error := same.error
  have description : context.description = other.description := same.description
  refine ⟨?_, ?_, ?_, ?_⟩
  · simp only [ofContext, Session.isTrusted, Store.isAllTrusted_eq_all_marks, marks]
  · have failed : context.hasError = other.hasError := congrArg Option.isSome error
    simp only [ofContext, failed, description]
  · simp only [ofContext, Context.isTrustViolation, error]
  · simp only [ofContext, Context.isCancelled, error]

namespace Builtin

namespace State

/-- The states differ in texts only. -/
structure SameTrust (state other : State) : Prop where
  trusted : state.trusted = other.trusted
  echo : state.echo.map (·.trusted) = other.echo.map (·.trusted)
  refusal : state.refusal = other.refusal

namespace SameTrust
variable {state other : State}

theorem ofInput {input input' : TaintedValue} (trusted : input.trusted = input'.trusted) :
    (State.ofInput input).SameTrust (State.ofInput input') := ⟨trusted, rfl, rfl⟩

theorem after (same : state.SameTrust other) (trust : TrustConfig) (builtin : Builtin) :
    (state.after trust builtin).SameTrust (other.after trust builtin) := by
  unfold State.after
  split
  next => exact ⟨rfl, rfl, rfl⟩
  next =>
    refine ⟨by rw [same.trusted], ?_, rfl⟩
    dsimp only
    split
    next => exact congrArg some same.trusted
    next => exact same.echo

/-- No function reads more of a state than its trust to decide on trust. -/
theorem step (same : state.SameTrust other) (trust : TrustConfig) (builtin : Builtin) :
    (state.step trust builtin).SameTrust (other.step trust builtin) := by
  have blocks : state.blocks trust builtin = other.blocks trust builtin := by
    rw [State.blocks, State.blocks, same.trusted]
  unfold State.step
  rw [same.refusal, blocks]
  split
  next => exact same
  next =>
    split
    next => exact ⟨same.trusted, same.echo, rfl⟩
    next => exact same.after trust builtin

theorem run (same : state.SameTrust other) (trust : TrustConfig) (builtins : List Builtin) :
    (state.run trust builtins).SameTrust (other.run trust builtins) := by
  induction builtins generalizing state other with
  | nil => exact same
  | cons builtin builtins ih => exact ih (same.step trust builtin)

/-- The variables have the same names and trust. -/
theorem marks (same : state.SameTrust other) : state.store.marks = other.store.marks := by
  have echo := congrArg (Option.map (Prod.mk echoName)) same.echo
  rw [Option.map_map, Option.map_map] at echo
  rw [Store.marks, Store.marks, map_slots_store, map_slots_store, same.trusted]
  exact congrArg (_ :: ·.toList) echo

theorem ending (same : state.SameTrust other) (k n : Nat) :
    (state.ending k n).SameTrust (other.ending k n) := by
  have error : state.endError k n = other.endError k n := by
    rw [endError, endError, same.refusal]
  exact ⟨same.marks, error, by rw [State.ending, State.ending, error]⟩

end SameTrust

end State

namespace Job

/-- Jobs that differ in the text of the input are built alike, invoke the same steps, leave variables of
the same names and trust, and end with the same error; their reports differ in the result only. -/
theorem content_irrelevant (job : Job) (content : String) {flag : FlagId} {token : TokenId} {s : Session}
    (ready : s.Ready token flag) :
    let other : Job := { job with input := ⟨content, job.input.trusted⟩ }
    other.build flag = job.build flag ∧
      ∀ pipeline, job.build flag = .ok pipeline →
        let result := job.perform pipeline token s
        let result' := other.perform pipeline token s
        let report := RunReport.ofContext result.1 result.2
        let report' := RunReport.ofContext result'.1 result'.2
        (∀ k, (other.run pipeline token s).Starts k ↔ (job.run pipeline token s).Starts k) ∧
          (result'.2.view result'.1).SameTrust (result.2.view result.1) ∧
          report'.trusted = report.trusted ∧ report'.error = report.error ∧
          report'.trustViolation = report.trustViolation ∧ report'.cancelled = report.cancelled := by
  intro other
  refine ⟨rfl, fun pipeline built => ?_⟩
  have same (k : Nat) : (other.stateAt k).SameTrust (job.stateAt k) :=
    (@State.SameTrust.ofInput ⟨content, job.input.trusted⟩ job.input rfl).run job.trust _
  have starts (k : Nat) :
      (other.run pipeline token s).Starts k ↔ (job.run pipeline token s).Starts k := by
    rw [job.starts_iff built ready, other.starts_iff built ready, (same k).refusal]
    exact Iff.rfl
  obtain ⟨k, -, -, before, -, shown⟩ := job.exists_end built ready
  obtain ⟨k', -, -, before', -, shown'⟩ := other.exists_end built ready
  have sameEnd : k' = k := by
    have agree (j : Nat) : j < k' ↔ j < k := (before' j).symm.trans ((starts j).trans (before j))
    have low := agree k
    have high := agree k'
    omega
  rw [sameEnd] at shown'
  have ends : ((other.perform pipeline token s).2.view (other.perform pipeline token s).1).SameTrust
      ((job.perform pipeline token s).2.view (job.perform pipeline token s).1) := by
    rw [shown, shown']
    exact (same k).ending k job.builtins.length
  exact ⟨starts, ends, RunReport.ofContext_of_sameTrust ends⟩

/-- Two fetches outlast the delay whatever they fetch. -/
def fetchTwice : Job :=
  ⟨["fetch", "echo", "fetch", "publish"], ⟨4⟩, .default, ⟨false, some 15⟩, ⟨"page", true⟩⟩

theorem content_irrelevant_fetchTwice :
    ∃ pipeline, fetchTwice.build 0 = .ok pipeline ∧
      let other : Job := { fetchTwice with input := ⟨"", true⟩ }
      let result := fetchTwice.perform pipeline 0 Session.empty
      let result' := other.perform pipeline 0 Session.empty
      (result'.2.view result'.1).SameTrust (result.2.view result.1) ∧
        (result'.2.storeOf result'.1).marks = [("input", false), ("echo", false)] ∧
        result'.1.error = some (.cancelled 3) := by
  obtain ⟨-, performs⟩ := fetchTwice.content_irrelevant "" (Session.ready_empty 0 0)
  have built : fetchTwice.build 0 =
      .ok ⟨functions .default 0 [.fetch, .echo, .fetch, .publish], 4⟩ := rfl
  refine ⟨_, built, (performs _ built).2.1, ?_, ?_⟩
  · decide +kernel
  · decide +kernel

end Job

end Builtin

end TaintTracking
