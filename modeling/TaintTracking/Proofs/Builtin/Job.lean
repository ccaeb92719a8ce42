import TaintTracking.Proofs.Builtin.Run

/-!
A job is all that settles a run of built-in functions: their names, the step limit, the trust
configuration, when the run is cancelled, and the input. Main statement: which steps a job invokes and what
is seen at its end follow from the states that its functions make of the input one after another, and from
the time that these take.
-/

namespace TaintTracking.Builtin

theorem mapError_eq_ok_iff {ε δ α : Type} {x : Except ε α} {f : ε → δ} {a : α} :
    x.mapError f = .ok a ↔ x = .ok a := by
  cases x <;> simp [Except.mapError]

structure Job where
  names : List String
  limits : PipelineConfig
  trust : TrustConfig
  cancellation : Cancellation
  input : TaintedValue

namespace Job

/-- Why no pipeline is made. -/
inductive Fault where
  | unknownFunction (name : String)
  | pipeline (error : PipelineError)
  deriving DecidableEq

def build (job : Job) (flag : FlagId) : Except Fault Pipeline :=
  match lookupAll job.trust flag job.names with
  | .error name => .error (.unknownFunction name)
  | .ok steps => (Pipeline.ofSteps steps job.limits).mapError .pipeline

/-- Runs the pipeline on the input under the cancellation. -/
def perform (job : Job) (pipeline : Pipeline) (token : TokenId) (s : Session) : Context × Session :=
  job.cancellation.carryOut token (pipeline.runInput job.input token) s

def run (job : Job) (pipeline : Pipeline) (token : TokenId) (s : Session) : Pipeline.Run :=
  .ofInput pipeline job.input token (job.cancellation.prepare token s)

def builtins (job : Job) : List Builtin := named job.names

/-- The state at a boundary: what the functions before it make of the input. -/
def stateAt (job : Job) (k : Nat) : State :=
  (State.ofInput job.input).run job.trust (job.builtins.take k)

theorem stateAt_succ {job : Job} {k : Nat} (inside : k < job.builtins.length) :
    job.stateAt (k + 1) = (job.stateAt k).step job.trust job.builtins[k] :=
  State.run_take_succ _ _ inside

/-- Whether the run goes on at a boundary as far as the clock says. -/
def inTime (job : Job) (k : Nat) : Prop :=
  job.cancellation.reached (elapsed (job.builtins.take k)) = false

variable {job : Job} {flag : FlagId} {pipeline : Pipeline} {token : TokenId} {s : Session}

theorem build_eq_ok_iff : job.build flag = .ok pipeline ↔
    (∀ name ∈ job.names, (ofName? name).isSome) ∧ job.builtins.length ≤ job.limits.maxSteps ∧
      pipeline = ⟨functions job.trust flag job.builtins, job.limits.maxSteps⟩ := by
  rw [build, builtins]
  cases looked : lookupAll job.trust flag job.names with
  | error name =>
    have unknown : ¬∀ name ∈ job.names, (ofName? name).isSome := fun known =>
      nomatch looked.symm.trans (lookupAll_eq_ok_iff.mpr ⟨known, rfl⟩)
    simp [unknown]
  | ok steps =>
    obtain ⟨known, rfl⟩ := lookupAll_eq_ok_iff.mp looked
    rw [← ofSteps_functions_eq_ok_iff, and_iff_right known]
    exact mapError_eq_ok_iff

/-- What is seen at the end of a job is what is seen at the end of its run. -/
theorem view_perform (job : Job) (pipeline : Pipeline) (token : TokenId) (s : Session) :
    (job.perform pipeline token s).2.view (job.perform pipeline token s).1 =
      (job.run pipeline token s).result.2.view (job.run pipeline token s).result.1 := by
  obtain ⟨context, stores⟩ :=
    job.cancellation.view_carryOut token (pipeline.runInput job.input token) s
  rw [run, Pipeline.Run.result_ofInput, perform, Session.view, Session.view, Session.storeOf,
    Session.storeOf, context, stores]

section Built
variable (built : job.build flag = .ok pipeline) (ready : s.Ready token flag)
include built ready

theorem carries : Carries (job.run pipeline token s) job.trust ⟨token, job.cancellation, s.now, flag⟩
    (.ofInput job.input) job.builtins := by
  obtain ⟨-, -, rfl⟩ := build_eq_ok_iff.mp built
  exact carries_ofInput rfl (ready.hold job.cancellation) job.input

/-- A step is invoked exactly if no step before it was refused and the run is still in time. -/
theorem starts_iff {k : Nat} : (job.run pipeline token s).Starts k ↔
    k < job.builtins.length ∧ (job.stateAt k).refusal = none ∧ job.inTime k :=
  (job.carries built ready).starts_iff

theorem exists_end : ∃ k ending, k ≤ job.builtins.length ∧
    (∀ j, (job.run pipeline token s).Starts j ↔ j < k) ∧
      (job.run pipeline token s).EndsAt k ending ∧
        (job.perform pipeline token s).2.view (job.perform pipeline token s).1 =
          (job.stateAt k).ending k job.builtins.length := by
  obtain ⟨k, ending, inside, starts, ends, shown⟩ := (job.carries built ready).exists_end
  exact ⟨k, ending, inside, starts, ends, (job.view_perform pipeline token s).trans shown⟩

/-- At a boundary that is reached the context shows the state. -/
theorem view_boundary {k : Nat} (inside : k ≤ job.builtins.length)
    (passed : ∀ j < k, (job.run pipeline token s).Passes j) :
    ((job.run pipeline token s).sessionAt k).view ((job.run pipeline token s).contextAt k) =
      (job.stateAt k).snapshot :=
  (job.carries built ready).view inside passed

end Built

end Job

end TaintTracking.Builtin
