import TaintTracking.Pipeline.Basic

/-!
A run of a pipeline seen at its boundaries: the moments before each step and after the last one. Main
statement: every run is a prefix of its steps, each invoked once on what the one before it returned,
and it ends in exactly one of three ways.
-/

namespace TaintTracking.Pipeline

/-- What a run is given. -/
structure Run where
  steps : List SkillFunction
  context : Context
  token : TokenId
  session : Session

namespace Run
variable (run : Run)

def result : Context × Session := runSteps run.steps run.context run.token run.session

/-- The context and the session at a boundary, when every step before it was invoked. -/
def boundary : Nat → Context × Session
  | 0 => (run.context.clearError, run.session)
  | k + 1 =>
    match run.steps[k]? with
    | some step =>
      step.invoke (boundary k).1 run.token (logStep k step (boundary k).2)
    | none => boundary k

def contextAt (k : Nat) : Context := (run.boundary k).1

def sessionAt (k : Nat) : Session := (run.boundary k).2

def cancelledAt (k : Nat) : Bool := (run.sessionAt k).isCancelled run.token

/-- Nothing ends the run at this boundary, unless there is no step after it. -/
def Passes (k : Nat) : Prop := (run.contextAt k).hasError = false ∧ run.cancelledAt k = false

/-- The step is invoked. -/
def Starts (k : Nat) : Prop := k < run.steps.length ∧ ∀ j ≤ k, run.Passes j

theorem boundary_succ {k : Nat} (inside : k < run.steps.length) :
    run.boundary (k + 1) = run.steps[k].invoke (run.contextAt k) run.token
      (logStep k run.steps[k] (run.sessionAt k)) := by
  rw [boundary, List.getElem?_eq_getElem inside]
  rfl

theorem Starts.of_lt {run : Run} {j k : Nat} (starts : run.Starts k) (earlier : j < k) :
    run.Starts j :=
  ⟨Nat.lt_trans earlier starts.1, fun i le => starts.2 i (by omega)⟩

/-- One round of the loop, from boundary to boundary. -/
theorem runFrom_boundary {k : Nat} (inside : k < run.steps.length) :
    runFrom run.token k (run.steps.drop k) (run.contextAt k) (run.sessionAt k) =
      if run.cancelledAt k then
        ((run.contextAt k).fail (.cancelled k), (run.sessionAt k).log (.runCancelled k))
      else if (run.contextAt (k + 1)).hasError then
        (run.contextAt (k + 1), logFailure k (run.contextAt (k + 1)) (run.sessionAt (k + 1)))
      else
        runFrom run.token (k + 1) (run.steps.drop (k + 1)) (run.contextAt (k + 1))
          (run.sessionAt (k + 1)) := by
  rw [List.drop_eq_getElem_cons inside, runFrom, ← run.boundary_succ inside]
  rfl

/-- At a boundary that is reached, the run goes on with the steps that are left. -/
theorem result_eq_runFrom {k : Nat} (inside : k ≤ run.steps.length)
    (passed : ∀ j < k, run.Passes j) (clean : (run.contextAt k).hasError = false) :
    run.result = runFrom run.token k (run.steps.drop k) (run.contextAt k) (run.sessionAt k) := by
  induction k with
  | zero => rfl
  | succ k ih =>
    have current := passed k (Nat.lt_succ_self k)
    rw [ih (by omega) (fun j earlier => passed j (by omega)) current.1,
      run.runFrom_boundary (by omega)]
    simp [current.2, clean]

theorem result_of_failed {k : Nat} (inside : k < run.steps.length)
    (passed : ∀ j < k + 1, run.Passes j) (failed : (run.contextAt (k + 1)).hasError = true) :
    run.result = (run.contextAt (k + 1),
      logFailure k (run.contextAt (k + 1)) (run.sessionAt (k + 1))) := by
  have current := passed k (Nat.lt_succ_self k)
  rw [run.result_eq_runFrom (by omega) (fun j earlier => passed j (by omega)) current.1,
    run.runFrom_boundary inside]
  simp [current.2, failed]

theorem result_of_cancelled {k : Nat} (inside : k < run.steps.length)
    (passed : ∀ j < k, run.Passes j) (clean : (run.contextAt k).hasError = false)
    (cancelled : run.cancelledAt k = true) :
    run.result =
      ((run.contextAt k).fail (.cancelled k), (run.sessionAt k).log (.runCancelled k)) := by
  rw [run.result_eq_runFrom (Nat.le_of_lt inside) passed clean, run.runFrom_boundary inside]
  simp [cancelled]

theorem result_of_finished (passed : ∀ j < run.steps.length, run.Passes j)
    (clean : (run.contextAt run.steps.length).hasError = false) :
    run.result = (run.contextAt run.steps.length,
      logFinish run.steps.length (run.contextAt run.steps.length)
        (run.sessionAt run.steps.length)) := by
  rw [run.result_eq_runFrom (Nat.le_refl _) passed clean, List.drop_length, runFrom]

/-! The three endings. -/

inductive Ending where
  | failed
  | cancelled
  | finished

/-- The run invokes the steps before boundary `k` and ends there: because the last of them reported an
error, because the token is found cancelled, or because no step is left. -/
def EndsAt (k : Nat) : Ending → Prop
  | .failed =>
    0 < k ∧ (run.contextAt k).hasError = true ∧
      run.result = (run.contextAt k, logFailure (k - 1) (run.contextAt k) (run.sessionAt k))
  | .cancelled =>
    k < run.steps.length ∧ (run.contextAt k).hasError = false ∧ run.cancelledAt k = true ∧
      run.result.1.error = some (.cancelled k) ∧ run.result =
        ((run.contextAt k).fail (.cancelled k), (run.sessionAt k).log (.runCancelled k))
  | .finished =>
    k = run.steps.length ∧ (run.contextAt k).hasError = false ∧
      run.result = (run.contextAt k, logFinish k (run.contextAt k) (run.sessionAt k))

theorem endsAt_cancelled {k : Nat} (inside : k < run.steps.length) (passed : ∀ j < k, run.Passes j)
    (clean : (run.contextAt k).hasError = false) (cancelled : run.cancelledAt k = true) :
    run.EndsAt k .cancelled := by
  have result := run.result_of_cancelled inside passed clean cancelled
  exact ⟨inside, clean, cancelled, congrArg (fun out => out.1.error) result, result⟩

/-- From any boundary reached without an error the run gets to one of its endings. -/
theorem exists_ending (left k : Nat) (rest : k + left = run.steps.length)
    (passed : ∀ j < k, run.Passes j) (clean : (run.contextAt k).hasError = false) :
    ∃ e ending, e ≤ run.steps.length ∧ (∀ j < e, run.Passes j) ∧ run.EndsAt e ending := by
  induction left generalizing k with
  | zero =>
    obtain rfl : k = run.steps.length := rest
    exact ⟨_, .finished, Nat.le_refl _, passed, rfl, clean, run.result_of_finished passed clean⟩
  | succ left ih =>
    have inside : k < run.steps.length := by omega
    cases cancelled : run.cancelledAt k with
    | true =>
      exact ⟨k, .cancelled, Nat.le_of_lt inside, passed,
        run.endsAt_cancelled inside passed clean cancelled⟩
    | false =>
      have passedNext : ∀ j < k + 1, run.Passes j := by
        intro j earlier
        rcases Nat.lt_succ_iff_lt_or_eq.mp earlier with before | rfl
        · exact passed j before
        · exact ⟨clean, cancelled⟩
      cases failed : (run.contextAt (k + 1)).hasError with
      | true =>
        exact ⟨k + 1, .failed, inside, passedNext, Nat.succ_pos k, failed,
          run.result_of_failed inside passedNext failed⟩
      | false => exact ih (k + 1) (by omega) passedNext failed

/-- Where the run ends, it does not pass, unless all steps are done. -/
theorem EndsAt.not_passes {run : Run} {k : Nat} {ending : Ending} (ends : run.EndsAt k ending)
    (inside : k < run.steps.length) : ¬run.Passes k := by
  intro passes
  cases ending with
  | failed => exact Bool.false_ne_true (passes.1.symm.trans ends.2.1)
  | cancelled => exact Bool.false_ne_true (passes.2.symm.trans ends.2.2.1)
  | finished => exact Nat.ne_of_lt inside ends.1

theorem EndsAt.eq_failed {run : Run} {k : Nat} {ending : Ending} (ends : run.EndsAt k ending)
    (failed : (run.contextAt k).hasError = true) : ending = .failed := by
  cases ending with
  | failed => rfl
  | cancelled => exact absurd (ends.2.1.symm.trans failed) Bool.false_ne_true
  | finished => exact absurd (ends.2.1.symm.trans failed) Bool.false_ne_true

theorem EndsAt.result_error {run : Run} {k : Nat} {ending : Ending} (ends : run.EndsAt k ending)
    (failed : (run.contextAt k).hasError = true) : run.result.1.error = (run.contextAt k).error := by
  obtain rfl := ends.eq_failed failed
  rw [ends.2.2]

/-- Ending a run writes nothing. -/
theorem EndsAt.storeOf_result {run : Run} {k : Nat} {ending : Ending} (ends : run.EndsAt k ending) :
    run.result.2.storeOf run.result.1 = (run.sessionAt k).storeOf (run.contextAt k) := by
  cases ending with
  | failed => rw [ends.2.2]; rfl
  | cancelled => rw [ends.2.2.2.2]; rfl
  | finished => rw [ends.2.2]; rfl

/-- A step that starts lies before the end. -/
theorem EndsAt.lt_of_starts {run : Run} {j k : Nat} {ending : Ending} (ends : run.EndsAt k ending)
    (starts : run.Starts j) : j < k := by
  rcases Nat.lt_or_ge j k with before | beyond
  · exact before
  · exact absurd (starts.2 k beyond) (ends.not_passes (Nat.lt_of_le_of_lt beyond starts.1))

theorem EndsAt.ending_unique {run : Run} {k : Nat} {first second : Ending}
    (one : run.EndsAt k first) (other : run.EndsAt k second) : first = second := by
  match first, second, one, other with
  | .failed, .failed, _, _ => rfl
  | .failed, .cancelled, one, other => cases one.2.1.symm.trans other.2.1
  | .failed, .finished, one, other => cases one.2.1.symm.trans other.2.1
  | .cancelled, .failed, one, other => cases one.2.1.symm.trans other.2.1
  | .cancelled, .cancelled, _, _ => rfl
  | .cancelled, .finished, one, other => exact absurd other.1 (Nat.ne_of_lt one.1)
  | .finished, .failed, one, other => cases one.2.1.symm.trans other.2.1
  | .finished, .cancelled, one, other => exact absurd one.1 (Nat.ne_of_lt other.1)
  | .finished, .finished, _, _ => rfl

theorem EndsAt.boundary_unique {run : Run} {k m : Nat} {first second : Ending}
    (one : run.EndsAt k first) (other : run.EndsAt m second) (inside : k ≤ run.steps.length)
    (otherInside : m ≤ run.steps.length) (passed : ∀ j < k, run.Passes j)
    (otherPassed : ∀ j < m, run.Passes j) : k = m := by
  rcases Nat.lt_trichotomy k m with earlier | same | later
  · exact absurd (otherPassed k earlier) (one.not_passes (by omega))
  · exact same
  · exact absurd (passed m later) (other.not_passes (by omega))

theorem ends : ∃ k ending, k ≤ run.steps.length ∧ (∀ j < k, run.Passes j) ∧ run.EndsAt k ending :=
  run.exists_ending run.steps.length 0 (Nat.zero_add _)
    (fun j earlier => absurd earlier (Nat.not_lt_zero j)) rfl

/-- A run starts from the given context without its error, invokes the first steps in their order, each
once and on exactly what the one before it returned, and only while no error is recorded and the
token is not cancelled. It ends at one boundary and for one reason. -/
theorem runs_prefix :
    run.contextAt 0 = run.context.clearError ∧ run.sessionAt 0 = run.session ∧
      ∃ k ending, k ≤ run.steps.length ∧
        (∀ j, (inside : j < run.steps.length) → j < k →
          run.Passes j ∧ run.boundary (j + 1) = run.steps[j].invoke (run.contextAt j) run.token
            (logStep j run.steps[j] (run.sessionAt j))) ∧
        run.EndsAt k ending ∧
        ∀ m other, m ≤ run.steps.length → (∀ j < m, run.Passes j) → run.EndsAt m other →
          m = k ∧ other = ending := by
  refine ⟨rfl, rfl, ?_⟩
  obtain ⟨k, ending, inside, passed, ends⟩ := run.ends
  refine ⟨k, ending, inside, fun j within earlier => ⟨passed j earlier, ?_⟩, ends, ?_⟩
  · exact run.boundary_succ within
  · intro m other otherInside otherPassed otherEnds
    obtain rfl := ends.boundary_unique otherEnds inside otherInside passed otherPassed
    exact ⟨rfl, otherEnds.ending_unique ends⟩

/-- A step that cancels the run it is in. -/
def quit : SkillFunction :=
  .native ⟨.new "desk" "quit", 0, .default⟩ ⟨.nothing, .nothing, true⟩ fun _ =>
    .act .cancel fun _ => .done ()

def quitTwice : Run := ⟨[quit, quit], Context.new 0 0, 1, Session.empty⟩

theorem quitTwice_passes : ∀ j < 1, quitTwice.Passes j := by
  intro j first
  obtain rfl := Nat.lt_one_iff.mp first
  exact ⟨rfl, rfl⟩

theorem quitTwice_endsAt : quitTwice.EndsAt 1 .cancelled :=
  quitTwice.endsAt_cancelled (by decide) quitTwice_passes rfl rfl

/-- The second step is not invoked, and its number is what the caller reads. -/
theorem runs_prefix_quitTwice :
    quitTwice.EndsAt 1 .cancelled ∧ quitTwice.result.1.error = some (.cancelled 1) ∧
      quitTwice.boundary 1 = quit.invoke (quitTwice.contextAt 0) 1 (logStep 0 quit Session.empty) ∧
      ∀ k ending, k ≤ 2 → (∀ j < k, quitTwice.Passes j) → quitTwice.EndsAt k ending →
        k = 1 ∧ ending = .cancelled := by
  obtain ⟨-, -, k, ending, -, invoked, -, unique⟩ := quitTwice.runs_prefix
  obtain ⟨rfl, rfl⟩ := unique 1 .cancelled (by decide) quitTwice_passes quitTwice_endsAt
  exact ⟨quitTwice_endsAt, quitTwice_endsAt.2.2.2.1, (invoked 0 (by decide) (by decide)).2, unique⟩

end Run

end TaintTracking.Pipeline
