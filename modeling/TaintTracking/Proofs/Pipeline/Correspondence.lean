import TaintTracking.Proofs.Pipeline.Boundary
import TaintTracking.Proofs.Program.Simulation

/-!
Two runs that have the same steps left. What a simulation relates at a boundary of each, it relates at every
later one, and so the runs end after as many steps more and in the same way.
-/

namespace TaintTracking.Pipeline

/-- From here on the two runs correspond: the same steps are left, and a simulation relates what the first of
them is invoked on. It goes on to relate the sessions after the reports of these steps. -/
structure Run.Correspond (sim : Simulation) (run run' : Run) (i i' : Nat) : Prop where
  inside : i ≤ run.steps.length
  inside' : i' ≤ run'.steps.length
  steps : run'.steps.drop i' = run.steps.drop i
  guards : ∀ step ∈ run.steps.drop i, step.EveryGuard sim.guards
  holds : ∀ step ∈ run.steps.drop i, step.HoldsOnly sim.held
  returns : sim.Returns (run.boundary i) (run'.boundary i')
  tokens : sim.tokens (run.sessionAt i).issued run.token run'.token
  reports : ∀ {s s'} e step, sim.sessions s s' →
    sim.sessions (logStep (i + e) step s) (logStep (i' + e) step s')

namespace Run.Correspond
variable {sim : Simulation} {run run' : Run} {i i' : Nat}

theorem left (here : Correspond sim run run' i i') :
    run'.steps.length - i' = run.steps.length - i := by
  rw [← List.length_drop, ← List.length_drop, here.steps]

theorem inside_iff (here : Correspond sim run run' i i') (e : Nat) :
    i' + e < run'.steps.length ↔ i + e < run.steps.length := by
  have left := here.left
  have inside := here.inside
  have inside' := here.inside'
  omega

theorem hasError (here : Correspond sim run run' i i') :
    (run'.contextAt i').hasError = (run.contextAt i).hasError := by
  rw [Context.hasError, Context.hasError, contextAt, contextAt, sim.error here.returns.1]

theorem cancelledAt (here : Correspond sim run run' i i') : run'.cancelledAt i' = run.cancelledAt i :=
  sim.isCancelled here.returns.2 here.tokens

theorem passes_iff (here : Correspond sim run run' i i') : run'.Passes i' ↔ run.Passes i := by
  rw [Passes, Passes, here.hasError, here.cancelledAt]

/-- One step further. -/
theorem succ (here : Correspond sim run run' i i') (inside : i < run.steps.length) :
    Correspond sim run run' (i + 1) (i' + 1) := by
  have inside' : i' < run'.steps.length := (here.inside_iff 0).mpr inside
  have steps := here.steps
  rw [List.drop_eq_getElem_cons inside, List.drop_eq_getElem_cons inside'] at steps
  obtain ⟨same, rest⟩ := List.cons.inj steps
  have member : run.steps[i] ∈ run.steps.drop i := by
    rw [List.drop_eq_getElem_cons inside]
    exact List.mem_cons_self ..
  have later : ∀ step ∈ run.steps.drop (i + 1), step ∈ run.steps.drop i := by
    intro step among
    rw [List.drop_eq_getElem_cons inside]
    exact List.mem_cons_of_mem _ among
  refine ⟨inside, inside', rest, fun step among => here.guards step (later step among),
    fun step among => here.holds step (later step among), ?_, ?_, fun e step related => ?_⟩
  · rw [run.boundary_succ inside, run'.boundary_succ inside', same]
    exact SkillFunction.invoke_simulates sim run.steps[i] (here.guards _ member) (here.holds _ member)
      (here.reports 0 run.steps[i] here.returns.2) here.returns.1 here.tokens
  · have grown := run.steps[i].issued_le_invoke (run.contextAt i) run.token
      (logStep i run.steps[i] (run.sessionAt i))
    rw [← run.boundary_succ inside] at grown
    exact sim.tokens_mono grown here.tokens
  · rw [Nat.add_right_comm, Nat.add_right_comm i']
    exact here.reports (e + 1) step related

theorem add (here : Correspond sim run run' i i') {e : Nat} (inside : i + e ≤ run.steps.length) :
    Correspond sim run run' (i + e) (i' + e) := by
  induction e with
  | zero => exact here
  | succ e ih => exact (ih (by omega)).succ inside

/-- Runs that correspond end after as many steps more, and for the same reason. -/
theorem ends (here : Correspond sim run run' i i') (passed : ∀ j < i, run.Passes j)
    (passed' : ∀ j < i', run'.Passes j) (clean : (run.contextAt i).hasError = false) :
    ∃ e ending, i + e ≤ run.steps.length ∧
      (∀ j < i + e, run.Passes j) ∧ run.EndsAt (i + e) ending ∧
      (∀ j < i' + e, run'.Passes j) ∧ run'.EndsAt (i' + e) ending ∧
      Correspond sim run run' (i + e) (i' + e) := by
  -- The one run has an ending; the other has the same, boundary for boundary.
  obtain ⟨k, ending, inside, before, ends⟩ := run.ends
  have reached : i ≤ k := by
    rcases Nat.lt_or_ge k i with early | late
    · exact absurd (passed k early) (ends.not_passes (Nat.lt_of_lt_of_le early here.inside))
    · exact late
  obtain ⟨e, rfl⟩ := Nat.exists_eq_add_of_le reached
  have there := here.add inside
  have before' : ∀ j < i' + e, run'.Passes j := by
    intro j earlier
    rcases Nat.lt_or_ge j i' with early | late
    · exact passed' j early
    · obtain ⟨d, rfl⟩ := Nat.exists_eq_add_of_le late
      exact (here.add (e := d) (by omega)).passes_iff.mpr (before (i + d) (by omega))
  refine ⟨e, ending, inside, before, ends, before', ?_, there⟩
  cases ending with
  | failed =>
    obtain ⟨-, failed, -⟩ := ends
    cases e with
    | zero => exact absurd (clean.symm.trans failed) Bool.false_ne_true
    | succ e =>
      have failed' := there.hasError.trans failed
      exact ⟨Nat.succ_pos _, failed',
        run'.result_of_failed ((here.inside_iff e).mpr (by omega)) before' failed'⟩
  | cancelled =>
    obtain ⟨within, clean, cancelled, -⟩ := ends
    exact run'.endsAt_cancelled ((here.inside_iff e).mpr within) before' (there.hasError.trans clean)
      (there.cancelledAt.trans cancelled)
  | finished =>
    obtain ⟨last, clean, -⟩ := ends
    have clean' := there.hasError.trans clean
    have last' : i' + e = run'.steps.length := by
      have left := here.left
      have inside' := here.inside'
      omega
    have finish := run'.result_of_finished (last' ▸ before') (last' ▸ clean')
    exact ⟨last', clean', last' ▸ finish⟩

end Run.Correspond

end TaintTracking.Pipeline
