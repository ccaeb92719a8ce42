import TaintTracking.Proofs.Pipeline.Correspondence
import TaintTracking.Proofs.Program.Alike

/-!
Pipelines compose. Main statement: to run two lists of steps as one is to run the first, and then, unless it
reports an error, the second from where the first ended, with the same calls and writes; only a cancellation
that the second run finds itself is numbered from the beginning of the whole.
-/

namespace TaintTracking

/-- What a pipeline reports to the log about its own progress. -/
def Event.isReport : Event → Bool
  | .logged (.runningStep ..) => true
  | .logged (.stepFailed ..) => true
  | .logged (.runCancelled ..) => true
  | .logged (.runFinished ..) => true
  | _ => false

/-- The sessions are alike in all but the trail, and their trails in all but the reports of pipelines: the
same was called, asked, written and cancelled, at the same time. -/
def Session.SameEffects (s t : Session) : Prop :=
  ∃ trail, t = { s with trail } ∧ trail.filter (!·.isReport) = s.trail.filter (!·.isReport)

namespace Session.SameEffects
variable {s t : Session}

theorem refl (s : Session) : s.SameEffects s := Alike.refl s

theorem of_report (s : Session) {event : Event} (isReport : event.isReport = true) :
    s.SameEffects (s.record event) :=
  (Alike.refl s).drop (by simp [isReport])

/-- Reports do not count, whatever they say. -/
theorem report (same : s.SameEffects t) {event other : Event} (isReport : event.isReport = true)
    (otherIsReport : other.isReport = true) : (s.record event).SameEffects (t.record other) :=
  Alike.dropBoth same (by simp [isReport]) (by simp [otherIsReport])

end Session.SameEffects

/-- Functions do not see what was reported. -/
def Simulation.unreported : Simulation := Simulation.upTo fun event => !event.isReport

namespace Pipeline.Run

/-- Where the sessions have the same effects, runs of the same steps do. -/
theorem correspond_unreported {run run' : Run} {i i' : Nat} (inside : i ≤ run.steps.length)
    (inside' : i' ≤ run'.steps.length) (steps : run'.steps.drop i' = run.steps.drop i)
    (context : run'.contextAt i' = run.contextAt i) (coherent : (run.contextAt i).Coherent)
    (session : (run.sessionAt i).SameEffects (run'.sessionAt i')) (token : run'.token = run.token) :
    Correspond Simulation.unreported run run' i i' where
  inside
  inside'
  steps
  guards step _ := step.everyGuard_of_forall fun _ => True.intro
  holds step _ := step.holdsOnly_of_forall fun _ => True.intro
  returns := ⟨⟨context, coherent⟩, session⟩
  tokens := token
  reports _ _ same := Session.SameEffects.report same rfl rfl

/-- A context that a run comes to is coherent. -/
theorem coherent_contextAt (run : Run) {k : Nat} (inside : k ≤ run.steps.length) :
    (run.contextAt k).Coherent := by
  have start : Correspond Simulation.unreported run run 0 0 :=
    correspond_unreported (Nat.zero_le _) (Nat.zero_le _) rfl rfl rfl (.refl _) rfl
  have there := start.add (e := k) (by omega)
  rw [Nat.zero_add] at there
  exact there.returns.1.2

/-- A run that reports no error invoked all its steps. -/
theorem finished_of_clean (run : Run) (clean : run.result.1.hasError = false) :
    (∀ j < run.steps.length, run.Passes j) ∧ run.EndsAt run.steps.length .finished := by
  obtain ⟨k, ending, inside, passed, ends⟩ := run.ends
  cases ending with
  | failed =>
    rw [ends.2.2] at clean
    exact absurd (clean.symm.trans ends.2.1) Bool.false_ne_true
  | cancelled =>
    rw [ends.2.2.2.2] at clean
    cases clean
  | finished =>
    obtain rfl := ends.1
    exact ⟨passed, ends⟩

section Append
variable (xs ys : List SkillFunction) (context : Context) (token : TokenId) (s : Session)

/-- Up to the end of the first steps it does not matter what comes after them. -/
theorem boundary_append {k : Nat} (inside : k ≤ xs.length) :
    boundary ⟨xs ++ ys, context, token, s⟩ k = boundary ⟨xs, context, token, s⟩ k := by
  induction k with
  | zero => rfl
  | succ k ih =>
    have within : k < (xs ++ ys).length := by
      rw [List.length_append]
      omega
    have now := ih (Nat.le_of_succ_le inside)
    have whole := boundary_succ ⟨xs ++ ys, context, token, s⟩ within
    have first := boundary_succ ⟨xs, context, token, s⟩ inside
    dsimp only at whole first
    rw [List.getElem_append_left inside, contextAt, sessionAt, now] at whole
    exact whole.trans first.symm

theorem passes_append {k : Nat} (inside : k ≤ xs.length) :
    Passes ⟨xs ++ ys, context, token, s⟩ k ↔ Passes ⟨xs, context, token, s⟩ k := by
  unfold Passes cancelledAt contextAt sessionAt
  rw [boundary_append xs ys context token s inside]

/-- What ends the first steps with an error ends the whole. -/
theorem result_append_of_hasError
    (failed : (result ⟨xs, context, token, s⟩).1.hasError = true) :
    result ⟨xs ++ ys, context, token, s⟩ = result ⟨xs, context, token, s⟩ := by
  let first : Run := ⟨xs, context, token, s⟩
  let whole : Run := ⟨xs ++ ys, context, token, s⟩
  obtain ⟨k, ending, inside, passed, ends⟩ := first.ends
  have same : whole.boundary k = first.boundary k := boundary_append xs ys context token s inside
  have sameContext : whole.contextAt k = first.contextAt k := congrArg Prod.fst same
  have sameSession : whole.sessionAt k = first.sessionAt k := congrArg Prod.snd same
  have longer : whole.steps.length = xs.length + ys.length := List.length_append
  have passedToo : ∀ j < k, whole.Passes j := fun j earlier =>
    (passes_append xs ys context token s (Nat.le_of_lt (Nat.lt_of_lt_of_le earlier inside))).mpr
      (passed j earlier)
  cases ending with
  | failed =>
    obtain ⟨positive, failedThere, result⟩ := ends
    obtain ⟨m, rfl⟩ := Nat.exists_eq_succ_of_ne_zero (Nat.ne_of_gt positive)
    rw [← sameContext] at failedThere
    have wholeResult := whole.result_of_failed (k := m) (by rw [longer]; exact Nat.lt_add_right _ inside)
      passedToo failedThere
    rw [sameContext, sameSession] at wholeResult
    exact wholeResult.trans result.symm
  | cancelled =>
    obtain ⟨within, clean, cancelled, -, result⟩ := ends
    rw [← sameContext] at clean
    have cancelledToo : whole.cancelledAt k = true := by rwa [cancelledAt, sameSession]
    have wholeResult := whole.result_of_cancelled (by rw [longer]; exact Nat.lt_add_right _ within)
      passedToo clean cancelledToo
    rw [sameContext, sameSession] at wholeResult
    exact wholeResult.trans result.symm
  | finished =>
    obtain ⟨-, clean, result⟩ := ends
    rw [show Run.result ⟨xs, context, token, s⟩ = first.result from rfl, result] at failed
    exact absurd (clean.symm.trans failed) Bool.false_ne_true

section Clean
variable {xs context token s} (clean : (result ⟨xs, context, token, s⟩).1.hasError = false)
include clean

theorem passes_append_of_clean {j : Nat} (earlier : j < xs.length) :
    Passes ⟨xs ++ ys, context, token, s⟩ j :=
  (passes_append xs ys context token s (Nat.le_of_lt earlier)).mpr
    ((finished_of_clean ⟨xs, context, token, s⟩ clean).1 j earlier)

theorem contextAt_append_clean :
    (contextAt ⟨xs ++ ys, context, token, s⟩ xs.length).hasError = false := by
  rw [contextAt, boundary_append xs ys context token s (Nat.le_refl _)]
  exact (finished_of_clean ⟨xs, context, token, s⟩ clean).2.2.1

/-- After the first steps, the whole is where a run of the others from their result begins. -/
theorem correspond_append : Correspond Simulation.unreported ⟨xs ++ ys, context, token, s⟩
    ⟨ys, (result ⟨xs, context, token, s⟩).1, token, (result ⟨xs, context, token, s⟩).2⟩ xs.length 0 := by
  let first : Run := ⟨xs, context, token, s⟩
  let whole : Run := ⟨xs ++ ys, context, token, s⟩
  obtain ⟨-, -, cleanThere, result⟩ := first.finished_of_clean clean
  have split : whole.boundary xs.length = first.boundary xs.length :=
    boundary_append xs ys context token s (Nat.le_refl _)
  have sameContext : whole.contextAt xs.length = first.contextAt xs.length := congrArg Prod.fst split
  have sameSession : whole.sessionAt xs.length = first.sessionAt xs.length := congrArg Prod.snd split
  have coherent := first.coherent_contextAt (Nat.le_refl _)
  have inside : xs.length ≤ whole.steps.length := by
    rw [show whole.steps.length = xs.length + ys.length from List.length_append]
    exact Nat.le_add_right _ _
  refine correspond_unreported inside (Nat.zero_le _) List.drop_left.symm ?_ (sameContext ▸ coherent) ?_ rfl
  · rw [sameContext]
    exact (congrArg (fun out => Context.clearError out.1) result).trans (coherent.clearError cleanThere)
  · rw [sameSession]
    -- The first run has reported its end, which the whole has not.
    refine (congrArg (first.sessionAt xs.length).SameEffects (congrArg Prod.snd result)).mpr ?_
    exact .of_report _ rfl

end Clean

end Append

/-- Runs that end at corresponding boundaries for the same reason have the same effects. -/
theorem sameEffects_result {run run' : Run} {i i' : Nat} {ending : Ending}
    (there : Correspond Simulation.unreported run run' i i') (ends : run.EndsAt i ending)
    (ends' : run'.EndsAt i' ending) : run.result.2.SameEffects run'.result.2 := by
  have same : (run.sessionAt i).SameEffects (run'.sessionAt i') := there.returns.2
  cases ending with
  | failed =>
    rw [ends.2.2, ends'.2.2]
    exact same.report rfl rfl
  | cancelled =>
    rw [ends.2.2.2.2, ends'.2.2.2.2]
    exact same.report rfl rfl
  | finished =>
    rw [ends.2.2, ends'.2.2]
    exact same.report rfl rfl

/-- The result of a run that ended so, with a cancellation that the run found itself numbered anew. -/
def Ending.renumber (boundary : Nat) (context : Context) : Ending → Context
  | .cancelled =>
    { context with
      error := some (.cancelled boundary)
      description := (InvocationError.cancelled boundary).message }
  | _ => context

theorem context_result {run run' : Run} {i i' : Nat} {ending : Ending}
    (there : Correspond Simulation.unreported run run' i i') (ends : run.EndsAt i ending)
    (ends' : run'.EndsAt i' ending) :
    run.result.1 = ending.renumber i run'.result.1 := by
  have same : run'.contextAt i' = run.contextAt i := there.returns.1.1
  cases ending with
  | failed =>
    rw [ends.2.2, ends'.2.2, same]
    rfl
  | cancelled =>
    rw [ends.2.2.2.2, ends'.2.2.2.2, same]
    rfl
  | finished =>
    rw [ends.2.2, ends'.2.2, same]
    rfl

/-- Pipelines compose, from any context and session. If the first steps end with an error, so does the whole,
in the same way. If not, the whole goes on as a run of the other steps from the result, with the same
effects and to the same result, except that a cancellation which this run finds at a boundary itself has
the number of that boundary in the whole. -/
theorem result_append (xs ys : List SkillFunction) (context : Context) (token : TokenId) (s : Session) :
    let first : Run := ⟨xs, context, token, s⟩
    let second : Run := ⟨ys, first.result.1, token, first.result.2⟩
    let whole : Run := ⟨xs ++ ys, context, token, s⟩
    (first.result.1.hasError = true → whole.result = first.result) ∧
    (first.result.1.hasError = false →
      whole.result.2.SameEffects second.result.2 ∧
      ∃ k ending, k ≤ ys.length ∧ (∀ j < k, second.Passes j) ∧ second.EndsAt k ending ∧
        whole.result.1 = ending.renumber (xs.length + k) second.result.1) := by
  intro first second whole
  refine ⟨result_append_of_hasError xs ys context token s, fun clean => ?_⟩
  obtain ⟨e, ending, -, -, ends, before, ends', there⟩ :=
    (correspond_append ys clean).ends (fun j earlier => passes_append_of_clean ys clean earlier)
      (fun j earlier => absurd earlier (Nat.not_lt_zero j)) (contextAt_append_clean ys clean)
  rw [Nat.zero_add] at before ends' there
  exact ⟨sameEffects_result there ends ends', e, ending, there.inside', before, ends',
    context_result there ends ends'⟩

def pause : SkillFunction :=
  .native ⟨.new "desk" "pause", 1, .default⟩ ⟨.nothing, .nothing, false⟩ fun _ => .done ()

/-- The second run finds the cancellation before its step 1, which is step 2 of the whole. -/
theorem result_append_pauseThenQuit :
    let first : Run := ⟨[pause], Context.new 0 0, 1, Session.empty⟩
    let second : Run := ⟨[quit, quit], first.result.1, 1, first.result.2⟩
    let whole : Run := ⟨[pause, quit, quit], Context.new 0 0, 1, Session.empty⟩
    first.result.1.hasError = false ∧ whole.result.2.SameEffects second.result.2 ∧
      second.result.1.error = some (.cancelled 1) ∧ whole.result.1.error = some (.cancelled 2) := by
  intro first second whole
  have clean : first.result.1.hasError = false := rfl
  have law := result_append [pause] [quit, quit] (Context.new 0 0) 1 Session.empty
  obtain ⟨effects, k, ending, inside, passed, ends, result⟩ := law.2 clean
  have passes : ∀ j < 1, second.Passes j := by
    intro j earlier
    obtain rfl := Nat.lt_one_iff.mp earlier
    exact ⟨rfl, rfl⟩
  have quits : second.EndsAt 1 .cancelled := second.endsAt_cancelled (by decide) passes rfl rfl
  obtain rfl := quits.boundary_unique ends (by decide) inside passes passed
  obtain rfl := quits.ending_unique ends
  exact ⟨clean, effects, quits.2.2.2.1, congrArg (·.error) result⟩

end Pipeline.Run

end TaintTracking
