import TaintTracking.Proofs.Pipeline.Composition
import TaintTracking.Proofs.Session.Confinement
import TaintTracking.Proofs.Session.Twins

/-!
A function may give a context of its own for that of its caller. Main statement: the run then goes on with this
context as it was given, and with nothing of the past. No later step writes to the store that was replaced,
and two runs that come to contexts with the same variables by different ways end with the same.
-/

namespace TaintTracking.Pipeline.Run

/-- The run begins with what there is: its context, its token and the tokens that its callables hold were
handed out before, and nothing is known of identities to come. -/
structure Legal (run : Run) : Prop where
  context : run.session.HasStore run.context
  token : run.token < run.session.issued
  held : ∀ step ∈ run.steps, step.HoldsOnly (· < run.session.issued)
  tidy : run.session.Tidy

section Confined
variable {run : Run}

theorem issued_le_sessionAt {k : Nat} (inside : k ≤ run.steps.length) :
    run.session.issued ≤ (run.sessionAt k).issued := by
  induction k with
  | zero => exact Nat.le_refl _
  | succ k ih =>
    refine Nat.le_trans (ih (Nat.le_of_succ_le inside)) ?_
    have grown := run.steps[k].issued_le_invoke (run.contextAt k) run.token
      (logStep k run.steps[k] (run.sessionAt k))
    rwa [← run.boundary_succ inside] at grown

/-- What the steps after a boundary are confined to. -/
def limits (run : Run) {k : Nat} (inside : k ≤ run.steps.length) : Confinement where
  base := (run.sessionAt k).issued
  home := (run.contextAt k).store
  stores := (run.sessionAt k).stores
  held := (· < run.session.issued)
  held_lt _ early := Nat.lt_of_lt_of_le early (issued_le_sessionAt inside)

theorem correspond_limits (held : ∀ step ∈ run.steps, step.HoldsOnly (· < run.session.issued)) {k : Nat}
    (inside : k ≤ run.steps.length) (known : (run.sessionAt k).HasStore (run.contextAt k))
    (token : run.token < (run.sessionAt k).issued) (tidy : (run.sessionAt k).Tidy) :
    Correspond (run.limits inside).simulation run run k k where
  inside
  inside' := inside
  steps := rfl
  guards step _ := step.everyGuard_of_forall fun _ => True.intro
  holds step among := held step (List.mem_of_mem_drop among)
  returns := ⟨⟨rfl, known, .inl rfl⟩, rfl, Nat.le_refl _, fun _ _ _ => rfl, tidy⟩
  tokens := ⟨rfl, token⟩
  reports _ _ related := (run.limits inside).simulation.record related _

namespace Legal
variable (legal : run.Legal)
include legal

theorem correspond {k : Nat} (inside : k ≤ run.steps.length) :
    Correspond (run.limits inside).simulation run run k k := by
  have start := correspond_limits legal.held (Nat.zero_le _) legal.context legal.token legal.tidy
  have there := start.add (e := k) (by omega)
  rw [Nat.zero_add] at there
  exact correspond_limits legal.held inside there.returns.1.2.known there.tokens.2
    there.returns.2.2.tidy

theorem hasStore {k : Nat} (inside : k ≤ run.steps.length) :
    (run.sessionAt k).HasStore (run.contextAt k) := (legal.correspond inside).returns.1.2.known

theorem token_lt {k : Nat} (inside : k ≤ run.steps.length) : run.token < (run.sessionAt k).issued :=
  (legal.correspond inside).tokens.2

theorem tidy_sessionAt {k : Nat} (inside : k ≤ run.steps.length) : (run.sessionAt k).Tidy :=
  (legal.correspond inside).returns.2.2.tidy

end Legal

end Confined

/-- A step that gives a context of its own, on a store other than that of its caller. `consulted` is the session
in which the policy agreed, `left` the one that the body left. -/
structure Replacement (run : Run) where
  index : Nat
  guard : Guard
  input : InputShape
  asynchronous : Bool
  code : input.Argument → Program .context input.contexts
  verdict : Bool
  consulted : Session
  context : Context
  left : Session
  starts : run.Starts index
  step : run.steps[index]? = some (.native guard ⟨input, .context, asynchronous⟩ code)
  consent : guard.consult (run.contextAt index)
    (logStep index (.native guard ⟨input, .context, asynchronous⟩ code) (run.sessionAt index)) =
      (.ok verdict, consulted)
  body : SkillFunction.runBody guard ⟨input, .context, asynchronous⟩ code (run.contextAt index) run.token
    verdict consulted = (.ok context, left)
  elsewhere : context.store ≠ (run.contextAt index).store

namespace Replacement
variable {run : Run} (replacement : Replacement run)

/-- Whatever the verdict and the force flag are, the run goes on with what the body gave and left. -/
theorem boundary_succ : run.boundary (replacement.index + 1) =
    (replacement.context, replacement.guard.complete .context replacement.verdict
      (replacement.guard.forcesUntrusted replacement.consulted) replacement.left) := by
  have invoked := SkillFunction.invoke_of_body replacement.consent replacement.body
  rw [boundary, replacement.step]
  exact invoked

theorem contextAt_succ : run.contextAt (replacement.index + 1) = replacement.context :=
  congrArg Prod.fst replacement.boundary_succ

theorem sessionAt_succ : run.sessionAt (replacement.index + 1) =
    replacement.guard.complete .context replacement.verdict
      (replacement.guard.forcesUntrusted replacement.consulted) replacement.left :=
  congrArg Prod.snd replacement.boundary_succ

theorem stores_succ : (run.sessionAt (replacement.index + 1)).stores = replacement.left.stores := by
  rw [replacement.sessionAt_succ]
  rfl

theorem unmarked_succ (clean : replacement.context.hasError = false) :
    (run.contextAt (replacement.index + 1)).error = none ∧
      (run.contextAt (replacement.index + 1)).description = "" := by
  rw [← replacement.contextAt_succ] at clean
  rw [← (run.coherent_contextAt replacement.starts.1).clearError clean]
  exact ⟨rfl, rfl⟩

/-- The replacements hold the same variables and no error, and the same steps are left, under tokens that will
be cancelled at the same time. These steps are functions of what they are given: their guards decide the same
in both sessions, and their callables hold no tokens from elsewhere. -/
structure Alike {run run' : Run} (one : Replacement run) (other : Replacement run') : Prop where
  slots : other.left.storeOf other.context = one.left.storeOf one.context
  clean : one.context.hasError = false
  clean' : other.context.hasError = false
  steps : run'.steps.drop (other.index + 1) = run.steps.drop (one.index + 1)
  cancelled : other.left.isCancelled run'.token = one.left.isCancelled run.token
  timeLeft : other.left.timeLeft run'.token = one.left.timeLeft run.token
  guards : ∀ step ∈ run.steps.drop (one.index + 1), step.EveryGuard fun guard =>
    guard.forcesUntrusted other.left = guard.forcesUntrusted one.left ∧
      guard.policy.AnswersAlike one.left other.left
  given : ∀ step ∈ run.steps.drop (one.index + 1), step.HoldsOnly fun _ => False

theorem known_succ (legal : run.Legal) :
    replacement.context.store < (run.sessionAt (replacement.index + 1)).issued := by
  have known := legal.hasStore (k := replacement.index + 1) replacement.starts.1
  rwa [Session.HasStore, replacement.contextAt_succ] at known

section Twins
variable {run run' : Run} (one : Replacement run) (other : Replacement run')

/-- What two runs have in common after their contexts were replaced. -/
def twins (legal : run.Legal) (legal' : run'.Legal) : Twins where
  since := (run.sessionAt (one.index + 1)).issued
  since' := (run'.sessionAt (other.index + 1)).issued
  home := ⟨one.context.store, other.context.store, one.known_succ legal, other.known_succ legal'⟩
  token := ⟨run.token, run'.token, legal.token_lt one.starts.1, legal'.token_lt other.starts.1⟩
  guards guard := guard.forcesUntrusted other.left = guard.forcesUntrusted one.left ∧
    guard.policy.AnswersAlike one.left other.left

variable {one other} (alike : one.Alike other)
include alike

theorem Alike.matches (legal : run.Legal) (legal' : run'.Legal) :
    (twins one other legal legal').Match (run.sessionAt (one.index + 1))
      (run'.sessionAt (other.index + 1)) where
  count := ⟨0, rfl, rfl⟩
  stores pairs := by
    obtain ⟨rfl, rfl⟩ := Pairing.pairs_since.mp pairs
    rw [one.stores_succ, other.stores_succ]
    exact alike.slots
  cancelled pairs := by
    obtain ⟨rfl, rfl⟩ := Pairing.pairs_since.mp pairs
    rw [one.sessionAt_succ, other.sessionAt_succ]
    exact alike.cancelled
  timeLeft pairs := by
    obtain ⟨rfl, rfl⟩ := Pairing.pairs_since.mp pairs
    rw [one.sessionAt_succ, other.sessionAt_succ]
    exact alike.timeLeft
  tidy := legal.tidy_sessionAt one.starts.1
  tidy' := legal'.tidy_sessionAt other.starts.1
  forced guard member := by
    rw [one.sessionAt_succ, other.sessionAt_succ]
    exact member.1
  answers guard member := by
    rw [one.sessionAt_succ, other.sessionAt_succ]
    exact member.2.congr rfl rfl

theorem Alike.correspond (legal : run.Legal) (legal' : run'.Legal) :
    Correspond (twins one other legal legal').simulation run run' (one.index + 1) (other.index + 1) where
  inside := one.starts.1
  inside' := other.starts.1
  steps := alike.steps
  guards := alike.guards
  holds := alike.given
  returns := by
    obtain ⟨error, description⟩ := one.unmarked_succ alike.clean
    obtain ⟨error', description'⟩ := other.unmarked_succ alike.clean'
    refine ⟨⟨.inl ⟨?_, ?_⟩, ?_, ?_⟩, alike.matches legal legal'⟩
    · exact congrArg Context.store one.contextAt_succ
    · exact congrArg Context.store other.contextAt_succ
    · exact error'.trans error.symm
    · exact description'.trans description.symm
  tokens := .inl ⟨rfl, rfl⟩
  reports _ _ related := related.record _ _

/-- After their contexts were replaced alike, the runs end after as many steps more and for the same reason,
with the same variables and error. -/
theorem Alike.ends (legal : run.Legal) (legal' : run'.Legal) :
    ∃ e ending, one.index + 1 + e ≤ run.steps.length ∧
      (∀ j < one.index + 1 + e, run.Passes j) ∧ run.EndsAt (one.index + 1 + e) ending ∧
      (∀ j < other.index + 1 + e, run'.Passes j) ∧ run'.EndsAt (other.index + 1 + e) ending ∧
      run'.result.2.storeOf run'.result.1 = run.result.2.storeOf run.result.1 ∧
      run'.result.1.error = (ending.renumber (other.index + 1 + e) run.result.1).error := by
  have passed : ∀ j < one.index + 1, run.Passes j := fun j earlier =>
    one.starts.2 j (Nat.le_of_lt_succ earlier)
  have passed' : ∀ j < other.index + 1, run'.Passes j := fun j earlier =>
    other.starts.2 j (Nat.le_of_lt_succ earlier)
  have clean : (run.contextAt (one.index + 1)).hasError = false := by
    rw [one.contextAt_succ]
    exact alike.clean
  obtain ⟨e, ending, inside, before, ends, before', ends', there⟩ :=
    (alike.correspond legal legal').ends passed passed' clean
  refine ⟨e, ending, inside, before, ends, before', ends', ?_, ?_⟩
  · rw [ends.storeOf_result, ends'.storeOf_result]
    exact there.returns.2.stores there.returns.1.stores
  · have same : (run'.contextAt (other.index + 1 + e)).error =
        (run.contextAt (one.index + 1 + e)).error := there.returns.1.error
    cases ending with
    | failed =>
      rw [ends.2.2, ends'.2.2]
      exact same
    | cancelled => exact ends'.2.2.2.1
    | finished =>
      rw [ends.2.2, ends'.2.2]
      exact same

end Twins

def deskGuard (name : String) (flag : FlagId) : Guard :=
  ⟨Descriptor.new "desk" name, flag, .contextual true⟩

def echo : SkillFunction := .native (deskGuard "echo" 1) ⟨.text, .text, false⟩ fun text => .done text

end Replacement

end TaintTracking.Pipeline.Run
