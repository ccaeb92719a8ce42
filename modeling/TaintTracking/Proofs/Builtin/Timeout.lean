import TaintTracking.Proofs.Builtin.Job

/-!
Jobs under a timeout. The token is cancelled while a step runs, the step finishes, and the next one does not
start. Main statement: a job that is cut leaves exactly what its first steps leave when nobody cancels them,
with the cancellation recorded on it; a job that is not cut ends as if nobody had cancelled it; and more time
never cuts a job at an earlier step.
-/

namespace TaintTracking.Builtin

/-- The time that the fetches among the names take, in milliseconds. -/
def fetchTime (names : List String) : Nat := fetchLatency * names.count Builtin.fetch.name

theorem duration_eq (builtin : Builtin) :
    builtin.duration = if builtin.name = Builtin.fetch.name then fetchLatency else 0 := by
  cases builtin <;> decide

theorem elapsed_eq_fetchTime (builtins : List Builtin) :
    elapsed builtins = fetchTime (builtins.map name) := by
  induction builtins with
  | nil => rfl
  | cons builtin builtins ih =>
    have rest : (builtins.map duration).sum = fetchTime (builtins.map name) := ih
    rw [elapsed, List.map_cons, List.sum_cons, rest, duration_eq, fetchTime, fetchTime, List.map_cons,
      List.count_cons]
    split
    next fetches => simp [fetches, Nat.mul_add, Nat.add_comm]
    next other => simp [other]

theorem named_map_name (builtins : List Builtin) : named (builtins.map name) = builtins := by
  induction builtins with
  | nil => rfl
  | cons builtin builtins ih =>
    rw [List.map_cons, named, List.filterMap_cons_some (ofName?_name builtin), ← named, ih]

/-- Names that are all known stand for functions one by one. -/
theorem named_take {names : List String} (known : ∀ name ∈ names, (ofName? name).isSome) (k : Nat) :
    named (names.take k) = (named names).take k := by
  conv_lhs => rw [← map_name_named known, ← List.map_take]
  exact named_map_name _

namespace Job

/-- The job that nobody cancels. -/
def uncancelled (job : Job) : Job := { job with cancellation := .never }

/-- The job that is cancelled after a delay in milliseconds, unless it is over by then. -/
def within (job : Job) (delay : Nat) : Job := { job with cancellation := ⟨false, some delay⟩ }

/-- The first steps of the job, which nobody cancels. -/
def upTo (job : Job) (k : Nat) : Job := { job.uncancelled with names := job.names.take k }

/-- What is seen at the end of the job, unless no pipeline is made of it. -/
def seen (job : Job) (flag : FlagId) (token : TokenId) (s : Session) : Except Fault Snapshot :=
  (job.build flag).map fun pipeline =>
    let result := job.perform pipeline token s
    result.2.view result.1

/-- Whether the job ends without an error. -/
def endsClean (job : Job) (flag : FlagId) (token : TokenId) (s : Session) : Bool :=
  match job.seen flag token s with
  | .ok snapshot => snapshot.error.isNone
  | .error _ => false

/-- The least boundary with a step after it at which the steps before it have run without an error and their
fetches have taken longer than the delay. -/
def cutoff? (job : Job) (flag : FlagId) (token : TokenId) (s : Session) (delay : Nat) : Option Nat :=
  (List.range job.names.length).find? fun k =>
    (job.upTo k).endsClean flag token s && decide (delay < fetchTime (job.names.take k))

theorem inTime_within {job : Job} {delay k : Nat} :
    (job.within delay).inTime k ↔ elapsed (job.builtins.take k) ≤ delay := by
  have reached : (job.within delay).cancellation.reached (elapsed (job.builtins.take k)) =
      decide (delay < elapsed (job.builtins.take k)) := rfl
  rw [inTime, show (job.within delay).builtins = job.builtins from rfl, reached, decide_eq_false_iff_not,
    Nat.not_lt]

theorem inTime_uncancelled (job : Job) (k : Nat) : job.uncancelled.inTime k :=
  Cancellation.reached_never _

section Built
variable {job : Job} {flag : FlagId} {pipeline : Pipeline} {token : TokenId} {s : Session}
  (built : job.build flag = .ok pipeline)
include built

theorem length_builtins : job.builtins.length = job.names.length :=
  length_named (build_eq_ok_iff.mp built).1

theorem builtins_upTo (k : Nat) : (job.upTo k).builtins = job.builtins.take k :=
  named_take (build_eq_ok_iff.mp built).1 k

theorem fetchTime_take (k : Nat) : fetchTime (job.names.take k) = elapsed (job.builtins.take k) := by
  rw [elapsed_eq_fetchTime, List.map_take, builtins, map_name_named (build_eq_ok_iff.mp built).1]

theorem exists_build_upTo (k : Nat) : ∃ shorter, (job.upTo k).build flag = .ok shorter := by
  obtain ⟨known, bounded, -⟩ := build_eq_ok_iff.mp built
  refine ⟨_, build_eq_ok_iff.mpr ⟨fun name member => known name (List.mem_of_mem_take member), ?_, rfl⟩⟩
  rw [builtins_upTo built, List.length_take]
  exact Nat.le_trans (Nat.min_le_right _ _) bounded

theorem seen_of_build : job.seen flag token s =
    .ok ((job.perform pipeline token s).2.view (job.perform pipeline token s).1) := by
  rw [seen, built]
  rfl

variable (ready : s.Ready token flag)
include ready

/-- A job whose time is never up where a step is left shows what all its functions make of the input. -/
theorem seen_of_timely
    (timely : ∀ k < job.builtins.length, (job.stateAt k).refusal = none → job.inTime k) :
    job.seen flag token s = .ok (job.stateAt job.builtins.length).snapshot := by
  rw [seen_of_build built, view_perform, stateAt, List.take_length]
  exact congrArg Except.ok ((job.carries built ready).view_result_of_timely timely)

theorem seen_upTo (k : Nat) : (job.upTo k).seen flag token s = .ok (job.stateAt k).snapshot := by
  obtain ⟨shorter, builtShorter⟩ := exists_build_upTo built k
  rw [seen_of_timely builtShorter ready fun _ _ _ => Cancellation.reached_never _, stateAt, List.take_length,
    builtins_upTo built]
  rfl

theorem endsClean_upTo (k : Nat) :
    (job.upTo k).endsClean flag token s = true ↔ (job.stateAt k).refusal = none := by
  rw [endsClean, seen_upTo built ready]
  simp [State.snapshot]

/-- The cut in terms of the states: nothing was refused before it, and it is the first boundary after the
delay. -/
theorem cutoff?_eq_some_iff {delay k : Nat} : job.cutoff? flag token s delay = some k ↔
    k < job.builtins.length ∧ (job.stateAt k).refusal = none ∧
      delay < elapsed (job.builtins.take k) ∧ ∀ j < k, elapsed (job.builtins.take j) ≤ delay := by
  have holds (j : Nat) : ((job.upTo j).endsClean flag token s &&
      decide (delay < fetchTime (job.names.take j))) = true ↔
        (job.stateAt j).refusal = none ∧ delay < elapsed (job.builtins.take j) := by
    rw [Bool.and_eq_true, endsClean_upTo built ready, decide_eq_true_iff, fetchTime_take built]
  rw [cutoff?, List.find?_range_eq_some, holds, List.mem_range, length_builtins built]
  constructor
  · rintro ⟨⟨going, late⟩, inside, first⟩
    refine ⟨inside, going, late, fun j earlier => ?_⟩
    have fails := first j earlier
    rw [Bool.not_eq_true', ← Bool.not_eq_true, holds] at fails
    exact Nat.not_lt.mp fun exceeds => fails ⟨State.going_take going (Nat.le_of_lt earlier), exceeds⟩
  · rintro ⟨inside, going, late, first⟩
    refine ⟨⟨going, late⟩, inside, fun j earlier => ?_⟩
    rw [Bool.not_eq_true', ← Bool.not_eq_true, holds]
    exact fun both => Nat.not_le.mpr both.2 (first j earlier)

theorem cutoff?_eq_none_iff {delay : Nat} : job.cutoff? flag token s delay = none ↔
    ∀ k < job.builtins.length, (job.stateAt k).refusal = none →
      elapsed (job.builtins.take k) ≤ delay := by
  rw [cutoff?, List.find?_range_eq_none, length_builtins built]
  refine forall₂_congr fun k inside => ?_
  rw [Bool.not_eq_true', Bool.and_eq_false_imp, endsClean_upTo built ready, decide_eq_false_iff_not,
    Nat.not_lt, fetchTime_take built]

/-- More time never cuts a job earlier. -/
theorem cutoff?_mono {delay later k : Nat} (more : delay ≤ later)
    (cut : job.cutoff? flag token s later = some k) :
    ∃ j ≤ k, job.cutoff? flag token s delay = some j := by
  obtain ⟨inside, going, late, -⟩ := (cutoff?_eq_some_iff built ready).mp cut
  cases found : job.cutoff? flag token s delay with
  | none =>
    have early := (cutoff?_eq_none_iff built ready).mp found k inside going
    omega
  | some j =>
    refine ⟨j, ?_, rfl⟩
    obtain ⟨-, -, -, first⟩ := (cutoff?_eq_some_iff built ready).mp found
    by_contra beyond
    have early := first k (by omega)
    omega

/-- The steps before the cut are invoked, and no other. -/
theorem starts_within_of_cut {delay k : Nat} (cut : job.cutoff? flag token s delay = some k) (j : Nat) :
    ((job.within delay).run pipeline token s).Starts j ↔ j < k := by
  obtain ⟨inside, going, late, first⟩ := (cutoff?_eq_some_iff built ready).mp cut
  rw [(job.within delay).starts_iff built ready, inTime_within]
  constructor
  · rintro ⟨-, -, early⟩
    by_contra beyond
    have longer := elapsed_take_mono job.builtins (Nat.not_lt.mp beyond)
    omega
  · intro earlier
    exact ⟨Nat.lt_trans earlier inside, State.going_take going (Nat.le_of_lt earlier), first j earlier⟩

theorem starts_within_of_uncut {delay : Nat} (uncut : job.cutoff? flag token s delay = none) (j : Nat) :
    ((job.within delay).run pipeline token s).Starts j ↔
      (job.uncancelled.run pipeline token s).Starts j := by
  have timely := (cutoff?_eq_none_iff built ready).mp uncut
  rw [(job.within delay).starts_iff built ready, job.uncancelled.starts_iff built ready, inTime_within]
  constructor
  · rintro ⟨inside, going, -⟩
    exact ⟨inside, going, inTime_uncancelled job j⟩
  · rintro ⟨inside, going, -⟩
    exact ⟨inside, going, timely j inside going⟩

theorem seen_within_of_cut {delay k : Nat} (cut : job.cutoff? flag token s delay = some k) :
    (job.within delay).seen flag token s =
      .ok ⟨(job.stateAt k).store, some (.cancelled k), (InvocationError.cancelled k).message⟩ := by
  obtain ⟨inside, going, -, -⟩ := (cutoff?_eq_some_iff built ready).mp cut
  obtain ⟨last, ending, -, before, -, shown⟩ := (job.within delay).exists_end built ready
  have same : last = k := by
    have agree (j : Nat) : j < last ↔ j < k :=
      (before j).symm.trans (starts_within_of_cut built ready cut j)
    have low := agree k
    have high := agree last
    omega
  rw [same] at shown
  have builtWithin : (job.within delay).build flag = .ok pipeline := built
  rw [seen_of_build builtWithin, shown]
  exact congrArg Except.ok (State.ending_of_cancelled going inside)

theorem seen_within_of_uncut {delay : Nat} (uncut : job.cutoff? flag token s delay = none) :
    (job.within delay).seen flag token s = job.uncancelled.seen flag token s := by
  have timely := (cutoff?_eq_none_iff built ready).mp uncut
  have builtWithin : (job.within delay).build flag = .ok pipeline := built
  have builtUncancelled : job.uncancelled.build flag = .ok pipeline := built
  rw [seen_of_timely builtWithin ready fun k inside going => inTime_within.mpr (timely k inside going),
    seen_of_timely builtUncancelled ready fun k _ _ => inTime_uncancelled job k]
  rfl

end Built

/-- A job under a timeout is a clean prefix of the job without one. If it is cut, it invokes the steps before
the cut and shows exactly the variables that these leave when nobody cancels them, with the cancellation at
the cut. If not, it invokes the same steps as the job that nobody cancels and shows the same at its end, the
refusal of a step included. With more time it is cut no earlier. -/
theorem timeout_runs_first_steps {job : Job} {flag : FlagId} {pipeline : Pipeline} {token : TokenId}
    {s : Session} (built : job.build flag = .ok pipeline) (ready : s.Ready token flag) (delay : Nat) :
    (∀ k, job.cutoff? flag token s delay = some k →
      (∀ j, ((job.within delay).run pipeline token s).Starts j ↔ j < k) ∧
      ∃ kept, (job.upTo k).seen flag token s = .ok kept ∧ kept.error = none ∧
        (job.within delay).seen flag token s =
          .ok ⟨kept.store, some (.cancelled k), (InvocationError.cancelled k).message⟩) ∧
    (job.cutoff? flag token s delay = none →
      (∀ j, ((job.within delay).run pipeline token s).Starts j ↔
        (job.uncancelled.run pipeline token s).Starts j) ∧
      (job.within delay).seen flag token s = job.uncancelled.seen flag token s) ∧
    ∀ later ≥ delay, ∀ k, job.cutoff? flag token s later = some k →
      ∃ j ≤ k, job.cutoff? flag token s delay = some j := by
  refine ⟨fun k cut => ⟨starts_within_of_cut built ready cut, ?_⟩,
    fun uncut => ⟨starts_within_of_uncut built ready uncut, seen_within_of_uncut built ready uncut⟩,
    fun later more k cut => cutoff?_mono built ready more cut⟩
  obtain ⟨-, going, -, -⟩ := (cutoff?_eq_some_iff built ready).mp cut
  refine ⟨_, seen_upTo built ready k, ?_, seen_within_of_cut built ready cut⟩
  simp [State.snapshot, going]

/-- Fetches a page and tries to publish it. -/
def publishFetched : Job :=
  ⟨["echo", "fetch", "publish", "fetch"], ⟨4⟩, .default, .never, ⟨"page", true⟩⟩

/-- A timer that fires during the first fetch cancels the job before `publish` could be refused; one that
would fire during the second comes too late. -/
theorem timeout_runs_first_steps_publishFetched :
    ∃ pipeline, publishFetched.build 0 = .ok pipeline ∧
      publishFetched.cutoff? 0 0 Session.empty 5 = some 2 ∧
      publishFetched.cutoff? 0 0 Session.empty 15 = none ∧
      (∃ kept, (publishFetched.upTo 2).seen 0 0 Session.empty = .ok kept ∧
        kept.store.slots = [⟨"input", ⟨"fetched: page", false⟩⟩, ⟨"echo", ⟨"page", true⟩⟩] ∧
        (publishFetched.within 5).seen 0 0 Session.empty =
          .ok ⟨kept.store, some (.cancelled 2), "pipeline cancelled before step 2"⟩) ∧
      (publishFetched.within 15).seen 0 0 Session.empty =
        publishFetched.uncancelled.seen 0 0 Session.empty := by
  have built : publishFetched.build 0 =
      .ok ⟨functions .default 0 [.echo, .fetch, .publish, .fetch], 4⟩ := rfl
  have cut : publishFetched.cutoff? 0 0 Session.empty 5 = some 2 := by decide +kernel
  have uncut : publishFetched.cutoff? 0 0 Session.empty 15 = none := by decide +kernel
  obtain ⟨kept, shown, -, cancelled⟩ :=
    ((timeout_runs_first_steps built (Session.ready_empty 0 0) 5).1 2 cut).2
  have slots : (((publishFetched.upTo 2).seen 0 0 Session.empty).toOption.map (·.store.slots)) =
      some [⟨"input", ⟨"fetched: page", false⟩⟩, ⟨"echo", ⟨"page", true⟩⟩] := by decide +kernel
  rw [shown] at slots
  refine ⟨_, built, cut, uncut, ⟨kept, shown, Option.some.inj slots, cancelled⟩, ?_⟩
  exact ((timeout_runs_first_steps built (Session.ready_empty 0 0) 15).2.1 uncut).2

end Job

end TaintTracking.Builtin
