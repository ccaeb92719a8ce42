import TaintTracking.Pipeline.Basic

/-!
The greatest number of steps. Main statement: a pipeline made from a list of steps is the one that is left when
they are pushed one after another, the same lists are refused, and no pipeline that can be made has more
steps than its limit.
-/

namespace TaintTracking.Pipeline

/-- Pushing as the holder of the pipeline sees it, who keeps what was there when the step is refused. -/
def pushInPlace (step : SkillFunction) : EStateM PipelineError Pipeline Unit := do
  let pipeline ← get
  match pipeline.push step with
  | .ok left => set left
  | .error error => throw error

/-- Pushes steps until one is refused. -/
def pushAll : List SkillFunction → EStateM PipelineError Pipeline Unit
  | [] => pure ()
  | step :: steps => do
    pushInPlace step
    pushAll steps

section Push
variable {pipeline : Pipeline}

theorem push_of_room (step : SkillFunction) (room : pipeline.size < pipeline.maxSteps) :
    pipeline.push step = .ok { pipeline with steps := pipeline.steps ++ [step] } :=
  if_neg (Nat.not_le.mpr room)

theorem push_of_full (step : SkillFunction) (full : pipeline.maxSteps ≤ pipeline.size) :
    pipeline.push step = .error (.tooManySteps (saturatingSucc pipeline.size) pipeline.maxSteps) :=
  if_pos full

theorem push_eq_ok_iff {step : SkillFunction} {left : Pipeline} :
    pipeline.push step = .ok left ↔
      pipeline.size < pipeline.maxSteps ∧ left = ⟨pipeline.steps ++ [step], pipeline.maxSteps⟩ := by
  rcases Nat.lt_or_ge pipeline.size pipeline.maxSteps with room | full
  · rw [push_of_room step room]
    simp [room, eq_comm]
  · rw [push_of_full step full]
    simp [Nat.not_lt.mpr full]

theorem push_eq_error_iff {step : SkillFunction} {error : PipelineError} :
    pipeline.push step = .error error ↔
      pipeline.maxSteps ≤ pipeline.size ∧
        error = .tooManySteps (saturatingSucc pipeline.size) pipeline.maxSteps := by
  rcases Nat.lt_or_ge pipeline.size pipeline.maxSteps with room | full
  · rw [push_of_room step room]
    simp [Nat.not_le.mpr room]
  · rw [push_of_full step full]
    simp [full, eq_comm]

/-- What a push gives is what is left in place, and a push that is refused leaves what was there. -/
theorem run_pushInPlace (pipeline : Pipeline) (step : SkillFunction) :
    (pushInPlace step).run pipeline =
      match pipeline.push step with
      | .ok left => .ok () left
      | .error error => .error error pipeline := by
  rw [pushInPlace, EStateM.run_bind, EStateM.run_get]
  dsimp only
  split <;> rfl

theorem pushInPlace_eq_ok_iff {step : SkillFunction} {left : Pipeline} :
    (pushInPlace step).run pipeline = .ok () left ↔ pipeline.push step = .ok left := by
  rw [run_pushInPlace]
  cases pipeline.push step <;> simp

theorem pushInPlace_eq_error_iff {step : SkillFunction} {error : PipelineError} {left : Pipeline} :
    (pushInPlace step).run pipeline = .error error left ↔
      pipeline.push step = .error error ∧ left = pipeline := by
  rw [run_pushInPlace]
  cases pipeline.push step <;> simp [eq_comm]

theorem run_pushAll_cons (pipeline : Pipeline) (step : SkillFunction) (steps : List SkillFunction) :
    (pushAll (step :: steps)).run pipeline =
      match (pushInPlace step).run pipeline with
      | .ok () left => (pushAll steps).run left
      | .error error left => .error error left := by
  rw [pushAll, EStateM.run_bind]
  cases (pushInPlace step).run pipeline <;> rfl

theorem run_pushAll_of_room {steps : List SkillFunction}
    (room : pipeline.size + steps.length ≤ pipeline.maxSteps) :
    (pushAll steps).run pipeline = .ok () { pipeline with steps := pipeline.steps ++ steps } := by
  induction steps generalizing pipeline with
  | nil => rw [List.append_nil]; rfl
  | cons step steps ih =>
    rw [List.length_cons] at room
    have later : ({ pipeline with steps := pipeline.steps ++ [step] } : Pipeline).size + steps.length ≤
        pipeline.maxSteps := by
      rw [size, List.length_append, List.length_singleton, ← size]
      omega
    rw [run_pushAll_cons, pushInPlace_eq_ok_iff.mpr (push_of_room step (by omega))]
    dsimp only
    rw [ih later, List.append_assoc, List.singleton_append]

/-- The steps that there is room for are pushed, the first one after them is refused. -/
theorem run_pushAll_of_excess {steps : List SkillFunction} (within : pipeline.size ≤ pipeline.maxSteps)
    (excess : pipeline.maxSteps < pipeline.size + steps.length) :
    (pushAll steps).run pipeline =
      .error (.tooManySteps (saturatingSucc pipeline.maxSteps) pipeline.maxSteps)
        { pipeline with steps := pipeline.steps ++ steps.take (pipeline.maxSteps - pipeline.size) } := by
  induction steps generalizing pipeline with
  | nil => exact absurd within (Nat.not_le.mpr excess)
  | cons step steps ih =>
    rw [run_pushAll_cons]
    rcases Nat.lt_or_ge pipeline.size pipeline.maxSteps with room | full
    · have grown : ({ pipeline with steps := pipeline.steps ++ [step] } : Pipeline).size =
          pipeline.size + 1 := List.length_append
      rw [pushInPlace_eq_ok_iff.mpr (push_of_room step room)]
      dsimp only
      rw [List.length_cons] at excess
      rw [ih (grown ▸ room) (by rw [grown]; dsimp only; omega), grown, List.append_assoc,
        List.singleton_append, ← List.take_succ_cons, ← Nat.sub_sub,
        Nat.sub_add_cancel (Nat.sub_pos_of_lt room)]
    · obtain same : pipeline.size = pipeline.maxSteps := Nat.le_antisymm within full
      rw [pushInPlace_eq_error_iff.mpr ⟨push_of_full step full, rfl⟩, same, Nat.sub_self,
        List.take_zero, List.append_nil]

end Push

section OfSteps
variable {config : PipelineConfig} {steps : List SkillFunction}

theorem ofSteps_eq_ok_iff {pipeline : Pipeline} :
    ofSteps steps config = .ok pipeline ↔
      steps.length ≤ config.maxSteps ∧ pipeline = ⟨steps, config.maxSteps⟩ := by
  rw [ofSteps]
  split
  next excess => simp [Nat.not_le.mpr excess]
  next room => simp [Nat.not_lt.mp room, eq_comm]

theorem ofSteps_eq_error_iff {error : PipelineError} :
    ofSteps steps config = .error error ↔
      config.maxSteps < steps.length ∧ error = .tooManySteps steps.length config.maxSteps := by
  rw [ofSteps]
  split
  next excess => simp [excess, eq_comm]
  next room => simp [room]

/-- A list of steps makes the pipeline that pushing them makes. -/
theorem ofSteps_eq_ok_iff_pushAll {pipeline : Pipeline} :
    ofSteps steps config = .ok pipeline ↔ (pushAll steps).run (new config) = .ok () pipeline := by
  rw [ofSteps_eq_ok_iff]
  have empty : (new config).size + steps.length = steps.length := Nat.zero_add _
  rcases Nat.lt_or_ge config.maxSteps steps.length with excess | room
  · rw [run_pushAll_of_excess (Nat.zero_le _) (empty.symm ▸ excess)]
    simp [Nat.not_le.mpr excess]
  · rw [run_pushAll_of_room (empty.symm ▸ room)]
    simp [new, room, eq_comm]

end OfSteps

/-- A list in memory takes no more bytes than this, so it has no more entries. -/
def greatestLength : Nat := 0x7FFFFFFFFFFFFFFF

/-- The pipelines that can be made. A copy of a pipeline is that pipeline. -/
inductive Reachable : Pipeline → Prop
  | new (config : PipelineConfig) : Reachable (new config)
  | ofSteps {steps : List SkillFunction} {config : PipelineConfig} {pipeline : Pipeline}
      (held : steps.length ≤ greatestLength) (made : ofSteps steps config = .ok pipeline) :
      Reachable pipeline
  | accepted {pipeline left : Pipeline} {step : SkillFunction} (reachable : Reachable pipeline)
      (pushed : pipeline.push step = .ok left) (held : left.size ≤ greatestLength) :
      Reachable left
  | refused {pipeline left : Pipeline} {step : SkillFunction} {error : PipelineError}
      (reachable : Reachable pipeline) (refusal : (pushInPlace step).run pipeline = .error error left) :
      Reachable left

namespace Reachable
variable {pipeline : Pipeline}

theorem size_le (reachable : Reachable pipeline) : pipeline.size ≤ pipeline.maxSteps := by
  induction reachable with
  | new config => exact Nat.zero_le _
  | ofSteps held made =>
    obtain ⟨room, rfl⟩ := ofSteps_eq_ok_iff.mp made
    exact room
  | accepted reachable pushed held ih =>
    obtain ⟨room, rfl⟩ := push_eq_ok_iff.mp pushed
    exact Nat.le_trans (Nat.le_of_eq List.length_append) room
  | refused reachable refusal ih =>
    obtain ⟨-, rfl⟩ := pushInPlace_eq_error_iff.mp refusal
    exact ih

theorem held (reachable : Reachable pipeline) : pipeline.size ≤ greatestLength := by
  induction reachable with
  | new config => exact Nat.zero_le _
  | ofSteps held made =>
    obtain ⟨-, rfl⟩ := ofSteps_eq_ok_iff.mp made
    exact held
  | accepted reachable pushed held ih => exact held
  | refused reachable refusal ih =>
    obtain ⟨-, rfl⟩ := pushInPlace_eq_error_iff.mp refusal
    exact ih

/-- There is a greater count than that of the steps, so adding one to it gives the next one. -/
theorem saturatingSucc_size (reachable : Reachable pipeline) :
    saturatingSucc pipeline.size = pipeline.size + 1 :=
  Nat.min_eq_left (Nat.le_trans (Nat.succ_le_succ reachable.held) (by decide))

/-- A step is refused exactly at the limit, and the count that is told of is one more than that. -/
theorem push_eq_error_iff (reachable : Reachable pipeline) {step : SkillFunction}
    {error : PipelineError} :
    pipeline.push step = .error error ↔
      pipeline.size = pipeline.maxSteps ∧
        error = .tooManySteps (pipeline.maxSteps + 1) pipeline.maxSteps := by
  rw [Pipeline.push_eq_error_iff, reachable.saturatingSucc_size]
  constructor
  · rintro ⟨full, told⟩
    have same : pipeline.size = pipeline.maxSteps := Nat.le_antisymm reachable.size_le full
    exact ⟨same, same ▸ told⟩
  · rintro ⟨same, told⟩
    exact ⟨Nat.le_of_eq same.symm, same ▸ told⟩

end Reachable

/-- A list of steps makes a pipeline exactly if there are at most as many as the limit says, and it is the
pipeline that pushing them one after another makes; otherwise the error tells how many there were. No
pipeline that can be made has more steps than its limit, whatever was pushed and refused on the way. A
push is refused exactly at the limit, tells of one step more than that, which is no greater than counts
go, and leaves the pipeline as it was. -/
theorem limit_kept (config : PipelineConfig) :
    (∀ steps pipeline, ofSteps steps config = .ok pipeline ↔
      (pushAll steps).run (new config) = .ok () pipeline) ∧
    (∀ steps pipeline, ofSteps steps config = .ok pipeline ↔
      steps.length ≤ config.maxSteps ∧ pipeline = ⟨steps, config.maxSteps⟩) ∧
    (∀ steps error, ofSteps steps config = .error error ↔
      config.maxSteps < steps.length ∧ error = .tooManySteps steps.length config.maxSteps) ∧
    ∀ pipeline, Reachable pipeline →
      pipeline.size ≤ pipeline.maxSteps ∧
      saturatingSucc pipeline.size = pipeline.size + 1 ∧
      (∀ step left, pipeline.push step = .ok left ↔
        pipeline.size < pipeline.maxSteps ∧ left = ⟨pipeline.steps ++ [step], pipeline.maxSteps⟩) ∧
      (∀ step error, pipeline.push step = .error error ↔
        pipeline.size = pipeline.maxSteps ∧
          error = .tooManySteps (pipeline.maxSteps + 1) pipeline.maxSteps) ∧
      (∀ step left, (pushInPlace step).run pipeline = .ok () left ↔
        pipeline.size < pipeline.maxSteps ∧ left = ⟨pipeline.steps ++ [step], pipeline.maxSteps⟩) ∧
      ∀ step error left, (pushInPlace step).run pipeline = .error error left ↔
        pipeline.size = pipeline.maxSteps ∧ left = pipeline ∧
          error = .tooManySteps (pipeline.maxSteps + 1) pipeline.maxSteps := by
  refine ⟨fun steps pipeline => ofSteps_eq_ok_iff_pushAll, fun steps pipeline => ofSteps_eq_ok_iff,
    fun steps error => ofSteps_eq_error_iff, fun pipeline reachable => ⟨reachable.size_le,
      reachable.saturatingSucc_size, fun step left => push_eq_ok_iff,
      fun step error => reachable.push_eq_error_iff, fun step left => ?_, fun step error left => ?_⟩⟩
  · rw [pushInPlace_eq_ok_iff, push_eq_ok_iff]
  · rw [pushInPlace_eq_error_iff, reachable.push_eq_error_iff, and_assoc,
      and_comm (a := left = pipeline)]

def idle : SkillFunction :=
  .native ⟨.new "test" "idle", 0, .default⟩ ⟨.nothing, .nothing, false⟩ fun _ => .done ()

def onlyIdle : Pipeline := ⟨[idle], 1⟩

/-- There is room for one step. The second one is refused, and the first one stays. -/
theorem limit_kept_onlyIdle :
    Reachable onlyIdle ∧ (pushAll [idle]).run (new ⟨1⟩) = .ok () onlyIdle ∧
      onlyIdle.size ≤ onlyIdle.maxSteps ∧
      onlyIdle.push idle = .error (.tooManySteps 2 1) ∧
      (pushInPlace idle).run onlyIdle = .error (.tooManySteps 2 1) onlyIdle := by
  obtain ⟨agree, made, -, reached⟩ := limit_kept ⟨1⟩
  have one : ofSteps [idle] ⟨1⟩ = .ok onlyIdle := (made _ _).mpr ⟨Nat.le_refl _, rfl⟩
  have reachable : Reachable onlyIdle := .ofSteps (by decide) one
  obtain ⟨within, -, -, refused, -, kept⟩ := reached onlyIdle reachable
  exact ⟨reachable, (agree _ _).mp one, within, (refused _ _).mpr ⟨rfl, rfl⟩,
    (kept _ _ _).mpr ⟨rfl, rfl, rfl⟩⟩

end TaintTracking.Pipeline
