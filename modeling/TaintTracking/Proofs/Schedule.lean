/-!
What several clients do to one thing, step by step in one order. A schedule is an interleaving of programs
if each client takes the steps of its own program, in their order.
-/

namespace TaintTracking

/-- Steps, each with the client that takes it. -/
abbrev Schedule (Client Step : Type) := List (Client × Step)

namespace Schedule
variable {Client Step : Type}

def steps (schedule : Schedule Client Step) : List Step := schedule.map (·.2)

variable [DecidableEq Client]

/-- What one client does. -/
def stepsOf (schedule : Schedule Client Step) (client : Client) : List Step :=
  (schedule.filter fun turn => turn.1 = client).map (·.2)

def Interleaves (schedule : Schedule Client Step) (programs : Client → List Step) : Prop :=
  ∀ client, schedule.stepsOf client = programs client

theorem stepsOf_cons_self (client : Client) (step : Step) (schedule : Schedule Client Step) :
    stepsOf ((client, step) :: schedule) client = step :: schedule.stepsOf client := by
  simp [stepsOf]

theorem stepsOf_cons_of_ne {client other : Client} (ne : other ≠ client) (step : Step)
    (schedule : Schedule Client Step) :
    stepsOf ((other, step) :: schedule) client = schedule.stepsOf client := by
  simp [stepsOf, ne]

theorem mem_stepsOf {schedule : Schedule Client Step} {client : Client} {step : Step} :
    step ∈ schedule.stepsOf client ↔ (client, step) ∈ schedule := by
  simp [stepsOf]

/-- The steps of an interleaving are those of the programs. -/
theorem Interleaves.mem_steps_iff {schedule : Schedule Client Step} {programs : Client → List Step}
    (interleaves : schedule.Interleaves programs) {step : Step} :
    step ∈ schedule.steps ↔ ∃ client, step ∈ programs client := by
  simp only [← interleaves _, mem_stepsOf, steps, List.mem_map, Prod.exists, exists_eq_right]

end Schedule

end TaintTracking
