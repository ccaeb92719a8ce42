import TaintTracking.Proofs.Schedule
import TaintTracking.Proofs.Store.LastWriter

/-!
Clients that work on different keys of one store. Main statement: in every order in which they get their
turns, each of them learns what it would learn alone, and the same store is left.
-/

namespace TaintTracking.Store

/-- An operation on what stands under one key. -/
inductive Access where
  | write (change : Edit) (key : String) (about : change.key? = some key)
  | get (name : String)
  | get? (name : String)
  | contains (name : String)

/-- What a client learns from an operation. -/
inductive Answer where
  | done
  | value (value : TaintedValue)
  | held (value : Option TaintedValue)
  | presence (present : Bool)
  deriving DecidableEq

namespace Access

def key : Access → String
  | .write _ key _ => key
  | .get name => normalize name
  | .get? name => normalize name
  | .contains name => normalize name

/-- Removing gives what was removed. -/
def answer (store : Store) : Access → Answer
  | .write (.remove name) _ _ => .held (store.get? name)
  | .write _ _ _ => .done
  | .get name => .value (store.get name)
  | .get? name => .held (store.get? name)
  | .contains name => .presence (store.contains name)

end Access

def access (store : Store) : Access → Store
  | .write change _ _ => store.edit change
  | .get _ => store
  | .get? _ => store
  | .contains _ => store

def accessAll (store : Store) (program : List Access) : Store := program.foldl access store

/-- What is learned from a program that runs alone. -/
def answers (store : Store) : List Access → List Answer
  | [] => []
  | first :: rest => first.answer store :: (store.access first).answers rest

/-- What the clients learn, each answer with the client that gets it. -/
def answersTo {Client : Type} (store : Store) : Schedule Client Access → Schedule Client Answer
  | [] => []
  | (client, first) :: rest => (client, first.answer store) :: (store.access first).answersTo rest

section Step
variable {left right : Store}

/-- What an edit leaves under a key depends on what was there only. -/
theorem slot?_edit_congr (change : Edit) {key : String} (same : left.slot? key = right.slot? key) :
    (left.edit change).slot? key = (right.edit change).slot? key := by
  refine Slot.ext_option ?_ ?_
  · by_cases main : key = mainName
    · rw [main, slot?_mainName, slot?_mainName]
      rfl
    · rw [left.name_edit change main, right.name_edit change main, same]
  · rw [left.value_edit, right.value_edit, same]

theorem slot?_access_congr (step : Access) {key : String} (same : left.slot? key = right.slot? key) :
    (left.access step).slot? key = (right.access step).slot? key := by
  cases step with
  | write change own about => exact slot?_edit_congr change same
  | _ => exact same

theorem slot?_access_of_ne (store : Store) {step : Access} {key : String} (ne : key ≠ step.key) :
    (store.access step).slot? key = store.slot? key := by
  cases step with
  | write change own about => exact store.slot?_edit_of_ne about ne
  | _ => rfl

theorem answer_congr (step : Access) (same : left.slot? step.key = right.slot? step.key) :
    step.answer left = step.answer right := by
  cases step with
  | write change key about =>
    cases change with
    | remove name =>
      obtain rfl := Option.some.inj about
      exact congrArg (fun held => Answer.held (held.map Slot.value)) same
    | _ => rfl
  | get name => exact congrArg (fun held => Answer.value ((held.map Slot.value).getD .empty)) same
  | get? name => exact congrArg (fun held => Answer.held (held.map Slot.value)) same
  | contains name => exact congrArg (fun held => Answer.presence held.isSome) same

theorem keyed_access {store : Store} (keyed : Keyed store.others) (step : Access) :
    Keyed (store.access step).others := by
  cases step with
  | write change key about =>
    refine keyed_edit keyed change fun incoming discard merges => ?_
    subst merges
    cases about
  | _ => exact keyed

end Step

/-- The same stands under all these keys. -/
def AgreeOn (keys : String → Prop) (left right : Store) : Prop :=
  ∀ key, keys key → left.slot? key = right.slot? key

namespace AgreeOn
variable {keys : String → Prop} {left right : Store}

theorem access (agree : AgreeOn keys left right) (step : Access) :
    AgreeOn keys (left.access step) (right.access step) :=
  fun key inside => slot?_access_congr step (agree key inside)

theorem access_left (agree : AgreeOn keys left right) {step : Access} (outside : ¬keys step.key) :
    AgreeOn keys (left.access step) right := by
  intro key inside
  rw [left.slot?_access_of_ne fun (same : key = step.key) => outside (same ▸ inside)]
  exact agree key inside

end AgreeOn

theorem slot?_accessAll_of_ne {store : Store} {program : List Access} {key : String}
    (elsewhere : ∀ step ∈ program, step.key ≠ key) :
    (store.accessAll program).slot? key = store.slot? key := by
  induction program generalizing store with
  | nil => rfl
  | cons step program ih =>
    obtain ⟨here, rest⟩ := List.forall_mem_cons.mp elsewhere
    exact (ih rest).trans (store.slot?_access_of_ne here.symm)

theorem keyed_accessAll {store : Store} (keyed : Keyed store.others) (program : List Access) :
    Keyed (store.accessAll program).others := by
  induction program generalizing store with
  | nil => exact keyed
  | cons step program ih => exact ih (keyed_access keyed step)

section Clients
variable {Client : Type} [DecidableEq Client]

/-- A client whose keys nobody else uses learns what it would learn alone, and leaves there what it would
leave alone. -/
theorem answersTo_stepsOf {client : Client} {keys : String → Prop} {schedule : Schedule Client Access}
    {store own : Store} (agree : AgreeOn keys store own)
    (mine : ∀ step ∈ schedule.stepsOf client, keys step.key)
    (foreign : ∀ turn ∈ schedule, turn.1 ≠ client → ¬keys turn.2.key) :
    (store.answersTo schedule).stepsOf client = own.answers (schedule.stepsOf client) ∧
      AgreeOn keys (store.accessAll schedule.steps) (own.accessAll (schedule.stepsOf client)) := by
  induction schedule generalizing store own with
  | nil => exact ⟨rfl, agree⟩
  | cons turn schedule ih =>
    obtain ⟨other, step⟩ := turn
    obtain ⟨foreignHere, foreignLater⟩ := List.forall_mem_cons.mp foreign
    by_cases own : other = client
    · subst own
      rw [Schedule.stepsOf_cons_self] at mine ⊢
      obtain ⟨mineHere, mineLater⟩ := List.forall_mem_cons.mp mine
      obtain ⟨answers, left⟩ := ih (agree.access step) mineLater foreignLater
      refine ⟨?_, left⟩
      rw [answersTo, Schedule.stepsOf_cons_self, answers, answer_congr step (agree _ mineHere)]
      rfl
    · -- A turn of another client is about other keys, so the client alone need not take it.
      rw [Schedule.stepsOf_cons_of_ne own] at mine ⊢
      obtain ⟨answers, left⟩ := ih (agree.access_left (foreignHere own)) mine foreignLater
      refine ⟨?_, left⟩
      rw [answersTo, Schedule.stepsOf_cons_of_ne own, answers]

/-- No two clients use a key in common. -/
def Independent (programs : Client → List Access) : Prop :=
  ∀ client other, client ≠ other →
    ∀ step ∈ programs client, ∀ foreign ∈ programs other, step.key ≠ foreign.key

variable {programs : Client → List Access} {schedule : Schedule Client Access}

theorem Independent.alone (independent : Independent programs) (turns : schedule.Interleaves programs)
    (store : Store) (client : Client) :
    (store.answersTo schedule).stepsOf client = store.answers (programs client) ∧
      AgreeOn (fun key => ∃ step ∈ programs client, step.key = key) (store.accessAll schedule.steps)
        (store.accessAll (programs client)) := by
  rw [← turns client]
  refine answersTo_stepsOf (fun _ _ => rfl) (fun step member => ⟨step, member, rfl⟩) ?_
  rintro ⟨other, foreign⟩ member ne ⟨step, mine, same⟩
  rw [turns client] at mine
  rw [← Schedule.mem_stepsOf, turns other] at member
  exact independent client other (Ne.symm ne) step mine foreign member same

end Clients

/-- Clients of a store, however many, whose programs have no key in common do not notice each other. In
every order of their turns each of them learns what it learns alone, and the store that is left is the
same, with its contents, names and size, and with its trust as a whole. -/
theorem independent_clients {store : Store} (reachable : Reachable store) {Client : Type}
    [DecidableEq Client] {programs : Client → List Access} (independent : Independent programs)
    {one other : Schedule Client Access} (oneTurns : one.Interleaves programs)
    (otherTurns : other.Interleaves programs) :
    (∀ client, (store.answersTo one).stepsOf client = store.answers (programs client)) ∧
    (∀ client, (store.answersTo one).stepsOf client = (store.answersTo other).stepsOf client) ∧
    store.accessAll one.steps = store.accessAll other.steps ∧
    (store.accessAll one.steps).slots = (store.accessAll other.steps).slots ∧
    (store.accessAll one.steps).size = (store.accessAll other.steps).size ∧
    (store.accessAll one.steps).isAllTrusted = (store.accessAll other.steps).isAllTrusted := by
  have same : store.accessAll one.steps = store.accessAll other.steps := by
    refine ext_slot? (keyed_accessAll reachable.keyed _) (keyed_accessAll reachable.keyed _) fun key => ?_
    -- A key belongs to one client, who leaves there what it would leave alone, or to none.
    by_cases used : ∃ client, ∃ step ∈ programs client, step.key = key
    · obtain ⟨client, mine⟩ := used
      have left := (independent.alone oneTurns store client).2 key mine
      exact left.trans ((independent.alone otherTurns store client).2 key mine).symm
    · have unused {schedule : Schedule Client Access} (turns : schedule.Interleaves programs) :
          ∀ step ∈ schedule.steps, step.key ≠ key := by
        intro step member here
        obtain ⟨client, mine⟩ := turns.mem_steps_iff.mp member
        exact used ⟨client, step, mine, here⟩
      rw [slot?_accessAll_of_ne (unused oneTurns), slot?_accessAll_of_ne (unused otherTurns)]
  have alone (client : Client) := (independent.alone oneTurns store client).1
  refine ⟨alone, fun client => ?_, same, congrArg slots same, congrArg size same,
    congrArg isAllTrusted same⟩
  rw [alone, (independent.alone otherTurns store client).1]

def cityRemoval : Access := .write (.remove "CITY") (normalize "CITY") rfl

def cityWrite (name content : String) : Access := .write (.insert name content) (normalize name) rfl

def mainTaint : Access := .write .untrustMain mainName rfl

/-- One client writes a city, removes it and writes it in another casing; the other is about the main
variable and a road that is not there. -/
def travellers : Bool → List Access
  | true => [cityWrite "City" "Lisbon", cityRemoval, cityWrite "cITY" "Porto"]
  | false => [mainTaint, .get "Input", .contains "Road"]

def alternating : Schedule Bool Access :=
  [(true, cityWrite "City" "Lisbon"), (false, mainTaint), (true, cityRemoval), (false, .get "Input"),
    (true, cityWrite "cITY" "Porto"), (false, .contains "Road")]

def mainFirst : Schedule Bool Access :=
  (travellers false).map (false, ·) ++ (travellers true).map (true, ·)

/-- The removal gives what was removed, and the city is listed in the later casing, in both orders. -/
theorem independent_clients_travellers :
    Reachable new ∧ Independent travellers ∧ alternating.Interleaves travellers ∧
      mainFirst.Interleaves travellers ∧
      (new.answersTo alternating).stepsOf true = [.done, .held (some ⟨"Lisbon", true⟩), .done] ∧
      (new.answersTo mainFirst).stepsOf false = [.done, .value ⟨"", false⟩, .presence false] ∧
      new.accessAll alternating.steps = new.accessAll mainFirst.steps ∧
      (new.accessAll mainFirst.steps).slots = [⟨"input", ⟨"", false⟩⟩, ⟨"cITY", ⟨"Porto", true⟩⟩] := by
  have independent : Independent travellers := by
    unfold Independent
    decide +kernel
  have oneTurns : alternating.Interleaves travellers := by
    intro client
    cases client <;> rfl
  have otherTurns : mainFirst.Interleaves travellers := by
    intro client
    cases client <;> rfl
  obtain ⟨alone, same, left, -⟩ := independent_clients .new independent oneTurns otherTurns
  refine ⟨.new, independent, oneTurns, otherTurns, ?_, ?_, left, by decide +kernel⟩
  · rw [alone true]
    decide +kernel
  · rw [← same false, alone false]
    decide +kernel

end TaintTracking.Store
