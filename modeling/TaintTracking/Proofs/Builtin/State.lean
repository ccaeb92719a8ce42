import TaintTracking.Builtin
import TaintTracking.Context
import TaintTracking.Proofs.Store.Trust

/-!
The built-in functions as steps on a small state: a text, one trust bit for all variables together, what
`echo` kept, and whether a function was refused. Main statements: the echo is trusted whenever the
bit is set, so the bit alone says whether every variable is trusted; and a refusal ends a run.
-/

namespace TaintTracking

namespace Builtin

/-- The text that the function leaves in the main variable. -/
def rewrite : Builtin → String → String
  | .upper, text => Text.uppercase text
  | .lower, text => Text.lowercase text
  | .trim, text => Text.trim text
  | .fetch, text => "fetched: " ++ text
  | .echo, text => text
  | .publish, text => text
  | .reset, _ => ""

/-- In milliseconds. -/
def duration : Builtin → Nat
  | .fetch => fetchLatency
  | _ => 0

/-! The flags under a configuration, after its overrides. -/

def isSensitive (trust : TrustConfig) (builtin : Builtin) : Bool :=
  (trust.applyOverrides builtin.descriptor).isSensitive

def forcesUntrusted (trust : TrustConfig) (builtin : Builtin) : Bool :=
  (trust.applyOverrides builtin.descriptor).forceOutputUntrusted

structure State where
  content : String
  trusted : Bool
  echo : Option TaintedValue
  refusal : Option TrustError
  deriving DecidableEq

namespace State

def ofInput (input : TaintedValue) : State := ⟨input.content, input.trusted, none, none⟩

/-- A sensitive function is refused where the bit is not set. -/
def blocks (trust : TrustConfig) (state : State) (builtin : Builtin) : Bool :=
  builtin.isSensitive trust && !state.trusted

/-- What a function makes of the state when it is not refused. `reset` forgets everything. Any other one
clears the bit unless outputs are trusted by default and its own is not forced to be untrusted; `echo`
copies the text and the bit as it found them. -/
def after (trust : TrustConfig) (state : State) (builtin : Builtin) : State :=
  if builtin = .reset then ⟨"", true, none, none⟩
  else
    { content := builtin.rewrite state.content
      trusted := state.trusted && trust.defaultTrusted && !builtin.forcesUntrusted trust
      echo := if builtin = .echo then some ⟨state.content, state.trusted⟩ else state.echo
      refusal := none }

/-- After a refusal nothing happens any more. -/
def step (trust : TrustConfig) (state : State) (builtin : Builtin) : State :=
  if state.refusal.isSome then state
  else if state.blocks trust builtin then
    { state with refusal := some (.sensitiveOnUntrusted skill builtin.name) }
  else state.after trust builtin

def run (trust : TrustConfig) (state : State) (builtins : List Builtin) : State :=
  builtins.foldl (step trust) state

/-- The variables that the state stands for. -/
def store (state : State) : Store where
  main := ⟨state.content, state.trusted⟩
  others :=
    match state.echo with
    | none => ∅
    | some value => (∅ : Std.ExtTreeMap String Slot).insert echoName ⟨echoName, value⟩

/-- What is seen of a context that holds the state. -/
def snapshot (state : State) : Snapshot where
  store := state.store
  error := state.refusal.map .untrusted
  description := (state.refusal.map TrustError.message).getD ""

section Steps
variable {trust : TrustConfig} {state : State} {builtin : Builtin}

theorem step_of_blocked (going : state.refusal = none) (blocked : state.blocks trust builtin = true) :
    state.step trust builtin =
      { state with refusal := some (.sensitiveOnUntrusted skill builtin.name) } := by
  simp [step, going, blocked]

theorem step_of_allowed (going : state.refusal = none) (allowed : state.blocks trust builtin = false) :
    state.step trust builtin = state.after trust builtin := by
  simp [step, going, allowed]

theorem step_of_refused (refused : state.refusal ≠ none) : state.step trust builtin = state := by
  rw [step, if_pos (Option.isSome_iff_ne_none.mpr refused)]

theorem after_of_ne (kept : builtin ≠ .reset) : state.after trust builtin =
    { content := builtin.rewrite state.content
      trusted := state.trusted && trust.defaultTrusted && !builtin.forcesUntrusted trust
      echo := if builtin = .echo then some ⟨state.content, state.trusted⟩ else state.echo
      refusal := none } := by
  rw [after, if_neg kept]

@[simp] theorem after_refusal : (state.after trust builtin).refusal = none := by
  unfold after
  split <;> rfl

/-- A run goes on after a function that was not refused, and after no other. -/
theorem step_refusal_eq_none_iff : (state.step trust builtin).refusal = none ↔
    state.refusal = none ∧ state.blocks trust builtin = false := by
  by_cases going : state.refusal = none
  · cases blocked : state.blocks trust builtin with
    | true => simp [step_of_blocked going blocked]
    | false => simp [step_of_allowed going blocked, going]
  · simp [step_of_refused going, going]

end Steps

section Runs
variable (trust : TrustConfig) (state : State)

theorem run_cons (builtin : Builtin) (builtins : List Builtin) :
    state.run trust (builtin :: builtins) = (state.step trust builtin).run trust builtins := rfl

theorem run_append (builtins later : List Builtin) :
    state.run trust (builtins ++ later) = (state.run trust builtins).run trust later :=
  List.foldl_append

/-- A run over one function more. -/
theorem run_take_succ {builtins : List Builtin} {k : Nat} (inside : k < builtins.length) :
    state.run trust (builtins.take (k + 1)) =
      (state.run trust (builtins.take k)).step trust builtins[k] := by
  rw [List.take_succ_eq_append_getElem inside, run_append]
  rfl

variable {trust state}

theorem run_of_refused (refused : state.refusal ≠ none) (builtins : List Builtin) :
    state.run trust builtins = state := by
  induction builtins with
  | nil => rfl
  | cons builtin builtins ih => rw [run_cons, step_of_refused refused, ih]

theorem going_of_run {builtins : List Builtin} (going : (state.run trust builtins).refusal = none) :
    state.refusal = none := by
  by_cases before : state.refusal = none
  · exact before
  · rwa [run_of_refused before] at going

/-- A longer run goes on where a shorter one ends. -/
theorem run_take_of_le {builtins : List Builtin} {j k : Nat} (earlier : j ≤ k) :
    state.run trust (builtins.take k) =
      (state.run trust (builtins.take j)).run trust ((builtins.take k).drop j) := by
  have split : builtins.take k = builtins.take j ++ (builtins.take k).drop j := by
    rw [← Nat.min_eq_left earlier, ← List.take_take, Nat.min_eq_left earlier, List.take_append_drop]
  rw [← run_append, ← split]

theorem run_take_of_refused {builtins : List Builtin} {j k : Nat} (earlier : j ≤ k)
    (refused : (state.run trust (builtins.take j)).refusal ≠ none) :
    state.run trust (builtins.take k) = state.run trust (builtins.take j) := by
  rw [run_take_of_le earlier, run_of_refused refused]

theorem going_take {builtins : List Builtin} {j k : Nat}
    (going : (state.run trust (builtins.take k)).refusal = none) (earlier : j ≤ k) :
    (state.run trust (builtins.take j)).refusal = none := by
  rw [run_take_of_le earlier] at going
  exact going_of_run going

end Runs

/-! One bit for all variables. -/

/-- Where the bit is set, the echo is trusted. -/
def Coherent (state : State) : Prop :=
  state.trusted = true → ∀ value ∈ state.echo, value.trusted = true

theorem coherent_ofInput (input : TaintedValue) : (ofInput input).Coherent :=
  fun _ _ kept => nomatch kept

theorem Coherent.after {state : State} (coherent : state.Coherent) (trust : TrustConfig)
    (builtin : Builtin) : (state.after trust builtin).Coherent := by
  unfold State.after
  split
  next => exact fun _ _ kept => nomatch kept
  next =>
    intro trusted value kept
    have before : state.trusted = true := by
      simp only [Bool.and_eq_true] at trusted
      exact trusted.1.1
    dsimp only at kept
    split at kept
    next =>
      obtain rfl := Option.mem_some_iff.mp kept
      exact before
    next => exact coherent before value kept

theorem Coherent.step {state : State} (coherent : state.Coherent) (trust : TrustConfig)
    (builtin : Builtin) : (state.step trust builtin).Coherent := by
  unfold State.step
  split
  · exact coherent
  · split
    · exact coherent
    · exact coherent.after trust builtin

theorem Coherent.run {state : State} (coherent : state.Coherent) (trust : TrustConfig)
    (builtins : List Builtin) : (state.run trust builtins).Coherent := by
  induction builtins generalizing state with
  | nil => exact coherent
  | cons builtin builtins ih => exact ih (coherent.step trust builtin)

theorem slots_store (state : State) : state.store.slots =
    ⟨mainName, ⟨state.content, state.trusted⟩⟩ :: (state.echo.map (Slot.mk echoName)).toList := by
  cases echo : state.echo with
  | none => simp [store, Store.slots, echo]
  | some value =>
    simp only [store, Store.slots, echo]
    rfl

theorem map_slots_store {α : Type} (state : State) (f : Slot → α) :
    state.store.slots.map f = f ⟨mainName, ⟨state.content, state.trusted⟩⟩ ::
      (state.echo.map fun value => f ⟨echoName, value⟩).toList := by
  rw [slots_store, List.map_cons, ← Option.toList_map, Option.map_map]
  rfl

/-- All variables are trusted exactly if the bit is set. -/
theorem Coherent.isAllTrusted_store {state : State} (coherent : state.Coherent) :
    state.store.isAllTrusted = state.trusted := by
  rw [Store.isAllTrusted, slots_store, List.all_cons]
  cases trusted : state.trusted with
  | false => rfl
  | true =>
    rw [Bool.true_and, List.all_eq_true]
    intro slot member
    obtain ⟨value, kept, rfl⟩ := Option.map_eq_some_iff.mp (Option.mem_toList.mp member)
    exact coherent trusted value kept

end State

end Builtin

end TaintTracking
