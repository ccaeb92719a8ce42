import TaintTracking.Builtin
import TaintTracking.Pipeline.Basic

/-!
Pipelines of built-in functions that are looked up by their names. Main statements: looking up succeeds
exactly if every name is known, and what is found makes a pipeline exactly if it is not too long.
-/

namespace TaintTracking.Builtin

/-- The functions of a list, with force flags from `flag` on. -/
def functions (trust : TrustConfig) (flag : FlagId) (builtins : List Builtin) : List SkillFunction :=
  builtins.mapIdx fun index builtin => builtin.function trust (flag + index)

theorem ofName?_name (builtin : Builtin) : ofName? builtin.name = some builtin := by
  cases builtin <;> decide

theorem name_of_ofName? {name : String} {builtin : Builtin} (found : ofName? name = some builtin) :
    builtin.name = name := by
  simpa using List.find?_some found

theorem functions_cons (trust : TrustConfig) (flag : FlagId) (builtin : Builtin)
    (builtins : List Builtin) : functions trust flag (builtin :: builtins) =
      builtin.function trust flag :: functions trust (flag + 1) builtins := by
  simp [functions, List.mapIdx_cons, Nat.add_assoc, Nat.add_comm 1]

theorem lookupAll_names (trust : TrustConfig) (flag : FlagId) (builtins : List Builtin) :
    lookupAll trust flag (builtins.map name) = .ok (functions trust flag builtins) := by
  induction builtins generalizing flag with
  | nil => rfl
  | cons builtin builtins ih =>
    rw [List.map_cons, lookupAll, lookup, ofName?_name, functions_cons, ih]
    rfl

/-- The functions that have the names. -/
def named (names : List String) : List Builtin := names.filterMap ofName?

/-- Names that are all known are those of the functions that have them. -/
theorem map_name_named {names : List String} (known : ∀ name ∈ names, (ofName? name).isSome) :
    (named names).map name = names := by
  induction names with
  | nil => rfl
  | cons first names ih =>
    obtain ⟨knownFirst, knownRest⟩ := List.forall_mem_cons.mp known
    obtain ⟨builtin, found⟩ := Option.isSome_iff_exists.mp knownFirst
    rw [named, List.filterMap_cons_some found, List.map_cons, name_of_ofName? found, ← named,
      ih knownRest]

theorem isSome_lookup (name : String) (trust : TrustConfig) (flag : FlagId) :
    (lookup name trust flag).isSome = (ofName? name).isSome := Option.isSome_map

theorem known_of_lookupAll {trust : TrustConfig} {flag : FlagId} {names : List String}
    {steps : List SkillFunction} (found : lookupAll trust flag names = .ok steps) :
    ∀ name ∈ names, (ofName? name).isSome := by
  induction names generalizing flag steps with
  | nil => exact fun name member => absurd member List.not_mem_nil
  | cons first names ih =>
    rw [lookupAll] at found
    split at found
    next => cases found
    next function known =>
      cases rest : lookupAll trust (flag + 1) names with
      | error unknown =>
        rw [rest] at found
        cases found
      | ok others =>
        refine List.forall_mem_cons.mpr ⟨?_, ih rest⟩
        rw [← isSome_lookup first trust flag, known]
        rfl

theorem length_named {names : List String} (known : ∀ name ∈ names, (ofName? name).isSome) :
    (named names).length = names.length := by
  rw [← List.length_map name, map_name_named known]

/-- Looking up succeeds exactly if every name is known, and gives the functions that have the names. -/
theorem lookupAll_eq_ok_iff {trust : TrustConfig} {flag : FlagId} {names : List String}
    {steps : List SkillFunction} : lookupAll trust flag names = .ok steps ↔
      (∀ name ∈ names, (ofName? name).isSome) ∧ steps = functions trust flag (named names) := by
  have found (known : ∀ name ∈ names, (ofName? name).isSome) :
      lookupAll trust flag names = .ok (functions trust flag (named names)) := by
    rw [← lookupAll_names, map_name_named known]
  constructor
  · intro looked
    have known := known_of_lookupAll looked
    exact ⟨known, Except.ok.inj (looked.symm.trans (found known))⟩
  · intro ⟨known, same⟩
    rw [same, found known]

/-- Functions make a pipeline exactly if they are not too many. -/
theorem ofSteps_functions_eq_ok_iff {trust : TrustConfig} {flag : FlagId} {builtins : List Builtin}
    {limits : PipelineConfig} {pipeline : Pipeline} :
    Pipeline.ofSteps (functions trust flag builtins) limits = .ok pipeline ↔
      builtins.length ≤ limits.maxSteps ∧
        pipeline = ⟨functions trust flag builtins, limits.maxSteps⟩ := by
  rw [Pipeline.ofSteps, functions, List.length_mapIdx]
  split
  next many => simp [Nat.not_le.mpr many]
  next few => simp [Nat.not_lt.mp few, eq_comm]

end TaintTracking.Builtin
