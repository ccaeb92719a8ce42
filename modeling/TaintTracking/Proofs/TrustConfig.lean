import TaintTracking.TrustConfig

/-!
What overrides do to a function, and what they leave alone. Main statement: each of the two flags is the one
that the last rule to set it for the function gives, independently of the other flag.
-/

namespace TaintTracking

namespace FunctionOverride
variable (rule : FunctionOverride) (descriptor : Descriptor)

theorem apply_names :
    (rule.apply descriptor).skill = descriptor.skill ∧
      (rule.apply descriptor).function = descriptor.function := by
  unfold apply
  split <;> exact ⟨rfl, rfl⟩

theorem applies_iff :
    rule.applies descriptor = true ↔
      normalize rule.skill = normalize descriptor.skill ∧
        normalize rule.function = normalize descriptor.function := by
  rw [applies, Bool.and_eq_true, beq_iff_eq, beq_iff_eq]

/-- Rules look at nothing but the names. -/
theorem applies_congr {other : Descriptor} (skill : other.skill = descriptor.skill)
    (function : other.function = descriptor.function) :
    rule.applies other = rule.applies descriptor := by
  rw [applies, applies, skill, function]

end FunctionOverride

namespace TrustConfig

/-- The value of a flag is that of the last rule that applies to the function and sets the flag, or the
original one if there is no such rule. -/
inductive Resolves (rules : List FunctionOverride) (flag : FunctionOverride → Option Bool)
    (descriptor : Descriptor) (original : Bool) : Bool → Prop
  | last {earlier later : List FunctionOverride} {rule : FunctionOverride} {value : Bool}
      (split : rules = earlier ++ rule :: later) (applies : rule.applies descriptor = true)
      (sets : flag rule = some value)
      (silent : ∀ other ∈ later, other.applies descriptor = true → flag other = none) :
      Resolves rules flag descriptor original value
  | untouched (silent : ∀ rule ∈ rules, rule.applies descriptor = true → flag rule = none) :
      Resolves rules flag descriptor original original

/-- The last value that one of the rules gives a flag, or the original one. -/
def settle (rules : List FunctionOverride) (flag : FunctionOverride → Option Bool) (original : Bool) :
    Bool :=
  (rules.filterMap flag).getLast?.getD original

section Settle
variable (flag : FunctionOverride → Option Bool) (original : Bool)

theorem settle_cons (rule : FunctionOverride) (rules : List FunctionOverride) :
    settle (rule :: rules) flag original = settle rules flag ((flag rule).getD original) := by
  unfold settle
  cases set : flag rule with
  | none => rw [List.filterMap_cons_none set, Option.getD_none]
  | some value => rw [List.filterMap_cons_some set, List.getLast?_cons, Option.getD_some, Option.getD_some]

/-- What was settled once is settled. -/
theorem settle_settle (rules : List FunctionOverride) :
    settle rules flag (settle rules flag original) = settle rules flag original := by
  unfold settle
  cases (rules.filterMap flag).getLast? <;> rfl

theorem resolves_settle (rules : List FunctionOverride) (descriptor : Descriptor) :
    Resolves rules flag descriptor original
      (settle (rules.filter (·.applies descriptor)) flag original) := by
  have silent {rule : FunctionOverride} :
      (if rule.applies descriptor = true then flag rule else none) = none ↔
        (rule.applies descriptor = true → flag rule = none) := by
    split <;> simp [*]
  rw [settle, List.filterMap_filter]
  cases last : (rules.filterMap fun rule => if rule.applies descriptor then flag rule else none).getLast? with
  | none =>
    rw [List.getLast?_eq_none_iff, List.filterMap_eq_nil_iff] at last
    exact .untouched fun rule member => silent.mp (last rule member)
  | some value =>
    obtain ⟨_, found⟩ := List.getLast?_eq_some_iff.mp last
    obtain ⟨front, rest, rfl, -, found⟩ := List.filterMap_eq_append_iff.mp found
    obtain ⟨idle, rule, later, rfl, -, sets, quiet⟩ := List.filterMap_eq_cons_iff.mp found
    obtain ⟨applies, sets⟩ := Option.ite_none_right_eq_some.mp sets
    rw [List.filterMap_eq_nil_iff] at quiet
    exact .last (List.append_assoc ..).symm applies sets fun other member => silent.mp (quiet other member)

end Settle

theorem applyOverrides_names (config : TrustConfig) (descriptor : Descriptor) :
    (config.applyOverrides descriptor).skill = descriptor.skill ∧
      (config.applyOverrides descriptor).function = descriptor.function := by
  unfold applyOverrides
  induction config.functions generalizing descriptor with
  | nil => exact ⟨rfl, rfl⟩
  | cons rule rules ih =>
    have first := rule.apply_names descriptor
    have rest := ih (rule.apply descriptor)
    exact ⟨rest.1.trans first.1, rest.2.trans first.2⟩

/-- The rules for a function settle its flags and nothing else. -/
theorem applyOverrides_eq (config : TrustConfig) (descriptor : Descriptor) :
    config.applyOverrides descriptor =
      { descriptor with
        isSensitive := settle (config.rulesFor descriptor) (·.isSensitive) descriptor.isSensitive
        forceOutputUntrusted := settle (config.rulesFor descriptor) (·.forceOutputUntrusted)
          descriptor.forceOutputUntrusted } := by
  unfold applyOverrides rulesFor
  induction config.functions generalizing descriptor with
  | nil => rfl
  | cons rule rules ih =>
    have names := rule.apply_names descriptor
    have same : (fun other : FunctionOverride => other.applies (rule.apply descriptor)) =
        fun other => other.applies descriptor :=
      funext fun other => other.applies_congr descriptor names.1 names.2
    rw [List.foldl_cons, ih, same, List.filter_cons]
    by_cases applies : rule.applies descriptor = true
    · rw [if_pos applies, settle_cons, settle_cons, FunctionOverride.apply, if_pos applies]
    · rw [if_neg applies, FunctionOverride.apply, if_neg applies]

theorem rulesFor_congr (config : TrustConfig) {descriptor other : Descriptor}
    (skill : other.skill = descriptor.skill) (function : other.function = descriptor.function) :
    config.rulesFor other = config.rulesFor descriptor :=
  List.filter_congr fun rule _ => rule.applies_congr descriptor skill function

/-- Only the rules for the function count, in their order. -/
theorem applyOverrides_congr {config other : TrustConfig} {descriptor : Descriptor}
    (same : other.rulesFor descriptor = config.rulesFor descriptor) :
    other.applyOverrides descriptor = config.applyOverrides descriptor := by
  rw [applyOverrides_eq, applyOverrides_eq, same]

theorem applyOverrides_applyOverrides (config : TrustConfig) (descriptor : Descriptor) :
    config.applyOverrides (config.applyOverrides descriptor) = config.applyOverrides descriptor := by
  have names := config.applyOverrides_names descriptor
  rw [applyOverrides_eq config (config.applyOverrides descriptor),
    config.rulesFor_congr names.1 names.2, config.applyOverrides_eq descriptor, settle_settle,
    settle_settle]

theorem applyOverrides_append (config : TrustConfig) (first second : List FunctionOverride)
    (descriptor : Descriptor) :
    { config with functions := first ++ second }.applyOverrides descriptor =
      { config with functions := second }.applyOverrides
        ({ config with functions := first }.applyOverrides descriptor) :=
  List.foldl_append

/-- A rule applies to a function if both names have the same lowercase. Each flag is the one that the last rule
to set it for the function gives, whatever rules do to the other flag, and all else stays. Therefore to
apply the rules twice is to apply them once, two lists of rules can be applied one after the other, and
rules that do not apply may be removed, added and moved at will. -/
theorem overrides_resolve (config : TrustConfig) (descriptor : Descriptor) :
    let resolved := config.applyOverrides descriptor
    (∀ rule : FunctionOverride, rule.applies descriptor = true ↔
      Text.lowercase rule.skill = Text.lowercase descriptor.skill ∧
        Text.lowercase rule.function = Text.lowercase descriptor.function) ∧
    Resolves config.functions (·.isSensitive) descriptor descriptor.isSensitive resolved.isSensitive ∧
    Resolves config.functions (·.forceOutputUntrusted) descriptor descriptor.forceOutputUntrusted
      resolved.forceOutputUntrusted ∧
    (∃ isSensitive forceOutputUntrusted,
      resolved = { descriptor with isSensitive, forceOutputUntrusted }) ∧
    config.applyOverrides resolved = resolved ∧
    (∀ more, { config with functions := config.functions ++ more }.applyOverrides descriptor =
      { config with functions := more }.applyOverrides resolved) ∧
    { config with functions := config.rulesFor descriptor }.applyOverrides descriptor = resolved ∧
    ∀ others : List FunctionOverride,
      others.filter (·.applies descriptor) = config.functions.filter (·.applies descriptor) →
        { config with functions := others }.applyOverrides descriptor = resolved := by
  intro resolved
  have settled : resolved = _ := config.applyOverrides_eq descriptor
  refine ⟨fun rule => rule.applies_iff descriptor, ?_, ?_, ⟨_, _, settled⟩,
    config.applyOverrides_applyOverrides descriptor, ?_, ?_, fun others same => applyOverrides_congr same⟩
  · rw [settled]
    exact resolves_settle _ _ _ _
  · rw [settled]
    exact resolves_settle _ _ _ _
  · exact fun more => config.applyOverrides_append config.functions more descriptor
  · refine applyOverrides_congr ?_
    rw [rulesFor, rulesFor, List.filter_filter]
    simp

def sensitiveGet : FunctionOverride := ⟨"WEB", "get", some true, none⟩

def forcedGet : FunctionOverride := ⟨"web", "GET", none, some true⟩

def harmlessGet : FunctionOverride := ⟨"Web", "Get", some false, none⟩

def harmlessPost : FunctionOverride := ⟨"web", "post", some false, some false⟩

/-- The last rule takes back what the first one set and leaves the other flag, wherever the rule for another
function stands. -/
theorem overrides_resolve_harmlessGet :
    [sensitiveGet, harmlessPost, forcedGet, harmlessGet].filter (·.applies (.new "web" "get")) =
        [sensitiveGet, forcedGet, harmlessGet, harmlessPost].filter (·.applies (.new "web" "get")) ∧
      applyOverrides ⟨true, [sensitiveGet, harmlessPost, forcedGet, harmlessGet]⟩ (.new "web" "get") =
        { Descriptor.new "web" "get" with forceOutputUntrusted := true } := by
  have same : [sensitiveGet, harmlessPost, forcedGet, harmlessGet].filter (·.applies (.new "web" "get")) =
      [sensitiveGet, forcedGet, harmlessGet, harmlessPost].filter (·.applies (.new "web" "get")) := by
    decide +kernel
  have moved := (overrides_resolve ⟨true, [sensitiveGet, forcedGet, harmlessGet, harmlessPost]⟩
    (.new "web" "get")).2.2.2.2.2.2.2 _ same
  exact ⟨same, moved.trans (by decide +kernel)⟩

end TrustConfig

end TaintTracking
