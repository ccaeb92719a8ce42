import Mathlib.Data.Sym.Sym2
import TaintTracking.Proofs.Store.LastWriter
import TaintTracking.Proofs.Text.OtherCase
import TaintTracking.Proofs.TrustConfig

/-!
Names that differ only in case. Main statement: two such names are one variable in every store, and name one
function in every rule, exactly if none of their letters is lost on the way to the other case.
-/

namespace TaintTracking

namespace Store

/-- Everything that is found in the one store is found in the other, with the same value. -/
def SameValues (left right : Store) : Prop :=
  ∀ key, (left.slot? key).map (·.value) = (right.slot? key).map (·.value)

/-- The same edit, where one name may have been written as another, also in what is merged in. -/
inductive Edit.Renames (one other : String) : Edit → Edit → Prop
  | same (change : Edit) : Renames one other change change
  | set (content : Option String) (trusted : Bool) :
      Renames one other (.set one content trusted) (.set other content trusted)
  | setValue (value : TaintedValue) : Renames one other (.setValue one value) (.setValue other value)
  | insert (content : String) : Renames one other (.insert one content) (.insert other content)
  | remove : Renames one other (.remove one) (.remove other)
  | merge {incoming arriving : Store} (alike : SameValues incoming arriving) (discard : Bool) :
      Renames one other (.merge incoming discard) (.merge arriving discard)

/-- Whatever is done with the one name could be done with the other. -/
structure OneVariable (store : Store) (one other : String) : Prop where
  get? : store.get? one = store.get? other
  get : store.get one = store.get other
  contains : store.contains one = store.contains other
  remove : store.remove one = store.remove other
  clear : ∀ trusted, store.set one none trusted = store.set other none trusted
  write : ∀ value, SameValues (store.setValue one value) (store.setValue other value)
  /-- A slot that is there keeps its name, so nothing tells which of the two it was written with. -/
  overwrite : store.contains one = true → ∀ value, store.setValue one value = store.setValue other value
  listed : ∀ slot ∈ store.slots, ∀ twin ∈ store.slots, slot.name = one → twin.name = other → slot = twin

namespace Edit.Renames
variable {one other : String} {change changed : Edit} (renames : Edit.Renames one other change changed)
include renames

theorem key?_eq (same : normalize one = normalize other) : changed.key? = change.key? := by
  cases renames <;> simp only [Edit.key?, same]

theorem effectAt_eq (key : String) : changed.effectAt key = change.effectAt key := by
  cases renames with
  | set content trusted => cases content <;> rfl
  | @merge incoming arriving alike discard =>
    have found := alike key
    simp only [Edit.effectAt]
    cases held : incoming.slot? key with
    | none =>
      rw [held] at found
      rw [Option.map_eq_none_iff.mp found.symm]
    | some slot =>
      rw [held] at found
      obtain ⟨twin, there, value⟩ := Option.map_eq_some_iff.mp found.symm
      simp only [there, value]
  | _ => rfl

/-- What an edit does to the values does not depend on the spelling. -/
theorem sameValues_edit (same : normalize one = normalize other) {left right : Store}
    (alike : SameValues left right) : SameValues (left.edit change) (right.edit changed) := by
  intro key
  rw [value_edit, value_edit, alike key, Edit.effect, Edit.effect, renames.key?_eq same, renames.effectAt_eq]

end Edit.Renames

section Same
variable {one other : String} (same : normalize one = normalize other)
include same

theorem sameValues_editAll {edits others : List Edit}
    (renamed : List.Forall₂ (Edit.Renames one other) edits others) {left right : Store}
    (alike : SameValues left right) :
    SameValues (left.editAll edits) (right.editAll others) := by
  induction renamed generalizing left right with
  | nil => exact alike
  | cons renames _ ih => exact ih (renames.sameValues_edit same alike)

theorem setValue_eq_of_contains {store : Store} (held : store.contains one = true) (value : TaintedValue) :
    store.setValue one value = store.setValue other value := by
  unfold setValue
  rw [same]
  dsimp only
  split
  next => rfl
  next notMain =>
    obtain ⟨slot, there⟩ := Option.isSome_iff_exists.mp held
    rw [same, slot?_of_ne _ notMain] at there
    rw [there]
    rfl

theorem oneVariable {store : Store} (keyed : Keyed store.others) : OneVariable store one other where
  get? := by rw [Store.get?, Store.get?, same]
  get := by rw [Store.get, Store.get, Store.get?, Store.get?, same]
  contains := by rw [Store.contains, Store.contains, same]
  remove := by rw [Store.remove, Store.remove, same]
  clear trusted := by rw [Store.set, Store.set, same]
  write value := (Edit.Renames.setValue value).sameValues_edit same fun _ => rfl
  overwrite held value := setValue_eq_of_contains same held value
  listed := by
    rintro slot member twin twinMember rfl rfl
    rw [mem_slots_iff_slot? keyed] at member twinMember
    rw [same, twinMember] at member
    exact (Option.some.inj member).symm

end Same

/-- What is done with the one name does not reach the other, and both can be there with values of their own. -/
structure TwoVariables (store : Store) (one other : String) : Prop where
  untouched : ∀ change : Edit, change.key? = some (normalize one) →
    (store.edit change).get? other = store.get? other
  both : ∀ first second, ((store.setValue one first).setValue other second).get? one = some first ∧
    ((store.setValue one first).setValue other second).get? other = some second

theorem twoVariables {one other : String} (apart : normalize one ≠ normalize other) (store : Store) :
    TwoVariables store one other where
  untouched change about := by
    rw [get?_eq_map_slot?, slot?_edit_of_ne store about apart.symm, get?_eq_map_slot?]
  both first second := by
    simp only [get?_eq_map_slot?, slot?_setValue, if_pos, if_neg apart.symm]
    exact ⟨rfl, rfl⟩

end Store

theorem normalize_eq_iff {one other first second : String} (respells : Text.Respells one other)
    (names : s(first, second) = s(one, other)) :
    normalize first = normalize second ↔ Text.SameLetters one other := by
  rcases Sym2.eq_iff.mp names with ⟨rfl, rfl⟩ | ⟨rfl, rfl⟩
  · exact Text.lowercase_eq_iff respells
  · exact eq_comm.trans (Text.lowercase_eq_iff respells)

/-- Names are compared by their lowercase, which is not the same for every two names that differ only in case.
It is the same exactly if each letter in the other case stands for the letter that was there: then the two
names are one variable in every store and after every history, whichever of them is used where, and a rule
with the one is a rule for a function with the other. This holds of all names without a sigma and without a
variant of another letter. Otherwise each name has a variable of its own, with its own trust, and a rule with
the one does not apply to a function with the other. -/
theorem names_in_other_case {one other : String} (respells : Text.Respells one other) :
    (normalize one = normalize other ↔ Text.SameLetters one other) ∧
      ((∀ c ∈ one.toList, c ∉ Text.sigmas ++ Text.variants) → Text.SameLetters one other) ∧
      (Text.SameLetters one other →
        (∀ store : Store, store.Reachable → store.OneVariable one other) ∧
          ∀ (store : Store) (edits others : List Store.Edit),
            List.Forall₂ (Store.Edit.Renames one other) edits others →
              Store.SameValues (store.editAll edits) (store.editAll others)) ∧
      (¬Text.SameLetters one other →
        ∀ store : Store, store.TwoVariables one other ∧ store.TwoVariables other one) ∧
      ∀ (rule : FunctionOverride) (descriptor : Descriptor) (function spelled : String),
        s(rule.skill, descriptor.skill) = s(one, other) →
          Text.Respells function spelled → s(rule.function, descriptor.function) = s(function, spelled) →
            (rule.applies descriptor = true ↔
              Text.SameLetters one other ∧ Text.SameLetters function spelled) := by
  have same : normalize one = normalize other ↔ Text.SameLetters one other := normalize_eq_iff respells rfl
  refine ⟨same, fun unlisted => Text.keepsLetters_of_unlisted respells unlisted [], fun kept => ⟨?_, ?_⟩,
    fun lost store => ?_, fun rule descriptor function spelled skills respelled functions => ?_⟩
  · exact fun store reachable => Store.oneVariable (same.mpr kept) reachable.keyed
  · exact fun store edits others renamed => Store.sameValues_editAll (same.mpr kept) renamed fun _ => rfl
  · have apart : normalize one ≠ normalize other := fun together => lost (same.mp together)
    exact ⟨Store.twoVariables apart store, Store.twoVariables apart.symm store⟩
  · rw [FunctionOverride.applies_iff, normalize_eq_iff respells skills, normalize_eq_iff respelled functions]

def smallWord : String := "\u03BF\u03B4\u03CC\u03C2"

def capitalWord : String := "\u039F\u0394\u038C\u03A3"

/-- The small sigma at the end of a word becomes the capital one, which is a final sigma again there. -/
theorem names_in_other_case_finalSigma :
    Text.Respells smallWord capitalWord ∧ normalize smallWord = normalize capitalWord ∧
      Store.new.OneVariable smallWord capitalWord ∧
      (⟨smallWord, "get", some true, none⟩ : FunctionOverride).applies (.new capitalWord "GET") = true := by
  have respells : Text.Respells smallWord capitalWord := by decide +kernel
  have kept : Text.SameLetters smallWord capitalWord := by decide +kernel
  obtain ⟨same, -, one, -, rules⟩ := names_in_other_case respells
  refine ⟨respells, same.mpr kept, (one kept).1 .new .new, ?_⟩
  exact (rules _ _ "get" "GET" rfl (by decide +kernel) rfl).mpr ⟨kept, by decide +kernel⟩

/-- The long s is written as a capital S, whose lowercase is another s. There are two variables, one of them
tainted, and what is declared sensitive under the one name is not so under the other. -/
theorem names_in_other_case_longS :
    Text.Respells "\u017F" "S" ∧
      (Store.new.insert "\u017F" "1").get? "S" = none ∧
      ((Store.new.insert "\u017F" "1").set "S" (some "2") false).slots =
        [⟨mainName, ⟨"", true⟩⟩, ⟨"S", ⟨"2", false⟩⟩, ⟨"\u017F", ⟨"1", true⟩⟩] ∧
      TrustConfig.applyOverrides ⟨true, [⟨"\u017F", "get", some true, none⟩]⟩ (.new "S" "get") =
        .new "S" "get" := by
  refine ⟨by decide +kernel, by decide +kernel, by decide +kernel, by decide +kernel⟩

end TaintTracking
