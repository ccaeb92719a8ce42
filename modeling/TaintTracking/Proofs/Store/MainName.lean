import TaintTracking.Proofs.Respelling
import TaintTracking.Proofs.Store.Independence
import TaintTracking.Proofs.Text.Lowercase

/-!
The key of a name. Main statement: a name has the same key as that key itself, so what was written under a name
is found under its lowercase; and the key of the main variable belongs to the ASCII casings of its name, so that
nothing done under another name reads it or changes it.
-/

namespace TaintTracking

theorem normalize_normalize (name : String) : normalize (normalize name) = normalize name :=
  Text.lowercase_lowercase name

theorem normalize_eq_mainName_iff {name : String} :
    normalize name = mainName ↔ name ∈ Text.asciiCasings mainName := by
  have each : mainName.toList.all (fun letter => Text.Unmistakable letter) = true := by decide +kernel
  refine Text.lowercase_eq_iff_mem_asciiCasings fun letter member => ?_
  exact of_decide_eq_true (List.all_eq_true.mp each letter member)

example : (Text.asciiCasings mainName).length = 32 ∧ (Text.asciiCasings mainName).Nodup := by decide +kernel

namespace Store

/-- What is asked or done under the name is asked of the main variable or done to it, and to no other. -/
structure NamesMain (store : Store) (name : String) : Prop where
  get? : store.get? name = some store.main
  get : store.get name = store.main
  contains : store.contains name = true
  setValue : ∀ value, store.setValue name value = { store with main := value }
  insert : ∀ content, store.insert name content = { store with main := .ofText content }
  set : ∀ content trusted, store.set name content trusted = { store with main := ⟨content.getD "", trusted⟩ }
  remove : store.remove name = { store with main := .empty }

section Casing
variable {name : String} (main : normalize name = mainName) (store : Store)
include main

theorem get?_of_main : store.get? name = some store.main := by
  rw [get?_eq_map_slot?, main, slot?_mainName]
  rfl

theorem setValue_of_main (value : TaintedValue) :
    store.setValue name value = { store with main := value } := by
  unfold setValue
  exact if_pos main

theorem namesMain : store.NamesMain name where
  get? := store.get?_of_main main
  get := by rw [Store.get, store.get?_of_main main, Option.getD_some]
  contains := (store.contains_iff name).mpr ⟨_, store.get?_of_main main⟩
  setValue := store.setValue_of_main main
  insert content := store.setValue_of_main main (.ofText content)
  set content trusted := by
    cases content with
    | some content => exact store.setValue_of_main main ⟨content, trusted⟩
    | none =>
      unfold Store.set
      exact if_pos main
  remove := by
    unfold Store.remove
    exact if_pos main

end Casing

/-! Operations on other keys. A step works the same whatever the main variable holds, and leaves it as it is;
so does a whole program. -/

section Elsewhere
variable (store : Store) (main : TaintedValue)

theorem edit_with_main {change : Edit} {key : String} (about : change.key? = some key) (other : key ≠ mainName) :
    ({ store with main } : Store).edit change = { store.edit change with main } := by
  cases change with
  | set name content trusted =>
    obtain rfl := Option.some.inj about
    cases content with
    | some content => simp only [edit, set, setValue, if_neg other]
    | none => simp only [edit, set, if_neg other]
  | setValue name value =>
    obtain rfl := Option.some.inj about
    simp only [edit, setValue, if_neg other]
  | insert name content =>
    obtain rfl := Option.some.inj about
    simp only [edit, insert, setValue, if_neg other]
  | remove name =>
    obtain rfl := Option.some.inj about
    simp only [edit, remove, if_neg other]
  | updateMain content trusted => exact absurd (Option.some.inj about).symm other
  | updateMainPreservingTrust content trusted => exact absurd (Option.some.inj about).symm other
  | untrustMain => exact absurd (Option.some.inj about).symm other
  | forceAllUntrusted => cases about
  | merge incoming discard => cases about

theorem access_with_main {step : Access} (other : step.key ≠ mainName) :
    ({ store with main } : Store).access step = { store.access step with main } := by
  cases step with
  | write change key about => exact store.edit_with_main main about other
  | _ => rfl

theorem answer_with_main {step : Access} (other : step.key ≠ mainName) :
    step.answer { store with main } = step.answer store :=
  answer_congr step ((store.slot?_with_main main step.key).trans (if_neg other))

theorem program_with_main {program : List Access} (elsewhere : ∀ step ∈ program, step.key ≠ mainName) :
    ({ store with main } : Store).answers program = store.answers program ∧
      ({ store with main } : Store).accessAll program = { store.accessAll program with main } := by
  induction program generalizing store with
  | nil => exact ⟨rfl, rfl⟩
  | cons step program ih =>
    obtain ⟨here, later⟩ := List.forall_mem_cons.mp elsewhere
    obtain ⟨answers, left⟩ := ih (store.access step) later
    constructor
    · rw [Store.answers, store.answer_with_main main here, store.access_with_main main here, answers]
      rfl
    · rw [accessAll, List.foldl_cons, store.access_with_main main here]
      exact left

end Elsewhere

/-- The edits that write a value under a name. -/
inductive Edit.Writes (name : String) : TaintedValue → Edit → Prop
  | set (content : String) (trusted : Bool) : Writes name ⟨content, trusted⟩ (.set name (some content) trusted)
  | setValue (value : TaintedValue) : Writes name value (.setValue name value)
  | insert (content : String) : Writes name ⟨content, true⟩ (.insert name content)

theorem Edit.Writes.edit_eq {name : String} {value : TaintedValue} {change : Edit}
    (writes : Edit.Writes name value change) (store : Store) :
    store.edit change = store.setValue name value := by
  cases writes <;> rfl

/-- What was written under a name is found under its key until something is done there again. -/
theorem get?_normalize_of_writes (store : Store) {name : String} {value : TaintedValue} {change : Edit}
    (writes : Edit.Writes name value change) {program : List Access}
    (elsewhere : ∀ step ∈ program, step.key ≠ normalize name) :
    ((store.edit change).accessAll program).get? (normalize name) = some value := by
  rw [get?_eq_map_slot?, normalize_normalize, slot?_accessAll_of_ne elsewhere, writes.edit_eq store,
    slot?_setValue, if_pos rfl]
  rfl

theorem get?_normalize_of_mem_slots {store : Store} (keyed : Keyed store.others) {slot : Slot}
    (member : slot ∈ store.slots) : store.get? (normalize slot.name) = some slot.value := by
  rw [get?_eq_map_slot?, normalize_normalize, (mem_slots_iff_slot? keyed).mp member]
  rfl

/-- Names are brought into a normal form, in which they stay. So a variable is found under the lowercase of the
name that it was written under and of the one that it is listed with, and can be used by either. The main
variable is reached under the ASCII casings of its name and under no other: a program that uses other names
learns the same and leaves the same, whatever the main variable holds, and does not change it. -/
theorem normalize_guards_main :
    (∀ name, normalize (normalize name) = normalize name) ∧
      (∀ (store : Store) (name : String) (value : TaintedValue) (change : Edit), change.Writes name value →
        ∀ program : List Access, (∀ step ∈ program, step.key ≠ normalize name) →
          ((store.edit change).accessAll program).get? (normalize name) = some value) ∧
      (∀ store : Store, store.Reachable →
        (∀ name, store.OneVariable name (normalize name)) ∧
          ∀ slot ∈ store.slots, store.get? (normalize slot.name) = some slot.value) ∧
      (∀ name, normalize name = mainName ↔ name ∈ Text.asciiCasings mainName) ∧
      (∀ name ∈ Text.asciiCasings mainName, ∀ store : Store, store.NamesMain name) ∧
      ∀ program : List Access,
        (∀ step ∈ program, ∃ name, name ∉ Text.asciiCasings mainName ∧ step.key = normalize name) →
          ∀ (store : Store) (main : TaintedValue),
            ({ store with main } : Store).answers program = store.answers program ∧
              ({ store with main } : Store).accessAll program = { store.accessAll program with main } := by
  refine ⟨normalize_normalize, fun store name value change writes program elsewhere => ?_,
    fun store reachable => ⟨fun name => ?_, fun slot => get?_normalize_of_mem_slots reachable.keyed⟩,
    fun name => normalize_eq_mainName_iff, fun name casing => namesMain (normalize_eq_mainName_iff.mpr casing),
    fun program others store main => ?_⟩
  · exact get?_normalize_of_writes store writes elsewhere
  · exact oneVariable (normalize_normalize name).symm reachable.keyed
  · refine store.program_with_main main fun step member => ?_
    obtain ⟨name, other, own⟩ := others step member
    rw [own]
    exact fun same => other (normalize_eq_mainName_iff.mp same)

/-- The dotted capital, the small letter without a dot and the full-width capital in place of the first letter. -/
def lookalikes : List Access :=
  [.write (.insert "\u0130NPUT" "1") (normalize "\u0130NPUT") rfl, .get "\u0131nput",
    .write (.remove "\uFF29NPUT") (normalize "\uFF29NPUT") rfl]

/-- They write and read variables of their own beside the main one, which keeps its content and its taint. -/
theorem normalize_guards_main_lookalikes :
    (∀ step ∈ lookalikes, ∃ name, name ∉ Text.asciiCasings mainName ∧ step.key = normalize name) ∧
      "iNPuT" ∈ Text.asciiCasings mainName ∧
      let store := ofMain ⟨"secret", false⟩
      store.get "iNPuT" = ⟨"secret", false⟩ ∧
        ((store.edit (.insert "\u0130NPUT" "1")).accessAll [mainTaint, cityRemoval]).get? "i\u0307nput" =
          some ⟨"1", true⟩ ∧
        store.answers lookalikes = new.answers lookalikes ∧
        store.accessAll lookalikes = { new.accessAll lookalikes with main := ⟨"secret", false⟩ } := by
  have others : ∀ step ∈ lookalikes,
      ∃ name, name ∉ Text.asciiCasings mainName ∧ step.key = normalize name := by
    simp only [lookalikes, List.forall_mem_cons]
    exact ⟨⟨"\u0130NPUT", by decide +kernel, rfl⟩, ⟨"\u0131nput", by decide +kernel, rfl⟩,
      ⟨"\uFF29NPUT", by decide +kernel, rfl⟩, fun _ member => absurd member List.not_mem_nil⟩
  have casing : "iNPuT" ∈ Text.asciiCasings mainName := by decide +kernel
  have key : normalize "\u0130NPUT" = "i\u0307nput" := by decide +kernel
  obtain ⟨-, written, -, -, main, apart⟩ := normalize_guards_main
  obtain ⟨answers, left⟩ := apart lookalikes others new ⟨"secret", false⟩
  have found := written (ofMain ⟨"secret", false⟩) "\u0130NPUT" ⟨"1", true⟩ _ (.insert "1")
    [mainTaint, cityRemoval] (by decide +kernel)
  rw [key] at found
  exact ⟨others, casing, (main _ casing _).get, found, answers, left⟩

end Store

end TaintTracking
