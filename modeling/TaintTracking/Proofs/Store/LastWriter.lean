import Mathlib.Data.List.Induction
import TaintTracking.Proofs.Store.Reachable
import TaintTracking.Proofs.Store.Slots

/-!
What a store holds after a history of edits. Main statement: the value under a key is the one that the
last edit to decide about that key gave it, with the trust that was withdrawn since, and its name is
the one it was first written under since the key was last free.
-/

namespace TaintTracking.Store

/-- What an edit means for the value under one key: it gives a value or takes it away, whatever was there;
it gives a new content and may withdraw trust; or it withdraws trust only. -/
inductive Effect where
  | leaves
  | gives (value : Option TaintedValue)
  | rewrites (content : String) (trusted : Bool)
  | taints

namespace Effect

def apply : Effect → Option TaintedValue → Option TaintedValue
  | .leaves, held => held
  | .gives value, _ => value
  | .rewrites content trusted, held => held.map fun value => ⟨content, value.trusted && trusted⟩
  | .taints, held => held.map (·.toUntrusted)

/-- The effect does not depend on what was there. -/
def Decides : Effect → Prop
  | .gives _ => True
  | _ => False

def content? : Effect → Option String
  | .rewrites content _ => some content
  | _ => none

def keepsTrust : Effect → Bool
  | .rewrites _ trusted => trusted
  | .taints => false
  | _ => true

end Effect

namespace Edit

/-- The one key that an edit is about. Merging and tainting everything are about all of them. -/
def key? : Edit → Option String
  | .set name _ _ => some (normalize name)
  | .setValue name _ => some (normalize name)
  | .insert name _ => some (normalize name)
  | .remove name => some (normalize name)
  | .updateMain _ _ => some mainName
  | .updateMainPreservingTrust _ _ => some mainName
  | .untrustMain => some mainName
  | .forceAllUntrusted => none
  | .merge _ _ => none

/-- The effect of an edit on the key that it is about, or on each key if it is about all. -/
def effectAt (key : String) : Edit → Effect
  | .set _ (some content) trusted => .gives (some ⟨content, trusted⟩)
  | .set _ none trusted => .gives (if key = mainName then some ⟨"", trusted⟩ else none)
  | .setValue _ value => .gives (some value)
  | .insert _ content => .gives (some ⟨content, true⟩)
  | .remove _ => .gives (if key = mainName then some ⟨"", true⟩ else none)
  | .updateMain content trusted => .gives (some ⟨content, trusted⟩)
  | .updateMainPreservingTrust content trusted => .rewrites content trusted
  | .untrustMain => .taints
  | .forceAllUntrusted => .taints
  | .merge incoming discard =>
    match incoming.slot? key with
    | some slot => .gives (some slot.value)
    | none => if discard then .gives none else .leaves

def effect (key : String) (change : Edit) : Effect :=
  if change.key?.all (· = key) then change.effectAt key else .leaves

/-- The name under which an edit writes to a key. -/
def name? (key : String) : Edit → Option String
  | .set name (some _) _ => if normalize name = key then some name else none
  | .setValue name _ => if normalize name = key then some name else none
  | .insert name _ => if normalize name = key then some name else none
  | .merge incoming _ => (incoming.slot? key).map (·.name)
  | _ => none

/-- What stood under the key is gone, whatever the edit puts there. -/
def frees (key : String) : Edit → Bool
  | .set name none _ => normalize name = key
  | .remove name => normalize name = key
  | .merge _ discard => discard
  | _ => false

end Edit

section Step
variable (store : Store)

/-- An edit that is about one key does nothing to the others. -/
theorem slot?_edit_of_ne {change : Edit} {key other : String} (about : change.key? = some key)
    (ne : other ≠ key) : (store.edit change).slot? other = store.slot? other := by
  cases change with
  | set name content trusted =>
    obtain rfl := Option.some.inj about
    cases content with
    | some content => exact (store.slot?_setValue name _ other).trans (if_neg ne.symm)
    | none => exact (store.slot?_set_none name trusted other).trans (if_neg ne.symm)
  | setValue name value =>
    obtain rfl := Option.some.inj about
    exact (store.slot?_setValue name value other).trans (if_neg ne.symm)
  | insert name content =>
    obtain rfl := Option.some.inj about
    exact (store.slot?_setValue name _ other).trans (if_neg ne.symm)
  | remove name =>
    obtain rfl := Option.some.inj about
    exact (store.slot?_remove name other).trans (if_neg ne.symm)
  | updateMain content trusted =>
    obtain rfl := Option.some.inj about
    exact (store.slot?_with_main _ other).trans (if_neg ne)
  | updateMainPreservingTrust content trusted =>
    obtain rfl := Option.some.inj about
    exact (store.slot?_with_main _ other).trans (if_neg ne)
  | untrustMain =>
    obtain rfl := Option.some.inj about
    exact (store.slot?_with_main _ other).trans (if_neg ne)
  | forceAllUntrusted => cases about
  | merge incoming discard => cases about

/-- The name of a slot that takes over a name, if there is one to take over. -/
theorem name_renamed (slot : Slot) (replaced : Option Slot) :
    some (slot.renamed replaced).name = (replaced.map (·.name)).or (some slot.name) := by
  cases replaced <;> rfl

/-- The value under a key after an edit is what the edit makes of the value before it. -/
theorem value_edit (change : Edit) (key : String) :
    ((store.edit change).slot? key).map (·.value) =
      (change.effect key).apply ((store.slot? key).map (·.value)) := by
  by_cases about : change.key?.all (· = key)
  · rw [Edit.effect, if_pos about]
    cases change with
    | set name content trusted =>
      have here : normalize name = key := by simpa [Edit.key?] using about
      cases content with
      | some content => rw [edit, set, slot?_setValue, if_pos here]; rfl
      | none =>
        rw [edit, slot?_set_none, if_pos here, cleared]
        by_cases main : key = mainName <;> simp [main, Edit.effectAt, Effect.apply]
    | setValue name value =>
      have here : normalize name = key := by simpa [Edit.key?] using about
      rw [edit, slot?_setValue, if_pos here]; rfl
    | insert name content =>
      have here : normalize name = key := by simpa [Edit.key?] using about
      rw [edit, Store.insert, slot?_setValue, if_pos here]; rfl
    | remove name =>
      have here : normalize name = key := by simpa [Edit.key?] using about
      rw [edit, slot?_remove, if_pos here, cleared]
      by_cases main : key = mainName <;> simp [main, Edit.effectAt, Effect.apply]; rfl
    | updateMain content trusted =>
      obtain rfl : mainName = key := by simpa [Edit.key?] using about
      rfl
    | updateMainPreservingTrust content trusted =>
      obtain rfl : mainName = key := by simpa [Edit.key?] using about
      rfl
    | untrustMain =>
      obtain rfl : mainName = key := by simpa [Edit.key?] using about
      rfl
    | forceAllUntrusted =>
      rw [edit, slot?_forceAllUntrusted, Option.map_map, Edit.effectAt, Effect.apply, Option.map_map]
      rfl
    | merge incoming discard =>
      rw [edit, slot?_merge, Edit.effectAt]
      cases incoming.slot? key with
      | some slot => rfl
      | none => cases discard <;> rfl
  · obtain ⟨other, onKey, ne⟩ : ∃ other, change.key? = some other ∧ other ≠ key := by
      simpa [Option.all_eq_true] using about
    rw [store.slot?_edit_of_ne onKey ne.symm, Edit.effect, if_neg about]
    rfl

/-- The name under a key stays until the key is freed, and is then the one of the next write. -/
theorem name_edit (change : Edit) {key : String} (other : key ≠ mainName) :
    ((store.edit change).slot? key).map (·.name) =
      (if change.frees key then none else (store.slot? key).map (·.name)).or (change.name? key) := by
  have written (name : String) (value : TaintedValue) :
      ((store.setValue name value).slot? key).map (·.name) =
        ((store.slot? key).map (·.name)).or (if normalize name = key then some name else none) := by
    rw [slot?_setValue]
    split
    · exact name_renamed ⟨name, value⟩ (store.slot? key)
    · exact Option.or_none.symm
  have cleared (name : String) (value : TaintedValue) :
      (if normalize name = key then cleared key value else store.slot? key).map (·.name) =
        (if normalize name = key then none else (store.slot? key).map (·.name)).or none := by
    rw [Option.or_none, Store.cleared, if_neg other]
    split <;> rfl
  cases change with
  | set name content trusted =>
    cases content with
    | some content => exact written name ⟨content, trusted⟩
    | none =>
      rw [edit, slot?_set_none, cleared]
      simp [Edit.frees, Edit.name?]
  | setValue name value => exact written name value
  | insert name content => exact written name (.ofText content)
  | remove name =>
    rw [edit, slot?_remove, cleared]
    simp [Edit.frees, Edit.name?]
  | updateMain content trusted =>
    rw [slot?_edit_of_ne store rfl other]
    exact Option.or_none.symm
  | updateMainPreservingTrust content trusted =>
    rw [slot?_edit_of_ne store rfl other]
    exact Option.or_none.symm
  | untrustMain =>
    rw [slot?_edit_of_ne store rfl other]
    exact Option.or_none.symm
  | forceAllUntrusted =>
    rw [edit, slot?_forceAllUntrusted, Option.map_map]
    exact Option.or_none.symm
  | merge incoming discard =>
    rw [edit, slot?_merge, Edit.frees, Edit.name?]
    cases incoming.slot? key with
    | some slot => cases discard <;> exact name_renamed slot _
    | none => cases discard <;> exact Option.or_none.symm

end Step

/-! Histories. -/

/-- What has become of a value after effects that did not decide about it: the content is the one given
last, and trust remains if none of them withdrew it. -/
def standing (later : List Effect) (value : TaintedValue) : TaintedValue where
  content := (later.reverse.findSome? Effect.content?).getD value.content
  trusted := value.trusted && later.all Effect.keepsTrust

/-- Who decided last about a key in a history: nobody, so that what was there at first counts, or one of the
edits, by the value that it gave. The edits that came later are the last argument. -/
inductive LastWord (key : String) (first : Option TaintedValue) :
    List Edit → Option TaintedValue → List Edit → Prop
  | nobody {edits : List Edit} (undecided : ∀ change ∈ edits, ¬(change.effect key).Decides) :
      LastWord key first edits first edits
  | edit (earlier : List Edit) {change : Edit} {later : List Edit} {value : Option TaintedValue}
      (decides : change.effect key = .gives value)
      (undecided : ∀ other ∈ later, ¬(other.effect key).Decides) :
      LastWord key first (earlier ++ change :: later) value later

theorem map_standing_cons {effect : Effect} (undecided : ¬effect.Decides) (later : List Effect)
    (held : Option TaintedValue) :
    (effect.apply held).map (standing later) = held.map (standing (effect :: later)) := by
  cases held with
  | none =>
    cases effect with
    | gives value => exact absurd trivial undecided
    | _ => rfl
  | some value =>
    cases effect with
    | leaves => simp [Effect.apply, standing, Effect.content?, Effect.keepsTrust]
    | gives value => exact absurd trivial undecided
    | rewrites content trusted =>
      cases latest : later.reverse.findSome? Effect.content? <;>
        simp [Effect.apply, standing, Effect.content?, Effect.keepsTrust, Bool.and_assoc, latest]
    | taints =>
      simp [Effect.apply, standing, Effect.content?, Effect.keepsTrust, TaintedValue.toUntrusted,
        TaintedValue.withTrust]

theorem editAll_append (store : Store) (edits more : List Edit) :
    store.editAll (edits ++ more) = (store.editAll edits).editAll more := List.foldl_append

theorem value_editAll_of_undecided (store : Store) {key : String} {edits : List Edit}
    (undecided : ∀ change ∈ edits, ¬(change.effect key).Decides) :
    ((store.editAll edits).slot? key).map (·.value) =
      ((store.slot? key).map (·.value)).map (standing (edits.map (Edit.effect key))) := by
  induction edits generalizing store with
  | nil =>
    have unchanged : standing [] = id := funext fun value => by simp [standing]
    rw [List.map_nil, unchanged, Option.map_id]
    rfl
  | cons change edits ih =>
    obtain ⟨here, rest⟩ := List.forall_mem_cons.mp undecided
    rw [List.map_cons, ← map_standing_cons here, ← store.value_edit change key, ← ih (store.edit change) rest]
    rfl

/-- The last word about a key, with the trust withdrawn since, is the value under it. -/
theorem LastWord.value_editAll {store : Store} {key : String} {edits later : List Edit}
    {value : Option TaintedValue}
    (word : LastWord key ((store.slot? key).map (·.value)) edits value later) :
    ((store.editAll edits).slot? key).map (·.value) =
      value.map (standing (later.map (Edit.effect key))) := by
  cases word with
  | nobody undecided => exact store.value_editAll_of_undecided undecided
  | @edit earlier change later value decides undecided =>
    rw [editAll_append]
    have given : ((((store.editAll earlier).edit change).slot? key).map (·.value)) = value := by
      rw [value_edit, decides]
      rfl
    rw [← given]
    exact value_editAll_of_undecided _ undecided

theorem exists_lastWord (key : String) (first : Option TaintedValue) (edits : List Edit) :
    ∃ value later, LastWord key first edits value later := by
  induction edits with
  | nil => exact ⟨first, [], .nobody fun change member => absurd member List.not_mem_nil⟩
  | cons change edits ih =>
    obtain ⟨value, later, word⟩ := ih
    cases word with
    | edit earlier decides undecided =>
      exact ⟨value, later, .edit (change :: earlier) decides undecided⟩
    | nobody undecided =>
      cases meant : change.effect key with
      | gives value => exact ⟨value, edits, .edit [] meant undecided⟩
      | _ =>
        have undecidedHere : ¬(change.effect key).Decides := by rw [meant]; exact id
        exact ⟨first, _, .nobody (List.forall_mem_cons.mpr ⟨undecidedHere, undecided⟩)⟩

/-- The history has a first write to the key since the key was last free, and it wrote this name. -/
def FirstWritten (store : Store) (key name : String) (edits : List Edit) : Prop :=
  ∃ earlier change later, edits = earlier ++ change :: later ∧ change.name? key = some name ∧
    (change.frees key = true ∨ (store.editAll earlier).slot? key = none) ∧
    ∀ other ∈ later, other.frees key = false

theorem firstWritten_of_name_editAll {store : Store} {key name : String} {edits : List Edit}
    (other : key ≠ mainName) (free : store.slot? key = none)
    (found : ((store.editAll edits).slot? key).map (·.name) = some name) :
    store.FirstWritten key name edits := by
  induction edits using List.reverseRecOn with
  | nil =>
    rw [editAll, List.foldl_nil, free] at found
    cases found
  | append_singleton edits change ih =>
    rw [editAll_append] at found
    have step := (store.editAll edits).name_edit change other
    rw [show (store.editAll edits).edit change = (store.editAll edits).editAll [change] from rfl,
      found] at step
    rcases Option.or_eq_some_iff.mp step.symm with stays | ⟨freed, writes⟩
    · cases frees : change.frees key with
      | true =>
        rw [frees] at stays
        cases stays
      | false =>
        rw [frees] at stays
        obtain ⟨earlier, writer, later, rfl, writes, before, after⟩ := ih stays
        refine ⟨earlier, writer, later ++ [change], by simp, writes, before, ?_⟩
        exact List.forall_mem_append.mpr ⟨after, List.forall_mem_singleton.mpr frees⟩
    · refine ⟨edits, change, [], rfl, writes, ?_, fun _ member => absurd member List.not_mem_nil⟩
      cases frees : change.frees key with
      | true => exact .inl rfl
      | false =>
        rw [frees] at freed
        exact .inr (Option.map_eq_none_iff.mp freed)

theorem Reachable.editAll {store : Store} (reachable : Reachable store) {edits : List Edit}
    (incoming : ∀ other discard, .merge other discard ∈ edits → Reachable other) :
    Reachable (store.editAll edits) := by
  induction edits generalizing store with
  | nil => exact reachable
  | cons change edits ih =>
    have next : Reachable (store.edit change) := by
      refine .edit reachable change fun other discard same => incoming other discard ?_
      exact same ▸ List.mem_cons_self ..
    exact ih next fun other discard member => incoming other discard (List.mem_cons_of_mem _ member)

/-- All is trusted exactly if everything that is found under some name is trusted. -/
theorem isAllTrusted_iff_forall_get? {store : Store} (keyed : Keyed store.others) :
    store.isAllTrusted = true ↔
      ∀ name value, store.get? name = some value → value.trusted = true := by
  rw [isAllTrusted_iff]
  constructor
  · intro trusted name value found
    obtain ⟨slot, there, rfl⟩ := Option.map_eq_some_iff.mp found
    exact trusted slot ((slot?_eq_some_iff keyed).mp there).1
  · intro trusted slot member
    refine trusted slot.name slot.value ?_
    rw [get?_eq_map_slot?, (slot?_eq_some_iff keyed).mpr ⟨member, rfl⟩]
    rfl

/-- Whatever a store went through, what is found under a name depends on its lowercase only and is what the
last edit to decide about that key gave it, less the trust withdrawn since. A variable other than the main
one is listed under the name of the first write since its key was last free. All is trusted exactly if all
that can be found is. An edit about one key leaves the others as they are. -/
theorem editAll_refines_lastWriter (main : TaintedValue) (edits : List Edit)
    (incoming : ∀ other discard, .merge other discard ∈ edits → Reachable other) :
    let final := (ofMain main).editAll edits
    (∀ name, ∃ value later,
        LastWord (normalize name) ((ofMain main).get? name) edits value later ∧
          final.get? name = value.map (standing (later.map (Edit.effect (normalize name))))) ∧
      (∀ name other, normalize name = normalize other → final.get? name = final.get? other) ∧
      (∀ slot ∈ final.slots, normalize slot.name ≠ mainName →
        (ofMain main).FirstWritten (normalize slot.name) slot.name edits) ∧
      (final.isAllTrusted = true ↔
        ∀ name value, final.get? name = some value → value.trusted = true) ∧
      ∀ (store : Store) (change : Edit) key other, change.key? = some key → other ≠ key →
        (store.edit change).slot? other = store.slot? other := by
  intro final
  have keyed : Keyed final.others := ((Reachable.ofMain main).editAll incoming).keyed
  refine ⟨fun name => ?_, fun name other same => ?_, fun slot member notMain => ?_,
    isAllTrusted_iff_forall_get? keyed, fun store change key other about ne =>
      store.slot?_edit_of_ne about ne⟩
  · obtain ⟨value, later, word⟩ := exists_lastWord (normalize name) ((ofMain main).get? name) edits
    exact ⟨value, later, word, word.value_editAll⟩
  · rw [get?_eq_map_slot?, same, get?_eq_map_slot?]
  · refine firstWritten_of_name_editAll notMain ?_ ?_
    · rw [slot?_ofMain, if_neg notMain]
    · rw [(slot?_eq_some_iff keyed).mpr ⟨member, rfl⟩]
      rfl

/-- A store with a city of its own. -/
def southern : Store := new.edit (.insert "City" "Faro")

/-- The city is written, removed and written again in another casing, and then merged over, which also
overwrites the main variable; this gets a new content and loses its trust. -/
def cityHistory : List Edit :=
  [.insert "City" "Lisbon", .remove "CITY", .setValue "cITY" ⟨"Porto", true⟩, .merge southern false,
    .updateMainPreservingTrust "out" true, .untrustMain]

theorem cityHistory_incoming (other : Store) (discard : Bool)
    (member : .merge other discard ∈ cityHistory) : Reachable other := by
  have same : other = southern := by simp_all [cityHistory]
  exact same ▸ .edit .new (.insert "City" "Faro") fun _ _ merges => nomatch merges

/-- The merge has the last word on the city, and the second write gave it its name. -/
theorem editAll_refines_lastWriter_cityHistory :
    (∀ other discard, .merge other discard ∈ cityHistory → Reachable other) ∧
      let final := (ofMain ⟨"in", true⟩).editAll cityHistory
      (∃ value later, LastWord (normalize "CITY") ((ofMain ⟨"in", true⟩).get? "CITY") cityHistory value
          later ∧
        final.get? "CITY" = value.map (standing (later.map (Edit.effect (normalize "CITY"))))) ∧
        final.get? "CITY" = some ⟨"Faro", true⟩ ∧ final.get? "Input" = some ⟨"out", false⟩ ∧
        (ofMain ⟨"in", true⟩).FirstWritten (normalize "cITY") "cITY" cityHistory ∧
        final.isAllTrusted = false := by
  obtain ⟨found, -, named, trusted, -⟩ :=
    editAll_refines_lastWriter ⟨"in", true⟩ cityHistory cityHistory_incoming
  have main : ((ofMain ⟨"in", true⟩).editAll cityHistory).get? "Input" = some ⟨"out", false⟩ := by
    decide +kernel
  refine ⟨cityHistory_incoming, found "CITY", by decide +kernel, main, ?_, ?_⟩
  · exact named ⟨"cITY", ⟨"Faro", true⟩⟩ (by decide +kernel) (by decide +kernel)
  · rw [Bool.eq_false_iff]
    exact fun all => Bool.false_ne_true (trusted.mp all "Input" _ main)

end TaintTracking.Store
