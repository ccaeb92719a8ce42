import TaintTracking.Proofs.Store.Slots
import TaintTracking.Proofs.Store.Trust

/-!
The stores that can be made. In each of them the other variables stand under the lowercase of their names
and none under the key of the main one, so a slot is found under the lowercase of the name that it is
listed with and under no other key, and a store is known by what is found in it.
-/

namespace TaintTracking

theorem normalize_mainName : normalize mainName = mainName := by decide +kernel

/-- A slot keeps its key when it takes over the name of the slot under that key. -/
theorem Slot.normalize_renamed {key : String} {slot : Slot} {replaced : Option Slot}
    (own : normalize slot.name = key)
    (taken : ∀ old, replaced = some old → normalize old.name = key) :
    normalize (slot.renamed replaced).name = key := by
  cases replaced with
  | none => exact own
  | some old => exact taken old rfl

namespace Store

/-- Variables that stand under the lowercase of their names, none under the key of the main one. -/
structure Keyed (others : Std.ExtTreeMap String Slot) : Prop where
  name : ∀ key slot, others[key]? = some slot → normalize slot.name = key
  main : others[mainName]? = none

namespace Keyed
variable {others incoming : Std.ExtTreeMap String Slot}

theorem empty : Keyed ∅ := ⟨by simp, by simp⟩

theorem insert (keyed : Keyed others) {key : String} {slot : Slot} (own : normalize slot.name = key)
    (other : key ≠ mainName) : Keyed (others.insert key (slot.renamed others[key]?)) := by
  refine ⟨fun place found present => ?_, ?_⟩
  · rw [Std.ExtTreeMap.getElem?_insert] at present
    split at present
    next same =>
      obtain rfl : key = place := by simpa using same
      obtain rfl := Option.some.inj present
      exact Slot.normalize_renamed own fun old => keyed.name key old
    next => exact keyed.name place found present
  · rw [Std.ExtTreeMap.getElem?_insert, if_neg (by simpa using other)]
    exact keyed.main

theorem erase (keyed : Keyed others) (key : String) : Keyed (others.erase key) := by
  refine ⟨fun place found present => ?_, ?_⟩
  · rw [Std.ExtTreeMap.getElem?_erase] at present
    split at present
    · cases present
    · exact keyed.name place found present
  · rw [Std.ExtTreeMap.getElem?_erase, keyed.main, ite_self]

theorem map (keyed : Keyed others) {change : String → Slot → Slot}
    (names : ∀ key slot, normalize slot.name = key → normalize (change key slot).name = key) :
    Keyed (others.map change) := by
  refine ⟨fun key found present => ?_, ?_⟩
  · rw [Std.ExtTreeMap.getElem?_map, Option.map_eq_some_iff] at present
    obtain ⟨slot, there, rfl⟩ := present
    exact names key slot (keyed.name key slot there)
  · rw [Std.ExtTreeMap.getElem?_map, keyed.main, Option.map_none]

theorem union (keyed : Keyed others) (arriving : Keyed incoming) : Keyed (others ∪ incoming) := by
  refine ⟨fun key found present => ?_, ?_⟩
  · rw [Std.ExtTreeMap.getElem?_union] at present
    rcases Option.or_eq_some_iff.mp present with new | ⟨-, old⟩
    · exact arriving.name key found new
    · exact keyed.name key found old
  · rw [Std.ExtTreeMap.getElem?_union, arriving.main, keyed.main, Option.or_none]

end Keyed

section Edits
variable {store : Store} (keyed : Keyed store.others)
include keyed

theorem keyed_setValue (name : String) (value : TaintedValue) :
    Keyed (store.setValue name value).others := by
  unfold setValue
  dsimp only
  split
  next => exact keyed
  next other => exact keyed.insert rfl other

theorem keyed_remove (name : String) : Keyed (store.remove name).others := by
  unfold remove
  dsimp only
  split
  next => exact keyed
  next => exact keyed.erase _

theorem keyed_set (name : String) (content : Option String) (trusted : Bool) :
    Keyed (store.set name content trusted).others := by
  cases content with
  | some content => exact keyed_setValue keyed name ⟨content, trusted⟩
  | none =>
    unfold set
    dsimp only
    split
    next => exact keyed
    next => exact keyed.erase _

theorem keyed_merge {incoming : Store} (arriving : Keyed incoming.others) (discard : Bool) :
    Keyed (store.merge incoming discard).others := by
  have kept : Keyed (if discard then ∅ else store.others) := by
    split
    · exact .empty
    · exact keyed
  exact kept.union (arriving.map fun key slot own => Slot.normalize_renamed own (kept.name key))

theorem keyed_edit (change : Edit)
    (incoming : ∀ other discard, change = .merge other discard → Keyed other.others) :
    Keyed (store.edit change).others := by
  cases change with
  | set name content trusted => exact keyed_set keyed name content trusted
  | setValue name value => exact keyed_setValue keyed name value
  | insert name content => exact keyed_setValue keyed name (.ofText content)
  | remove name => exact keyed_remove keyed name
  | updateMain content trusted => exact keyed
  | updateMainPreservingTrust content trusted => exact keyed
  | untrustMain => exact keyed
  | forceAllUntrusted => exact keyed.map fun key slot own => own
  | merge other discard => exact keyed_merge keyed (incoming other discard rfl) discard

end Edits

/-- What can be made from a new store by edits, where what is merged in was made in the same way. A store
may be merged into itself, and a copy of a store is that store. -/
inductive Reachable : Store → Prop
  | new : Reachable Store.new
  | ofMain (main : TaintedValue) : Reachable (Store.ofMain main)
  | edit {store : Store} (reachable : Reachable store) (change : Edit)
      (incoming : ∀ other discard, change = .merge other discard → Reachable other) :
      Reachable (store.edit change)

theorem Reachable.keyed {store : Store} (reachable : Reachable store) : Keyed store.others := by
  induction reachable with
  | new => exact .empty
  | ofMain main => exact .empty
  | edit reachable change incoming ih arriving => exact keyed_edit ih change arriving

section Listing
variable {store : Store} (keyed : Keyed store.others)
include keyed

theorem mem_slots_iff {slot : Slot} :
    slot ∈ store.slots ↔
      slot = ⟨mainName, store.main⟩ ∨ store.others[normalize slot.name]? = some slot := by
  rw [slots, List.mem_cons, List.mem_map]
  refine or_congr_right ⟨?_, fun present => ?_⟩
  · rintro ⟨⟨key, slot⟩, member, rfl⟩
    rw [Std.ExtTreeMap.mem_toList_iff_getElem?_eq_some] at member
    rw [keyed.name key slot member]
    exact member
  · exact ⟨_, Std.ExtTreeMap.mem_toList_iff_getElem?_eq_some.mpr present, rfl⟩

/-- A slot is found under the lowercase of its name, and under no other key. -/
theorem slot?_eq_some_iff {key : String} {slot : Slot} :
    store.slot? key = some slot ↔ slot ∈ store.slots ∧ normalize slot.name = key := by
  rw [mem_slots_iff keyed, slot?]
  by_cases main : key = mainName
  · rw [if_pos main, main]
    constructor
    · intro found
      obtain rfl := Option.some.inj found
      exact ⟨.inl rfl, normalize_mainName⟩
    · rintro ⟨rfl | present, own⟩
      · rfl
      · rw [own, keyed.main] at present
        cases present
  · rw [if_neg main]
    constructor
    · intro found
      have own := keyed.name key slot found
      exact ⟨.inr (own ▸ found), own⟩
    · rintro ⟨rfl | present, own⟩
      · exact absurd (own.symm.trans normalize_mainName) main
      · exact own ▸ present

theorem mem_slots_iff_slot? {slot : Slot} :
    slot ∈ store.slots ↔ store.slot? (normalize slot.name) = some slot := by
  rw [slot?_eq_some_iff keyed, and_iff_left rfl]

/-- Two stores are equal when the same is found in them under every key. -/
theorem ext_slot? {other : Store} (keyedOther : Keyed other.others)
    (same : ∀ key, store.slot? key = other.slot? key) : store = other := by
  refine ext_others ?_ fun key => ?_
  · have main := same mainName
    rw [slot?_mainName, slot?_mainName] at main
    injection main with main
    injection main
  · by_cases main : key = mainName
    · rw [main, keyed.main, keyedOther.main]
    · rw [← slot?_of_ne _ main, ← slot?_of_ne _ main, same]

end Listing

theorem contains_iff (store : Store) (name : String) :
    store.contains name = true ↔ ∃ value, store.get? name = some value := by
  rw [contains, get?, ← Option.isSome_iff_exists, Option.isSome_map]

theorem contains_eq_false_iff (store : Store) (name : String) :
    store.contains name = false ↔ store.slot? (normalize name) = none := by
  rw [contains, Option.isSome_eq_false_iff, Option.isNone_iff_eq_none]

end Store

end TaintTracking
