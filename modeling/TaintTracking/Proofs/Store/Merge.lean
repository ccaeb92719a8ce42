import TaintTracking.Proofs.Session.Effects
import TaintTracking.Proofs.Store.Reachable

/-!
Merging stores. Main statement: merging that keeps what is there is associative; a second merge from the
same store changes nothing, and neither does one from the store itself; merging that keeps nothing makes
an equal store. Incoming values win and names that are there stay, so all is trusted exactly if all that
came in is, and all that nothing came in over.
-/

namespace TaintTracking

namespace Store

section Laws
variable (a b c : Store)

theorem slot?_kept (key : String) :
    (a.merge b false).slot? key = Slot.overlay (b.slot? key) (a.slot? key) :=
  a.slot?_merge b false key

theorem merge_assoc : (a.merge b false).merge c false = a.merge (b.merge c false) false := by
  refine ext_others rfl fun key => ?_
  simp only [getElem?_others_merge, Bool.false_eq_true, ↓reduceIte]
  exact (Slot.overlay_assoc _ _ _).symm

theorem merge_discarding : a.merge b true = b := by
  refine ext_others rfl fun key => ?_
  rw [getElem?_others_merge, if_pos rfl, Slot.overlay_none]

theorem merge_self (discard : Bool) : a.merge a discard = a := by
  cases discard with
  | true => exact a.merge_discarding a
  | false =>
    refine ext_others rfl fun key => ?_
    rw [getElem?_others_merge, if_neg Bool.false_ne_true, Slot.overlay_self]

theorem merge_twice (discard : Bool) :
    (a.merge b discard).merge b discard = a.merge b discard := by
  cases discard with
  | true => rw [merge_discarding, merge_discarding]
  | false => rw [merge_assoc, merge_self]

end Laws

/-! What a merge leaves under each name when it keeps what is there. -/

section Kept
variable {a b : Store} (left : Keyed a.others) (right : Keyed b.others)

include right in
theorem get?_kept_of_incoming {slot : Slot} (incoming : slot ∈ b.slots) :
    (a.merge b false).get? slot.name = some slot.value := by
  rw [get?_eq_map_slot?, slot?_kept, (mem_slots_iff_slot? right).mp incoming]
  rfl

include left right

theorem mem_slots_kept_iff {slot : Slot} :
    slot ∈ (a.merge b false).slots ↔
      Slot.overlay (b.slot? (normalize slot.name)) (a.slot? (normalize slot.name)) = some slot := by
  rw [mem_slots_iff_slot? (keyed_merge left right false), slot?_kept]

theorem mem_slots_kept_of_mem {slot : Slot} (there : slot ∈ a.slots)
    (alone : b.contains slot.name = false) : slot ∈ (a.merge b false).slots := by
  rw [mem_slots_kept_iff left right, (b.contains_eq_false_iff _).mp alone]
  exact (mem_slots_iff_slot? left).mp there

theorem mem_slots_kept_of_incoming {slot : Slot} (incoming : slot ∈ b.slots)
    (free : a.contains slot.name = false) : slot ∈ (a.merge b false).slots := by
  rw [mem_slots_kept_iff left right, (a.contains_eq_false_iff _).mp free, Slot.overlay_none]
  exact (mem_slots_iff_slot? right).mp incoming

theorem mem_slots_kept_of_collision {old slot : Slot} (there : old ∈ a.slots)
    (incoming : slot ∈ b.slots) (same : normalize slot.name = normalize old.name) :
    ⟨old.name, slot.value⟩ ∈ (a.merge b false).slots := by
  rw [mem_slots_kept_iff left right, (mem_slots_iff_slot? left).mp there, ← same,
    (mem_slots_iff_slot? right).mp incoming]
  rfl

theorem cases_of_mem_slots_kept {slot : Slot} (member : slot ∈ (a.merge b false).slots) :
    (∃ incoming ∈ b.slots, normalize incoming.name = normalize slot.name ∧
      slot.value = incoming.value) ∨
    slot ∈ a.slots ∧ b.contains slot.name = false := by
  rw [mem_slots_kept_iff left right] at member
  cases came : b.slot? (normalize slot.name) with
  | some incoming =>
    rw [came] at member
    obtain ⟨there, own⟩ := (slot?_eq_some_iff right).mp came
    have value := congrArg Slot.value (Option.some.inj member)
    exact .inl ⟨incoming, there, own, value.symm⟩
  | none =>
    rw [came] at member
    exact .inr ⟨(mem_slots_iff_slot? left).mpr member, (b.contains_eq_false_iff _).mpr came⟩

theorem isAllTrusted_kept_iff :
    (a.merge b false).isAllTrusted = true ↔
      b.isAllTrusted = true ∧
        ∀ slot ∈ a.slots, b.contains slot.name = false → slot.value.trusted = true := by
  simp only [isAllTrusted_iff]
  constructor
  · intro trusted
    refine ⟨fun slot incoming => ?_, fun slot there alone =>
      trusted slot (mem_slots_kept_of_mem left right there alone)⟩
    have found := get?_kept_of_incoming (a := a) right incoming
    rw [get?_eq_map_slot?, Option.map_eq_some_iff] at found
    obtain ⟨merged, under, value⟩ := found
    exact value ▸ trusted merged ((slot?_eq_some_iff (keyed_merge left right false)).mp under).1
  · rintro ⟨arriving, staying⟩ slot member
    rcases cases_of_mem_slots_kept left right member with ⟨incoming, there, -, value⟩ | ⟨there, alone⟩
    · exact value ▸ arriving incoming there
    · exact staying slot there alone

end Kept

end Store

/-! Merging through contexts. -/

namespace Session
variable (s : Session) {source target : Context}

theorem edit_of_unchanged {change : Store.Edit}
    (unchanged : (s.storeOf target).edit change = s.storeOf target) : s.edit target change = s := by
  have same : assign s.stores target.store (s.stores target.store) = s.stores := by
    funext id
    by_cases here : id = target.store
    · rw [assign, if_pos here, here]
    · rw [assign, if_neg here]
  rw [edit, unchanged, putStore, storeOf, same]

/-- Nothing happens when what is merged in is equal to what is there. -/
theorem merge_of_equal (equal : s.storeOf source = s.storeOf target) (discard : Bool) :
    s.edit target (.merge (s.storeOf source) discard) = s := by
  refine s.edit_of_unchanged ?_
  rw [equal]
  exact (s.storeOf target).merge_self discard

theorem storeOf_cloneContext (context : Context) :
    (s.cloneContext context).2.storeOf (s.cloneContext context).1 =
      (s.cloneContext context).2.storeOf context := by
  simp [cloneContext, issue, putStore, storeOf, assign]

theorem storeOf_merge_of_ne (apart : source.store ≠ target.store) (discard : Bool) :
    (s.edit target (.merge (s.storeOf source) discard)).storeOf source = s.storeOf source :=
  s.stores_edit_of_ne target _ apart

end Session

namespace Store

/-- Merging that keeps what is there is associative. A second merge from the same store changes nothing.
Merging that keeps nothing makes an equal store. Merging a store into itself changes nothing, be it
through another context that shares it or through a clone. Merging that keeps what is there lets incoming
values win, leaves the rest as it is, keeps the names that are there, and is trusted as a whole exactly if
all that came in is, and all that nothing came in over; a source on another store stays as it is. -/
theorem merge_laws {a b : Store} (left : Reachable a) (right : Reachable b) :
    (∀ c, (a.merge b false).merge c false = a.merge (b.merge c false) false) ∧
    (∀ discard, (a.merge b discard).merge b discard = a.merge b discard) ∧
    a.merge b true = b ∧
    (∀ discard, a.merge a discard = a) ∧
    (∀ (s : Session) (source target : Context) discard, source.sharesStoreWith target = true →
      s.edit target (.merge (s.storeOf source) discard) = s) ∧
    (∀ (s : Session) (target : Context) discard,
      let cloned := (s.cloneContext target).2
      cloned.edit target (.merge (cloned.storeOf (s.cloneContext target).1) discard) = cloned) ∧
    (∀ slot ∈ b.slots, (a.merge b false).get? slot.name = some slot.value) ∧
    (∀ slot ∈ a.slots, b.contains slot.name = false → slot ∈ (a.merge b false).slots) ∧
    (∀ slot ∈ b.slots, a.contains slot.name = false → slot ∈ (a.merge b false).slots) ∧
    (∀ old ∈ a.slots, ∀ slot ∈ b.slots, normalize slot.name = normalize old.name →
      ⟨old.name, slot.value⟩ ∈ (a.merge b false).slots) ∧
    (∀ name, (a.merge b false).contains name = (a.contains name || b.contains name)) ∧
    ((a.merge b false).isAllTrusted = true ↔
      b.isAllTrusted = true ∧
        ∀ slot ∈ a.slots, b.contains slot.name = false → slot.value.trusted = true) ∧
    (∀ (s : Session) (source target : Context) discard, source.sharesStoreWith target = false →
      (s.edit target (.merge (s.storeOf source) discard)).storeOf source = s.storeOf source) := by
  have keyedLeft := left.keyed
  have keyedRight := right.keyed
  refine ⟨a.merge_assoc b, a.merge_twice b, a.merge_discarding b, a.merge_self,
    fun s source target discard shared => ?_,
    fun s target discard => Session.merge_of_equal _ (s.storeOf_cloneContext target) discard,
    fun slot => get?_kept_of_incoming keyedRight,
    fun slot => mem_slots_kept_of_mem keyedLeft keyedRight,
    fun slot => mem_slots_kept_of_incoming keyedLeft keyedRight,
    fun old there slot => mem_slots_kept_of_collision keyedLeft keyedRight there,
    fun name => ?_, isAllTrusted_kept_iff keyedLeft keyedRight,
    fun s source target discard apart => ?_⟩
  · rw [Context.sharesStoreWith, beq_iff_eq] at shared
    exact s.merge_of_equal (congrArg s.stores shared) discard
  · rw [contains, slot?_kept, contains, contains]
    cases b.slot? (normalize name) <;> simp [Slot.overlay]
  · rw [Context.sharesStoreWith, beq_eq_false_iff_ne] at apart
    exact s.storeOf_merge_of_ne apart discard

def lisbon : Store := (new.edit (.insert "City" "Lisbon")).edit (.insert "Road" "A1")

/-- The city in another casing, and not trusted. -/
def porto : Store := new.edit (.set "CITY" (some "Porto") false)

/-- The city has the incoming value under the old name, and the road is left alone. -/
theorem merge_laws_portoOverLisbon :
    Reachable lisbon ∧ Reachable porto ∧
      ⟨"City", ⟨"Porto", false⟩⟩ ∈ (lisbon.merge porto false).slots ∧
      ⟨"Road", ⟨"A1", true⟩⟩ ∈ (lisbon.merge porto false).slots ∧
      (lisbon.merge porto false).isAllTrusted = false ∧ lisbon.merge porto true = porto := by
  have city : Reachable (new.edit (.insert "City" "Lisbon")) :=
    .edit .new (.insert "City" "Lisbon") fun _ _ merges => nomatch merges
  have left : Reachable lisbon := .edit city (.insert "Road" "A1") fun _ _ merges => nomatch merges
  have right : Reachable porto :=
    .edit .new (.set "CITY" (some "Porto") false) fun _ _ merges => nomatch merges
  obtain ⟨-, -, replaced, -, -, -, -, alone, -, renamed, -, trusted, -⟩ := merge_laws left right
  refine ⟨left, right, ?_, ?_, ?_, replaced⟩
  · exact renamed ⟨"City", ⟨"Lisbon", true⟩⟩ (by decide +kernel) ⟨"CITY", ⟨"Porto", false⟩⟩
      (by decide +kernel) (by decide +kernel)
  · exact alone ⟨"Road", ⟨"A1", true⟩⟩ (by decide +kernel) (by decide +kernel)
  · have untrusted : porto.isAllTrusted = false := by decide +kernel
    rw [Bool.eq_false_iff]
    exact fun all => Bool.false_ne_true (untrusted.symm.trans (trusted.mp all).1)

end Store

end TaintTracking
