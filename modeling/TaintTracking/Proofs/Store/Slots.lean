import TaintTracking.Store.Edit

/-!
What each operation does to the slot under a key: one equation for each of them, for all keys at once.
-/

namespace TaintTracking

namespace Slot

theorem ext_option {one other : Option Slot} (name : one.map (·.name) = other.map (·.name))
    (value : one.map (·.value) = other.map (·.value)) : one = other := by
  cases one with
  | none => exact (Option.map_eq_none_iff.mp value.symm).symm
  | some slot =>
    cases other with
    | none => cases value
    | some held =>
      obtain ⟨oneName, oneValue⟩ := slot
      cases Option.some.inj name
      cases Option.some.inj value
      rfl

/-- What stands under a key once a slot has come in over the one that is held there. -/
def overlay (incoming held : Option Slot) : Option Slot :=
  match incoming with
  | some slot => some (slot.renamed held)
  | none => held

theorem overlay_assoc (third second first : Option Slot) :
    overlay (overlay third second) first = overlay third (overlay second first) := by
  cases third <;> cases second <;> cases first <;> rfl

@[simp] theorem overlay_none (incoming : Option Slot) : overlay incoming none = incoming := by
  cases incoming <;> rfl

@[simp] theorem overlay_self (held : Option Slot) : overlay held held = held := by
  cases held <;> rfl

end Slot

namespace Store
variable (store : Store)

theorem slot?_mainName : store.slot? mainName = some ⟨mainName, store.main⟩ := if_pos rfl

theorem slot?_of_ne {key : String} (other : key ≠ mainName) : store.slot? key = store.others[key]? :=
  if_neg other

@[simp] theorem slot?_ofMain {key : String} (main : TaintedValue) :
    (ofMain main).slot? key = if key = mainName then some ⟨mainName, main⟩ else none := by
  simp [slot?, ofMain]

theorem ext_others {left right : Store} (main : left.main = right.main)
    (others : ∀ key : String, left.others[key]? = right.others[key]?) : left = right := by
  cases left
  cases right
  congr
  exact Std.ExtTreeMap.ext_getElem? others

theorem get?_eq_map_slot? (name : String) :
    store.get? name = (store.slot? (normalize name)).map (·.value) := rfl

/-- An operation on the main variable alone. -/
theorem slot?_with_main (main : TaintedValue) (key : String) :
    ({ store with main } : Store).slot? key =
      if key = mainName then some ⟨mainName, main⟩ else store.slot? key := by
  by_cases here : key = mainName <;> simp [slot?, here]

/-- What is written takes over the name of what it replaces. -/
theorem slot?_setValue (name : String) (value : TaintedValue) (key : String) :
    (store.setValue name value).slot? key =
      if normalize name = key then some (Slot.renamed ⟨name, value⟩ (store.slot? key))
      else store.slot? key := by
  unfold setValue
  dsimp only
  split
  next main =>
    rw [slot?_with_main, main]
    by_cases here : mainName = key
    · subst here
      rw [if_pos rfl, if_pos rfl, slot?_mainName]
      rfl
    · rw [if_neg here, if_neg (Ne.symm here)]
  next other =>
    by_cases here : normalize name = key
    · subst here
      rw [if_pos rfl, slot?_of_ne _ other, slot?_of_ne _ other, Std.ExtTreeMap.getElem?_insert_self]
    · rw [if_neg here]
      by_cases main : key = mainName
      · rw [main, slot?_mainName, slot?_mainName]
      · rw [slot?_of_ne _ main, slot?_of_ne _ main, Std.ExtTreeMap.getElem?_insert,
          if_neg (by simpa using here)]

/-- The slot that is left under a key when it is cleared: the main one stays, with a value for it. -/
def cleared (key : String) (value : TaintedValue) : Option Slot :=
  if key = mainName then some ⟨mainName, value⟩ else none

theorem slot?_erase (name : String) (value : TaintedValue) (key : String) :
    (if normalize name = mainName then { store with main := value }
      else { store with others := store.others.erase (normalize name) } : Store).slot? key =
      if normalize name = key then cleared key value else store.slot? key := by
  by_cases main : normalize name = mainName
  · rw [if_pos main, slot?_with_main, main, cleared]
    by_cases here : key = mainName
    · rw [if_pos here, if_pos here.symm, if_pos here]
    · rw [if_neg here, if_neg (Ne.symm here)]
  · rw [if_neg main]
    by_cases here : normalize name = key
    · subst here
      rw [if_pos rfl, cleared, if_neg main, slot?_of_ne _ main, Std.ExtTreeMap.getElem?_erase_self]
    · rw [if_neg here]
      by_cases other : key = mainName
      · rw [other, slot?_mainName, slot?_mainName]
      · rw [slot?_of_ne _ other, slot?_of_ne _ other, Std.ExtTreeMap.getElem?_erase,
          if_neg (by simpa using here)]

theorem slot?_remove (name key : String) :
    (store.remove name).slot? key =
      if normalize name = key then cleared key TaintedValue.empty else store.slot? key :=
  store.slot?_erase name TaintedValue.empty key

theorem slot?_set_none (name : String) (trusted : Bool) (key : String) :
    (store.set name none trusted).slot? key =
      if normalize name = key then cleared key ⟨"", trusted⟩ else store.slot? key :=
  store.slot?_erase name ⟨"", trusted⟩ key

theorem slot?_forceAllUntrusted (key : String) :
    store.forceAllUntrusted.slot? key =
      (store.slot? key).map fun slot => { slot with value := slot.value.toUntrusted } := by
  by_cases main : key = mainName
  · rw [main, slot?_mainName, slot?_mainName]
    rfl
  · rw [slot?_of_ne _ main, slot?_of_ne _ main, forceAllUntrusted, Std.ExtTreeMap.getElem?_map]

theorem getElem?_others_merge (incoming : Store) (discard : Bool) (key : String) :
    (store.merge incoming discard).others[key]? =
      Slot.overlay incoming.others[key]? (if discard then none else store.others[key]?) := by
  rw [merge, Std.ExtTreeMap.getElem?_union, Std.ExtTreeMap.getElem?_map]
  cases discard <;> cases incoming.others[key]? <;> simp [Slot.overlay]

/-- The incoming slot wins and takes over the name of the one it replaces; without one, what was there
stays unless it is discarded. -/
theorem slot?_merge (incoming : Store) (discard : Bool) (key : String) :
    (store.merge incoming discard).slot? key =
      Slot.overlay (incoming.slot? key) (if discard then none else store.slot? key) := by
  by_cases main : key = mainName
  · rw [main, slot?_mainName, slot?_mainName, slot?_mainName]
    cases discard <;> rfl
  · rw [slot?_of_ne _ main, slot?_of_ne _ main, slot?_of_ne _ main, getElem?_others_merge]

end Store

end TaintTracking
