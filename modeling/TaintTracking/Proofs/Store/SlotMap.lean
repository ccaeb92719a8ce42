import TaintTracking.Proofs.Store.Reachable
import TaintTracking.Store.SlotMap

/-!
The variables as one map: what each operation does to the entry under a key, and what all of them keep.
Nothing takes the main entry away, it has its exact name, and every entry stands under the lowercase of
its name.
-/

namespace TaintTracking

namespace SlotMap

theorem ext_getElem? {left right : SlotMap}
    (same : ∀ key : String, left.entries[key]? = right.entries[key]?) : left = right := by
  cases left
  cases right
  congr
  exact Std.ExtTreeMap.ext_getElem? same

/-! What each operation does to the entry under a key. -/

section Entries
variable (map : SlotMap)

theorem getElem?_insert (key other : String) (slot : Slot) :
    (map.entries.insert key slot)[other]? = if key = other then some slot else map.entries[other]? := by
  simp [Std.ExtTreeMap.getElem?_insert]

theorem getElem?_put (key name : String) (value : TaintedValue) (other : String) :
    (map.put key name value).entries[other]? =
      if key = other then some (Slot.renamed ⟨name, value⟩ map.entries[other]?)
      else map.entries[other]? := by
  unfold put
  split
  next slot held =>
    rw [getElem?_insert]
    by_cases here : key = other
    · rw [if_pos here, if_pos here, ← here, held]
      rfl
    · rw [if_neg here, if_neg here]
  next free =>
    rw [getElem?_insert]
    by_cases here : key = other
    · rw [if_pos here, if_pos here, ← here, free]
      rfl
    · rw [if_neg here, if_neg here]

theorem getElem?_erase (key other : String) :
    (map.erase key).entries[other]? = if key = other then none else map.entries[other]? := by
  simp [erase, Std.ExtTreeMap.getElem?_erase]

theorem getElem?_forceAllUntrusted (key : String) :
    map.forceAllUntrusted.entries[key]? =
      map.entries[key]?.map fun slot => { slot with value := slot.value.toUntrusted } :=
  Std.ExtTreeMap.getElem?_map

theorem getElem?_putAll {incoming : List (String × Slot)} (distinct : (incoming.map (·.1)).Nodup)
    (key : String) :
    (map.putAll incoming).entries[key]? =
      Slot.overlay ((incoming.find? fun entry => entry.1 = key).map (·.2)) map.entries[key]? := by
  induction incoming generalizing map with
  | nil => rfl
  | cons entry incoming ih =>
    obtain ⟨once, rest⟩ := List.nodup_cons.mp distinct
    refine (ih (map.put entry.1 entry.2.name entry.2.value) rest).trans ?_
    rw [getElem?_put]
    by_cases here : entry.1 = key
    · -- No later entry has this key.
      have last : incoming.find? (fun entry => entry.1 = key) = none := by
        rw [List.find?_eq_none]
        rintro other member same
        rw [decide_eq_true_eq] at same
        exact once (List.mem_map.mpr ⟨other, member, same.trans here.symm⟩)
      rw [if_pos here, last, List.find?_cons, decide_eq_true here]
      rfl
    · rw [if_neg here, List.find?_cons, decide_eq_false here]

end Entries

/-! The invariant, step by step and along a run. -/

/-- A name that an entry may have under a key: in any casing, but the main one in its own. -/
def Fits (key name : String) : Prop := normalize name = key ∧ (key = mainName → name = mainName)

def Named (map : SlotMap) : Prop := ∀ key slot, map.entries[key]? = some slot → Fits key slot.name

theorem fits_mainName : Fits mainName mainName := ⟨normalize_mainName, fun _ => rfl⟩

namespace Named
variable {map : SlotMap}

theorem empty : Named ⟨∅⟩ := by
  intro key slot found
  rw [Std.ExtTreeMap.getElem?_empty] at found
  cases found

theorem insert (named : Named map) {key : String} {slot : Slot} (fits : Fits key slot.name) :
    Named ⟨map.entries.insert key slot⟩ := by
  intro other held found
  dsimp only at found
  rw [getElem?_insert] at found
  split at found
  next same =>
    obtain rfl := Option.some.inj found
    exact same ▸ fits
  next => exact named other held found

/-- The name that is written counts only where nothing is there yet. -/
theorem put (named : Named map) {key name : String}
    (fits : map.entries[key]? = none → Fits key name) (value : TaintedValue) :
    Named (map.put key name value) := by
  unfold SlotMap.put
  split
  next slot held => exact named.insert (named key slot held)
  next free => exact named.insert (fits free)

theorem erase (named : Named map) (key : String) : Named (map.erase key) := by
  intro other slot found
  rw [getElem?_erase] at found
  split at found
  next => cases found
  next => exact named other slot found

theorem putAll (named : Named map) {incoming : List (String × Slot)}
    (fits : ∀ entry ∈ incoming, Fits entry.1 entry.2.name) : Named (map.putAll incoming) := by
  induction incoming generalizing map with
  | nil => exact named
  | cons entry incoming ih =>
    have first := named.put (fun _ => fits entry (List.mem_cons_self ..)) entry.2.value
    exact ih first fun other member => fits other (List.mem_cons_of_mem _ member)

theorem of_mem_toList (named : Named map) {order : List (String × Slot)}
    (same : order.Perm map.entries.toList) : ∀ entry ∈ order, Fits entry.1 entry.2.name :=
  fun entry member => named entry.1 entry.2
    (Std.ExtTreeMap.mem_toList_iff_getElem?_eq_some.mp (same.mem_iff.mp member))

end Named

/-- Nothing takes the main entry away, and every entry has a name that fits its key. -/
structure Sound (map : SlotMap) : Prop where
  named : Named map
  present : mainName ∈ map.entries

theorem mem_put_iff {map : SlotMap} {key name other : String} {value : TaintedValue} :
    other ∈ (map.put key name value).entries ↔ key = other ∨ other ∈ map.entries := by
  rw [Std.ExtTreeMap.mem_iff_isSome_getElem?, getElem?_put, Std.ExtTreeMap.mem_iff_isSome_getElem?]
  split <;> simp [*]

theorem Named.restored {map : SlotMap} (named : Named map) :
    Sound (if map.entries.contains mainName then map
      else map.put mainName mainName TaintedValue.empty) := by
  split
  next present => exact ⟨named, Std.ExtTreeMap.contains_iff_mem.mp present⟩
  next => exact ⟨named.put (fun _ => fits_mainName) _, mem_put_iff.mpr (.inl rfl)⟩

namespace Sound
variable {map : SlotMap}

theorem ofMain (main : TaintedValue) : Sound (ofMain main) :=
  ⟨Named.empty.insert fits_mainName, Std.ExtTreeMap.mem_insert_self⟩

/-- The main entry is there, so a write under another casing of its name does not rename it. -/
theorem put (sound : Sound map) {key name : String} (own : normalize name = key)
    (value : TaintedValue) : Sound (map.put key name value) := by
  refine ⟨sound.named.put (fun free => ⟨own, fun main => ?_⟩) value,
    mem_put_iff.mpr (.inr sound.present)⟩
  have present := Std.ExtTreeMap.mem_iff_isSome_getElem?.mp sound.present
  rw [← main, free] at present
  cases present

theorem erase (sound : Sound map) {key : String} (other : key ≠ mainName) : Sound (map.erase key) := by
  refine ⟨sound.named.erase key, ?_⟩
  rw [Std.ExtTreeMap.mem_iff_isSome_getElem?, getElem?_erase, if_neg other,
    ← Std.ExtTreeMap.mem_iff_isSome_getElem?]
  exact sound.present

theorem set (sound : Sound map) (name : String) (content : Option String) (trusted : Bool) :
    Sound (map.set name content trusted) := by
  cases content with
  | some content => exact sound.put rfl ⟨content, trusted⟩
  | none =>
    unfold SlotMap.set
    dsimp only
    split
    next => exact sound.put rfl ⟨"", trusted⟩
    next other => exact sound.erase other

theorem remove (sound : Sound map) (name : String) : Sound (map.remove name).2 := by
  unfold SlotMap.remove
  dsimp only
  split
  next main => exact sound.put (normalize_mainName.trans main.symm) TaintedValue.empty
  next other => exact sound.erase other

theorem updateMainPreservingTrust (sound : Sound map) (content : String) (trusted : Bool) :
    Sound (map.updateMainPreservingTrust content trusted) := by
  refine ⟨sound.named.insert ?_, Std.ExtTreeMap.mem_insert_self⟩
  cases held : map.entries[mainName]? with
  | none => exact fits_mainName
  | some slot => exact sound.named mainName slot held

theorem untrustMain (sound : Sound map) : Sound map.untrustMain := by
  unfold SlotMap.untrustMain
  split
  next slot held =>
    exact ⟨sound.named.insert (sound.named mainName slot held), Std.ExtTreeMap.mem_insert_self⟩
  next => exact sound

theorem forceAllUntrusted (sound : Sound map) : Sound map.forceAllUntrusted := by
  refine ⟨fun key slot found => ?_, ?_⟩
  · rw [getElem?_forceAllUntrusted, Option.map_eq_some_iff] at found
    obtain ⟨held, there, rfl⟩ := found
    exact sound.named key held there
  · rw [Std.ExtTreeMap.mem_iff_isSome_getElem?, getElem?_forceAllUntrusted, Option.isSome_map,
      ← Std.ExtTreeMap.mem_iff_isSome_getElem?]
    exact sound.present

/-- While the incoming entries are put, the main entry may be missing; afterwards it is there. -/
theorem merge (sound : Sound map) {incoming : List (String × Slot)}
    (fits : ∀ entry ∈ incoming, Fits entry.1 entry.2.name) (discard : Bool) :
    Sound (map.merge incoming discard) := by
  have kept : Named (if discard then ⟨∅⟩ else map) := by
    split
    · exact .empty
    · exact sound.named
  exact (kept.putAll fits).restored

end Sound

/-- What can be made from a new map by the operations. What is merged in was made in the same way, may be
the map itself, and is gone through in any order; a copy of a map is that map. -/
inductive Reachable : SlotMap → Prop
  | new : Reachable new
  | ofMain (main : TaintedValue) : Reachable (ofMain main)
  | set {map : SlotMap} (reachable : Reachable map) (name : String) (content : Option String)
      (trusted : Bool) : Reachable (map.set name content trusted)
  | setValue {map : SlotMap} (reachable : Reachable map) (name : String) (value : TaintedValue) :
      Reachable (map.setValue name value)
  | insert {map : SlotMap} (reachable : Reachable map) (name content : String) :
      Reachable (map.insert name content)
  | remove {map : SlotMap} (reachable : Reachable map) (name : String) : Reachable (map.remove name).2
  | updateMain {map : SlotMap} (reachable : Reachable map) (content : String) (trusted : Bool) :
      Reachable (map.updateMain content trusted)
  | updateMainPreservingTrust {map : SlotMap} (reachable : Reachable map) (content : String)
      (trusted : Bool) : Reachable (map.updateMainPreservingTrust content trusted)
  | untrustMain {map : SlotMap} (reachable : Reachable map) : Reachable map.untrustMain
  | forceAllUntrusted {map : SlotMap} (reachable : Reachable map) : Reachable map.forceAllUntrusted
  | merge {map other : SlotMap} (reachable : Reachable map) (arriving : Reachable other)
      {order : List (String × Slot)} (same : order.Perm other.entries.toList) (discard : Bool) :
      Reachable (map.merge order discard)

theorem Reachable.sound {map : SlotMap} (reachable : Reachable map) : Sound map := by
  induction reachable with
  | new => exact .ofMain TaintedValue.empty
  | ofMain main => exact .ofMain main
  | set _ name content trusted sound => exact sound.set name content trusted
  | setValue _ name value sound => exact sound.put rfl value
  | insert _ name content sound => exact sound.put rfl (.ofText content)
  | remove _ name sound => exact sound.remove name
  | updateMain _ content trusted sound => exact sound.put rfl ⟨content, trusted⟩
  | updateMainPreservingTrust _ content trusted sound =>
    exact sound.updateMainPreservingTrust content trusted
  | untrustMain _ sound => exact sound.untrustMain
  | forceAllUntrusted _ sound => exact sound.forceAllUntrusted
  | merge _ _ same discard sound arriving => exact sound.merge (arriving.named.of_mem_toList same) discard

/-! What is listed and asked. -/

section Listing
variable {map : SlotMap}

theorem isAllTrusted_eq_false_of_main {slot : Slot} (held : map.entries[mainName]? = some slot)
    (untrusted : slot.value.trusted = false) : map.isAllTrusted = false := by
  rw [isAllTrusted, List.all_eq_false]
  refine ⟨(mainName, slot), Std.ExtTreeMap.mem_toList_iff_getElem?_eq_some.mpr held, ?_⟩
  simp [untrusted]

theorem keys_pairs (named : Named map) :
    (map.pairs.map fun pair => normalize pair.1) = map.entries.keys := by
  rw [pairs, List.map_map, ← Std.ExtTreeMap.map_fst_toList_eq_keys]
  refine List.map_congr_left fun entry member => ?_
  exact (named entry.1 entry.2 (Std.ExtTreeMap.mem_toList_iff_getElem?_eq_some.mp member)).1

theorem mem_pairs_iff (named : Named map) {name content : String} :
    (name, content) ∈ map.pairs ↔
      ∃ slot, map.entries[normalize name]? = some slot ∧ slot.name = name ∧
        slot.value.content = content := by
  rw [pairs, List.mem_map]
  constructor
  · rintro ⟨⟨key, slot⟩, member, same⟩
    rw [Std.ExtTreeMap.mem_toList_iff_getElem?_eq_some] at member
    obtain ⟨rfl, rfl⟩ := Prod.mk.inj same
    exact ⟨slot, (named key slot member).1 ▸ member, rfl, rfl⟩
  · rintro ⟨slot, held, rfl, rfl⟩
    exact ⟨_, Std.ExtTreeMap.mem_toList_iff_getElem?_eq_some.mpr held, rfl⟩

theorem size_eq_length_pairs (map : SlotMap) : map.size = map.pairs.length := by
  rw [size, pairs, List.length_map, Std.ExtTreeMap.length_toList]

theorem contains_iff (map : SlotMap) (name : String) :
    map.contains name = true ↔ ∃ value, map.get? name = some value := by
  rw [contains, get?, Std.ExtTreeMap.contains_eq_isSome_getElem?, ← Option.isSome_iff_exists,
    Option.isSome_map]

theorem Sound.main (sound : Sound map) :
    ∃ value, map.entries[mainName]? = some ⟨mainName, value⟩ := by
  obtain ⟨⟨name, value⟩, held⟩ :=
    Option.isSome_iff_exists.mp (Std.ExtTreeMap.mem_iff_isSome_getElem?.mp sound.present)
  obtain rfl : name = mainName := (sound.named mainName _ held).2 rfl
  exact ⟨value, held⟩

theorem Sound.isEmpty (sound : Sound map) : map.isEmpty = false := by
  rw [SlotMap.isEmpty, Std.ExtTreeMap.isEmpty_eq_false_iff]
  intro empty
  have present := sound.present
  rw [empty] at present
  exact Std.ExtTreeMap.not_mem_empty present

theorem Sound.untrustMain_isAllTrusted (sound : Sound map) : map.untrustMain.isAllTrusted = false := by
  obtain ⟨value, held⟩ := sound.main
  have untrusted : map.untrustMain.entries[mainName]? = some ⟨mainName, value.toUntrusted⟩ := by
    rw [SlotMap.untrustMain, held]
    exact Std.ExtTreeMap.getElem?_insert_self
  exact isAllTrusted_eq_false_of_main untrusted rfl

theorem Sound.forceAllUntrusted_isAllTrusted (sound : Sound map) :
    map.forceAllUntrusted.isAllTrusted = false := by
  obtain ⟨value, held⟩ := sound.main
  have untrusted : map.forceAllUntrusted.entries[mainName]? = some ⟨mainName, value.toUntrusted⟩ := by
    rw [getElem?_forceAllUntrusted, held]
    rfl
  exact isAllTrusted_eq_false_of_main untrusted rfl

end Listing

section Order
variable {map : SlotMap} {order : List (String × Slot)}

theorem nodup_toList (map : SlotMap) : map.entries.toList.Nodup := by
  refine List.Pairwise.of_map (S := (· ≠ ·)) (·.1)
    (fun one other apart same => apart (congrArg Prod.fst same)) ?_
  rw [Std.ExtTreeMap.map_fst_toList_eq_keys]
  exact Std.ExtTreeMap.nodup_keys

theorem nodup_keys_of_perm (same : order.Perm map.entries.toList) : (order.map (·.1)).Nodup := by
  rw [(same.map _).nodup_iff, Std.ExtTreeMap.map_fst_toList_eq_keys]
  exact Std.ExtTreeMap.nodup_keys

/-- In whatever order a map is gone through, the entry under a key is the one that is held there. -/
theorem find?_of_perm (same : order.Perm map.entries.toList) (key : String) :
    (order.find? fun entry => entry.1 = key).map (·.2) = map.entries[key]? := by
  cases found : order.find? fun entry => entry.1 = key with
  | some entry =>
    have own : entry.1 = key := by simpa using List.find?_some found
    have member := same.mem_iff.mp (List.mem_of_find?_eq_some found)
    rw [← own, Std.ExtTreeMap.mem_toList_iff_getElem?_eq_some.mp member]
    rfl
  | none =>
    rw [List.find?_eq_none] at found
    refine (Option.eq_none_iff_forall_not_mem.mpr fun slot held => ?_).symm
    have member := Std.ExtTreeMap.mem_toList_iff_getElem?_eq_some.mpr held
    exact found (key, slot) (same.mem_iff.mpr member) (decide_eq_true rfl)

end Order

end SlotMap

end TaintTracking
