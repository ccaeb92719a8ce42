import TaintTracking.Proofs.Store.SlotMap

/-!
A store and the one map of its variables. Main statement: in every map that can be made the main variable
is there and is listed under its exact name, every entry stands under the lowercase of its name, and no
two listed names fall together; so tainting the main variable is never without effect. The maps that can
be made are those of the stores that can be made, and every operation does to the map of a store what it
does to the store.
-/

namespace TaintTracking

namespace SlotMap

/-! The map of a store, which every operation changes as it changes the store. -/

section OfStore
variable (store : Store)

theorem getElem?_toMap (key : String) : store.toMap.entries[key]? = store.slot? key := by
  rw [Store.toMap, getElem?_insert ⟨store.others⟩, Store.slot?]
  simp only [eq_comm]

theorem toMap_setValue (name : String) (value : TaintedValue) :
    (store.setValue name value).toMap = store.toMap.setValue name value := by
  refine ext_getElem? fun key => ?_
  rw [getElem?_toMap, Store.slot?_setValue, setValue, getElem?_put, getElem?_toMap]

/-- The main entry of a store is there, so clearing it leaves it under its name. -/
theorem getElem?_clear_toMap (key written : String) (value : TaintedValue) (other : String) :
    (if key = mainName then store.toMap.put key written value
      else store.toMap.erase key : SlotMap).entries[other]? =
      if key = other then Store.cleared other value else store.slot? other := by
  split
  next main =>
    rw [getElem?_put, getElem?_toMap]
    by_cases here : key = other
    · rw [if_pos here, if_pos here, ← here, main, store.slot?_mainName, Store.cleared, if_pos rfl]
      rfl
    · rw [if_neg here, if_neg here]
  next free =>
    rw [getElem?_erase, getElem?_toMap]
    by_cases here : key = other
    · rw [if_pos here, if_pos here, Store.cleared, ← here, if_neg free]
    · rw [if_neg here, if_neg here]

theorem toMap_set (name : String) (content : Option String) (trusted : Bool) :
    (store.set name content trusted).toMap = store.toMap.set name content trusted := by
  cases content with
  | some content => exact toMap_setValue store name ⟨content, trusted⟩
  | none =>
    refine ext_getElem? fun key => ?_
    rw [getElem?_toMap, Store.slot?_set_none]
    exact (getElem?_clear_toMap store (normalize name) name ⟨"", trusted⟩ key).symm

theorem get?_toMap (name : String) : store.toMap.get? name = store.get? name := by
  rw [get?, getElem?_toMap, Store.get?]

theorem toMap_remove (name : String) :
    store.toMap.remove name = (store.get? name, (store.remove name).toMap) := by
  have left : (store.toMap.remove name).2 = (store.remove name).toMap := by
    refine ext_getElem? fun key => ?_
    rw [getElem?_toMap, Store.slot?_remove, remove, apply_ite Prod.snd]
    exact getElem?_clear_toMap store (normalize name) mainName TaintedValue.empty key
  have previous : (store.toMap.remove name).1 = store.get? name := by
    rw [remove, apply_ite Prod.fst, ← get?_toMap]
    split
    next main => rw [get?, get?, main, normalize_mainName]
    next => rfl
  exact Prod.ext previous left

theorem toMap_with_main (main : TaintedValue) :
    ({ store with main } : Store).toMap = ⟨store.toMap.entries.insert mainName ⟨mainName, main⟩⟩ := by
  refine ext_getElem? fun key => ?_
  rw [getElem?_toMap, Store.slot?_with_main, getElem?_insert, getElem?_toMap]
  simp only [eq_comm]

theorem toMap_updateMain (content : String) (trusted : Bool) :
    (store.updateMain content trusted).toMap = store.toMap.updateMain content trusted := by
  rw [updateMain, ← toMap_setValue, Store.setValue, normalize_mainName, if_pos rfl, Store.updateMain]

theorem toMap_updateMainPreservingTrust (content : String) (trusted : Bool) :
    (store.updateMainPreservingTrust content trusted).toMap =
      store.toMap.updateMainPreservingTrust content trusted := by
  rw [Store.updateMainPreservingTrust, toMap_with_main, updateMainPreservingTrust, getElem?_toMap,
    store.slot?_mainName, Option.getD_some]

theorem toMap_untrustMain : store.untrustMain.toMap = store.toMap.untrustMain := by
  rw [Store.untrustMain, toMap_with_main, untrustMain, getElem?_toMap, store.slot?_mainName]

theorem toMap_forceAllUntrusted : store.forceAllUntrusted.toMap = store.toMap.forceAllUntrusted := by
  refine ext_getElem? fun key => ?_
  rw [getElem?_toMap, Store.slot?_forceAllUntrusted, getElem?_forceAllUntrusted, getElem?_toMap]

theorem contains_mainName_toMap : store.toMap.entries.contains mainName = true := by
  rw [Std.ExtTreeMap.contains_eq_isSome_getElem?, getElem?_toMap, store.slot?_mainName]
  rfl

/-- The incoming main entry is put with the others, so none has to be put back. -/
theorem toMap_merge (incoming : Store) {order : List (String × Slot)}
    (same : order.Perm incoming.toMap.entries.toList) (discard : Bool) :
    (store.merge incoming discard).toMap = store.toMap.merge order discard := by
  have merged : (if discard then ⟨∅⟩ else store.toMap : SlotMap).putAll order =
      (store.merge incoming discard).toMap := by
    refine ext_getElem? fun key => ?_
    rw [getElem?_putAll _ (nodup_keys_of_perm same), find?_of_perm same, getElem?_toMap, getElem?_toMap,
      Store.slot?_merge]
    cases discard with
    | true => rw [if_pos rfl, if_pos rfl, Std.ExtTreeMap.getElem?_empty]
    | false => rw [if_neg Bool.false_ne_true, if_neg Bool.false_ne_true, getElem?_toMap]
  rw [merge, merged, if_pos (contains_mainName_toMap _)]

theorem toList_toMap_perm (keyed : Store.Keyed store.others) :
    store.toMap.entries.toList.Perm ((mainName, ⟨mainName, store.main⟩) :: store.others.toList) := by
  have free : (mainName, ⟨mainName, store.main⟩) ∉ store.others.toList := by
    rw [Std.ExtTreeMap.mem_toList_iff_getElem?_eq_some, keyed.main]
    exact nofun
  have distinct := List.nodup_cons.mpr ⟨free, nodup_toList ⟨store.others⟩⟩
  refine (List.perm_ext_iff_of_nodup (nodup_toList _) distinct).mpr ?_
  rintro ⟨key, slot⟩
  rw [Std.ExtTreeMap.mem_toList_iff_getElem?_eq_some, getElem?_toMap, List.mem_cons,
    Std.ExtTreeMap.mem_toList_iff_getElem?_eq_some, Prod.mk.injEq]
  by_cases main : key = mainName
  · rw [main, store.slot?_mainName, keyed.main]
    simp [eq_comm]
  · rw [store.slot?_of_ne main]
    simp [main]

theorem size_toMap (keyed : Store.Keyed store.others) : store.toMap.size = store.size := by
  rw [size, ← Std.ExtTreeMap.length_toList, (toList_toMap_perm store keyed).length_eq,
    List.length_cons, Std.ExtTreeMap.length_toList, Store.size]

end OfStore

/-- A store and a map that answer alike and that the operations change alike. -/
structure Mirrors (store : Store) (map : SlotMap) : Prop where
  get? : ∀ name, map.get? name = store.get? name
  get : ∀ name, map.get name = store.get name
  contains : ∀ name, map.contains name = store.contains name
  main : map.main = store.main
  pairs : map.pairs.Perm (store.slots.map fun slot => (slot.name, slot.value.content))
  isAllTrusted : map.isAllTrusted = store.isAllTrusted
  size : map.size = store.size
  isEmpty : map.isEmpty = store.isEmpty
  set : ∀ name content trusted,
    map.set name content trusted = (store.set name content trusted).toMap
  setValue : ∀ name value, map.setValue name value = (store.setValue name value).toMap
  insert : ∀ name content, map.insert name content = (store.insert name content).toMap
  remove : ∀ name, map.remove name = (store.get? name, (store.remove name).toMap)
  updateMain : ∀ content trusted,
    map.updateMain content trusted = (store.updateMain content trusted).toMap
  updateMainPreservingTrust : ∀ content trusted,
    map.updateMainPreservingTrust content trusted =
      (store.updateMainPreservingTrust content trusted).toMap
  untrustMain : map.untrustMain = store.untrustMain.toMap
  forceAllUntrusted : map.forceAllUntrusted = store.forceAllUntrusted.toMap
  merge : ∀ (incoming : Store) (order : List (String × Slot)) (discard : Bool),
    order.Perm incoming.toMap.entries.toList →
      map.merge order discard = (store.merge incoming discard).toMap

theorem mirrors_toMap {store : Store} (keyed : Store.Keyed store.others) : Mirrors store store.toMap where
  get? := get?_toMap store
  get name := by rw [get, get?_toMap, Store.get]
  contains name := by
    rw [contains, Std.ExtTreeMap.contains_eq_isSome_getElem?, getElem?_toMap, Store.contains]
  main := by
    rw [main, get, get?_toMap, Store.get?_eq_map_slot?, normalize_mainName, store.slot?_mainName]
    rfl
  pairs := by
    refine ((toList_toMap_perm store keyed).map _).trans (.of_eq ?_)
    rw [Store.slots, List.map_cons, List.map_cons, List.map_map]
    rfl
  isAllTrusted := by
    rw [isAllTrusted, (toList_toMap_perm store keyed).all_eq, Store.isAllTrusted, Store.slots,
      List.all_cons, List.all_cons, List.all_map]
    rfl
  size := size_toMap store keyed
  isEmpty := by
    rw [isEmpty, Std.ExtTreeMap.isEmpty_eq_size_beq_zero, Store.isEmpty, ← size_toMap store keyed, size]
  set name content trusted := (toMap_set store name content trusted).symm
  setValue name value := (toMap_setValue store name value).symm
  insert name content := (toMap_setValue store name (.ofText content)).symm
  remove := toMap_remove store
  updateMain content trusted := (toMap_updateMain store content trusted).symm
  updateMainPreservingTrust content trusted :=
    (toMap_updateMainPreservingTrust store content trusted).symm
  untrustMain := (toMap_untrustMain store).symm
  forceAllUntrusted := (toMap_forceAllUntrusted store).symm
  merge incoming order discard same := (toMap_merge store incoming same discard).symm

theorem Reachable.of_store {store : Store} (reachable : Store.Reachable store) :
    Reachable store.toMap := by
  induction reachable with
  | new => exact .new
  | ofMain main => exact .ofMain main
  | @edit store reachable change incoming ih arriving =>
    cases change with
    | set name content trusted =>
      exact toMap_set store name content trusted ▸ ih.set name content trusted
    | setValue name value => exact toMap_setValue store name value ▸ ih.setValue name value
    | insert name content => exact toMap_setValue store name (.ofText content) ▸ ih.insert name content
    | remove name =>
      have left := ih.remove name
      rw [toMap_remove] at left
      exact left
    | updateMain content trusted =>
      exact toMap_updateMain store content trusted ▸ ih.updateMain content trusted
    | updateMainPreservingTrust content trusted =>
      exact toMap_updateMainPreservingTrust store content trusted ▸
        ih.updateMainPreservingTrust content trusted
    | untrustMain => exact toMap_untrustMain store ▸ ih.untrustMain
    | forceAllUntrusted => exact toMap_forceAllUntrusted store ▸ ih.forceAllUntrusted
    | merge other discard =>
      exact toMap_merge store other (.refl _) discard ▸
        ih.merge (arriving other discard rfl) (.refl _) discard

/-- Each map that can be made is that of a store that can be made. -/
theorem Reachable.exists_store {map : SlotMap} (reachable : Reachable map) :
    ∃ store, Store.Reachable store ∧ store.toMap = map := by
  induction reachable with
  | new => exact ⟨.new, .new, rfl⟩
  | ofMain main => exact ⟨.ofMain main, .ofMain main, rfl⟩
  | set _ name content trusted ih =>
    obtain ⟨store, made, rfl⟩ := ih
    exact ⟨_, made.edit (.set name content trusted) nofun, toMap_set store name content trusted⟩
  | setValue _ name value ih =>
    obtain ⟨store, made, rfl⟩ := ih
    exact ⟨_, made.edit (.setValue name value) nofun, toMap_setValue store name value⟩
  | insert _ name content ih =>
    obtain ⟨store, made, rfl⟩ := ih
    exact ⟨_, made.edit (.insert name content) nofun, toMap_setValue store name (.ofText content)⟩
  | remove _ name ih =>
    obtain ⟨store, made, rfl⟩ := ih
    exact ⟨_, made.edit (.remove name) nofun, (congrArg Prod.snd (toMap_remove store name)).symm⟩
  | updateMain _ content trusted ih =>
    obtain ⟨store, made, rfl⟩ := ih
    exact ⟨_, made.edit (.updateMain content trusted) nofun, toMap_updateMain store content trusted⟩
  | updateMainPreservingTrust _ content trusted ih =>
    obtain ⟨store, made, rfl⟩ := ih
    exact ⟨_, made.edit (.updateMainPreservingTrust content trusted) nofun,
      toMap_updateMainPreservingTrust store content trusted⟩
  | untrustMain _ ih =>
    obtain ⟨store, made, rfl⟩ := ih
    exact ⟨_, made.edit .untrustMain nofun, toMap_untrustMain store⟩
  | forceAllUntrusted _ ih =>
    obtain ⟨store, made, rfl⟩ := ih
    exact ⟨_, made.edit .forceAllUntrusted nofun, toMap_forceAllUntrusted store⟩
  | merge _ _ same discard ih arriving =>
    obtain ⟨store, made, rfl⟩ := ih
    obtain ⟨other, madeOther, rfl⟩ := arriving
    refine ⟨_, made.edit (.merge other discard) fun incoming _ merged => ?_,
      toMap_merge store other same discard⟩
    cases merged
    exact madeOther

/-- Every store that can be made is mirrored by a map that can be made, and every such map comes from such
a store. In each of these maps the main variable is there and listed under its exact name; every entry
stands under the lowercase of its name, which is how it is listed; no two listed names have the same
lowercase; the size counts them. Therefore no taint is without effect, and a missing variable reads as
empty and trusted. -/
theorem main_entry_kept :
    (∀ store, Store.Reachable store → Reachable store.toMap ∧ Mirrors store store.toMap) ∧
    ∀ map, Reachable map →
      (∃ store, Store.Reachable store ∧ store.toMap = map) ∧
      (∃ value, map.entries["input"]? = some ⟨"input", value⟩ ∧
        ("input", value.content) ∈ map.pairs) ∧
      (∀ key slot, map.entries[key]? = some slot → key = normalize slot.name) ∧
      (∀ name content, (name, content) ∈ map.pairs ↔
        ∃ slot, map.entries[normalize name]? = some slot ∧ slot.name = name ∧
          slot.value.content = content) ∧
      (map.pairs.map fun pair => normalize pair.1).Nodup ∧
      map.size = map.pairs.length ∧ map.isEmpty = false ∧
      map.untrustMain.isAllTrusted = false ∧ map.forceAllUntrusted.isAllTrusted = false ∧
      (∀ name, map.get name = (map.get? name).getD ⟨"", true⟩) ∧
      ∀ name, map.contains name = true ↔ ∃ value, map.get? name = some value := by
  refine ⟨fun store reachable => ⟨.of_store reachable, mirrors_toMap reachable.keyed⟩,
    fun map reachable => ?_⟩
  have sound := reachable.sound
  obtain ⟨value, held⟩ := sound.main
  have listed : (mainName, value.content) ∈ map.pairs :=
    (mem_pairs_iff sound.named).mpr ⟨_, normalize_mainName.symm ▸ held, rfl, rfl⟩
  refine ⟨reachable.exists_store, ⟨value, held, listed⟩,
    fun key slot found => (sound.named key slot found).1.symm,
    fun name content => mem_pairs_iff sound.named, ?_, map.size_eq_length_pairs, sound.isEmpty, sound.untrustMain_isAllTrusted,
    sound.forceAllUntrusted_isAllTrusted, fun name => rfl, map.contains_iff⟩
  rw [keys_pairs sound.named]
  exact Std.ExtTreeMap.nodup_keys

/-- Merged into itself with nothing kept, after which the main variable is cleared under another casing. -/
def selfMerged : SlotMap :=
  let city := new.insert "City" "Lisbon"
  (city.merge city.entries.toList.reverse true).set "INPUT" none false

theorem selfMerged_reachable : Reachable selfMerged := by
  have city : Reachable (new.insert "City" "Lisbon") := .insert .new "City" "Lisbon"
  exact .set (.merge city city (List.reverse_perm _) true) "INPUT" none false

/-- The main variable is there under its own name, cleared, and `City` as it was first written. -/
theorem main_entry_kept_selfMerged :
    Reachable selfMerged ∧ selfMerged.entries["input"]? = some ⟨"input", ⟨"", false⟩⟩ ∧
      ("input", "") ∈ selfMerged.pairs ∧ ("City", "Lisbon") ∈ selfMerged.pairs ∧
      (selfMerged.pairs.map fun pair => normalize pair.1).Nodup ∧
      selfMerged.untrustMain.isAllTrusted = false := by
  obtain ⟨-, kept⟩ := main_entry_kept
  obtain ⟨-, ⟨value, held, main⟩, -, listed, distinct, -, -, untrusted, -⟩ :=
    kept selfMerged selfMerged_reachable
  have cleared : selfMerged.entries["input"]? = some ⟨"input", ⟨"", false⟩⟩ := by decide +kernel
  have city : selfMerged.entries["city"]? = some ⟨"City", ⟨"Lisbon", true⟩⟩ := by decide +kernel
  obtain rfl : value = ⟨"", false⟩ := by
    rw [held] at cleared
    injection cleared with same
    injection same
  have key : normalize "City" = "city" := by decide +kernel
  exact ⟨selfMerged_reachable, held, main, (listed _ _).mpr ⟨_, key ▸ city, rfl, rfl⟩, distinct,
    untrusted⟩

end SlotMap

end TaintTracking
