import TaintTracking.Store.Edit

/-!
When a store is trusted as a whole, and what the edits of the main variable do to its trust.
-/

namespace TaintTracking.Store
variable (store : Store)

theorem isAllTrusted_iff :
    store.isAllTrusted = true ↔ ∀ slot ∈ store.slots, slot.value.trusted = true := by
  simp [isAllTrusted]

theorem isAllTrusted_eq_false_iff :
    store.isAllTrusted = false ↔ ∃ slot ∈ store.slots, slot.value.trusted = false := by
  simp [isAllTrusted]

theorem isAllTrusted_of_main_untrusted {store : Store} (untrusted : store.main.trusted = false) :
    store.isAllTrusted = false :=
  store.isAllTrusted_eq_false_iff.mpr ⟨⟨mainName, store.main⟩, List.mem_cons_self .., untrusted⟩

theorem edit_untrustMain : store.edit .untrustMain = { store with main := ⟨store.main.content, false⟩ } :=
  rfl

theorem edit_updateMainPreservingTrust (content : String) (trusted : Bool) :
    store.edit (.updateMainPreservingTrust content trusted) =
      { store with main := ⟨content, store.main.trusted && trusted⟩ } := rfl

end TaintTracking.Store
