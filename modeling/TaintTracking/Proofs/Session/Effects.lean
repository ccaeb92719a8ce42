import TaintTracking.Session.Basic

/-!
What each operation of a session does to the stores, to the numbers handed out and to the trail. A
context that the session knows keeps its store, whatever new identities are handed out.
-/

namespace TaintTracking.Session

/-- The store of the context is one that the session has handed out. -/
def HasStore (s : Session) (context : Context) : Prop := context.store < s.issued

instance (s : Session) (context : Context) : Decidable (s.HasStore context) :=
  inferInstanceAs (Decidable (context.store < s.issued))

section Trail
variable (s : Session)

@[simp] theorem record_issued (event : Event) : (s.record event).issued = s.issued := rfl

@[simp] theorem record_trail (event : Event) : (s.record event).trail = event :: s.trail := rfl

@[simp] theorem log_trail (entry : Log.Entry) : (s.log entry).trail = .logged entry :: s.trail := rfl

end Trail

section Stores
variable (s : Session) (context : Context)

theorem storeOf_congr {s t : Session} (same : t.stores = s.stores) (context : Context) :
    t.storeOf context = s.storeOf context := by
  rw [storeOf, same, storeOf]

@[simp] theorem storeOf_record (event : Event) :
    (s.record event).storeOf context = s.storeOf context := rfl

@[simp] theorem storeOf_edit (change : Store.Edit) :
    (s.edit context change).storeOf context = (s.storeOf context).edit change := by
  simp [edit, putStore, storeOf, assign]

theorem stores_edit_of_ne (change : Store.Edit) {id : StoreId} (other : id ≠ context.store) :
    (s.edit context change).stores id = s.stores id := by
  simp [edit, putStore, assign, other]

end Stores

section Identities
variable (s : Session)

theorem newContext_stores_of_lt (store : Store) {id : StoreId} (old : id < s.issued) :
    (s.newContext store).2.stores id = s.stores id := by
  simp [newContext, issue, putStore, Context.new, assign, Nat.ne_of_lt old]

/-- A new run shows its variables and no error. -/
theorem view_newContext (store : Store) :
    (s.newContext store).2.view (s.newContext store).1 = ⟨store, none, ""⟩ := by
  simp [newContext, issue, putStore, view, storeOf, Context.new, assign]

theorem cloneContext_stores_of_lt (context : Context) {id : StoreId} (old : id < s.issued) :
    (s.cloneContext context).2.stores id = s.stores id := by
  simp [cloneContext, issue, putStore, assign, Nat.ne_of_lt old]

end Identities

section Time
variable (s : Session)

@[simp] theorem sleep_stores (ms : Nat) : (s.sleep ms).stores = s.stores := by
  simp only [sleep]
  repeat' split
  all_goals rfl

@[simp] theorem sleep_issued (ms : Nat) : (s.sleep ms).issued = s.issued := by
  simp only [sleep]
  repeat' split
  all_goals rfl

@[simp] theorem sleep_forced (ms : Nat) : (s.sleep ms).forced = s.forced := by
  simp only [sleep]
  repeat' split
  all_goals rfl

@[simp] theorem sleep_consultations (ms : Nat) : (s.sleep ms).consultations = s.consultations := by
  simp only [sleep]
  repeat' split
  all_goals rfl

theorem sleep_of_quiet {s : Session} (quiet : s.alarm = none) (ms : Nat) :
    s.sleep ms = { s with now := s.now + ms } := by
  simp [sleep, quiet]

theorem sleep_of_early {s : Session} {alarm : Alarm} (set : s.alarm = some alarm) {ms : Nat}
    (early : s.now + ms ≤ alarm.due) : s.sleep ms = { s with now := s.now + ms } := by
  simp [sleep, set, Nat.not_lt.mpr early]

theorem sleep_of_due {s : Session} {alarm : Alarm} (set : s.alarm = some alarm) {ms : Nat}
    (due : alarm.due < s.now + ms) : s.sleep ms = { s with now := s.now + ms }.ring alarm := by
  simp [sleep, set, due]

/-- An alarm that rings leaves a log entry. -/
theorem sleep_trail (ms : Nat) :
    (s.sleep ms).trail = s.trail ∨ ∃ entry, (s.sleep ms).trail = .logged entry :: s.trail := by
  simp only [sleep]
  split
  next alarm _ =>
    split
    · exact .inr ⟨.cancellingRun alarm.delay, rfl⟩
    · exact .inl rfl
  next => exact .inl rfl

end Time

end TaintTracking.Session
