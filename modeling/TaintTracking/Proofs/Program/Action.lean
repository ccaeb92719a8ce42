import TaintTracking.Program.Run
import TaintTracking.Proofs.Session.Trail
import TaintTracking.Proofs.Store.Trust

/-!
What the actions of a program, the contexts it makes and the outputs let in do to the session: which
store they write to, and what they leave on the trail.
-/

namespace TaintTracking

/-- What a program itself can leave on the trail. -/
def Event.IsRemark : Event → Prop
  | .noted _ => True
  | .logged _ => True
  | _ => False

namespace Action
variable {n : Nat} (scope : Scope n) (token : Option TokenId) (s : Session)

/-- The store that the action writes to, if it writes to one. -/
def target? (scope : Scope n) : Action n → Option StoreId
  | .edit context _ => some (scope context).store
  | _ => none

theorem perform_issued (action : Action n) : (action.perform scope token s).2.2.issued = s.issued := by
  cases action with
  | sleep ms => exact s.sleep_issued ms
  | cancel => cases token <;> rfl
  | _ => rfl

theorem perform_records (action : Action n) :
    s.Records Event.IsRemark (action.perform scope token s).2.2 := by
  cases action with
  | note text => exact .of_trail_cons (Session.record_trail ..) trivial
  | log entry => exact .of_trail_cons (Session.log_trail ..) trivial
  | sleep ms =>
    rcases s.sleep_trail ms with quiet | ⟨entry, rang⟩
    · exact .of_trail_eq quiet
    · exact .of_trail_cons rang trivial
  | cancel => cases token <;> exact .of_trail_eq rfl
  | _ => exact .of_trail_eq rfl

theorem perform_stores (action : Action n) {id : StoreId} (untouched : action.target? scope ≠ some id) :
    (action.perform scope token s).2.2.stores id = s.stores id := by
  cases action with
  | edit context change =>
    refine s.stores_edit_of_ne (scope context) change ?_
    rintro rfl
    exact untouched rfl
  | sleep ms => exact congrFun (s.sleep_stores ms) id
  | cancel => cases token <;> rfl
  | _ => rfl

/-- An action may change the error of a context in scope, and never its store. -/
theorem perform_scope_store (action : Action n) (position : Fin n) :
    ((action.perform scope token s).2.1 position).store = (scope position).store := by
  cases action with
  | fail context error =>
    simp only [perform, Scope.set]
    split
    next same => rw [same]; rfl
    next => rfl
  | clearError context =>
    simp only [perform, Scope.set]
    split
    next same => rw [same]; rfl
    next => rfl
  | _ => rfl

end Action

namespace Origin
variable {n : Nat} (scope : Scope n) (s : Session)

theorem create_issued_le (origin : Origin n) : s.issued ≤ (origin.create scope s).2.issued := by
  cases origin with
  | share context => exact Nat.le_refl _
  | _ => exact Nat.le_succ _

theorem create_trail (origin : Origin n) : (origin.create scope s).2.trail = s.trail := by
  cases origin <;> rfl

theorem create_stores (origin : Origin n) {id : StoreId} (old : id < s.issued) :
    (origin.create scope s).2.stores id = s.stores id := by
  cases origin with
  | fresh store => exact s.newContext_stores_of_lt store old
  | share context => rfl
  | clone context => exact s.cloneContext_stores_of_lt (scope context) old

end Origin

namespace OutputShape
variable (caller : Context) (trusted : Bool) (s : Session)

theorem settle_issued (shape : OutputShape) (result : shape.Result) :
    (shape.settle caller trusted s result).2.issued = s.issued := by
  cases shape with
  | nothing => cases trusted <;> rfl
  | text => rfl
  | context => rfl

theorem settle_trail (shape : OutputShape) (result : shape.Result) :
    (shape.settle caller trusted s result).2.trail = s.trail := by
  cases shape with
  | nothing => cases trusted <;> rfl
  | text => rfl
  | context => rfl

theorem settle_stores_of_ne (shape : OutputShape) (result : shape.Result) {id : StoreId}
    (other : id ≠ caller.store) : (shape.settle caller trusted s result).2.stores id = s.stores id := by
  cases shape with
  | nothing =>
    cases trusted with
    | false => exact s.stores_edit_of_ne caller .untrustMain other
    | true => rfl
  | text => exact s.stores_edit_of_ne caller (.updateMainPreservingTrust result trusted) other
  | context => rfl

theorem settle_consultations (shape : OutputShape) (result : shape.Result) :
    (shape.settle caller trusted s result).2.consultations = s.consultations := by
  cases shape with
  | nothing => cases trusted <;> rfl
  | text => rfl
  | context => rfl

theorem settle_forced (shape : OutputShape) (result : shape.Result) :
    (shape.settle caller trusted s result).2.forced = s.forced := by
  cases shape with
  | nothing => cases trusted <;> rfl
  | text => rfl
  | context => rfl

/-- Unless the context is replaced, the caller continues with its own. -/
theorem settle_context {shape : OutputShape} (inPlace : shape ≠ .context) (result : shape.Result) :
    (shape.settle caller trusted s result).1 = caller := by
  cases shape with
  | nothing => rfl
  | text => rfl
  | context => exact absurd rfl inPlace

theorem settle_others (shape : OutputShape) (result : shape.Result) :
    ((shape.settle caller trusted s result).2.storeOf caller).others =
      (s.storeOf caller).others := by
  cases shape with
  | nothing => cases trusted <;> simp [settle, Store.edit_untrustMain]
  | text => simp [settle, Store.edit_updateMainPreservingTrust]
  | context => rfl

theorem settle_main_trusted {shape : OutputShape} (inPlace : shape ≠ .context)
    (result : shape.Result) :
    ((shape.settle caller trusted s result).2.storeOf caller).main.trusted =
      ((s.storeOf caller).main.trusted && trusted) := by
  cases shape with
  | nothing => cases trusted <;> simp [settle, Store.edit_untrustMain]
  | text => simp [settle, Store.edit_updateMainPreservingTrust]
  | context => exact absurd rfl inPlace

/-- The content of the main variable after the output, where it was `old` before. -/
def settledContent (old : String) : (shape : OutputShape) → shape.Result → String
  | .nothing, _ => old
  | .text, content => content
  | .context, _ => old

theorem settle_main_content (shape : OutputShape) (result : shape.Result) :
    ((shape.settle caller trusted s result).2.storeOf caller).main.content =
      shape.settledContent (s.storeOf caller).main.content result := by
  cases shape with
  | nothing => cases trusted <;> simp [settle, settledContent, Store.edit_untrustMain]
  | text => simp [settle, settledContent, Store.edit_updateMainPreservingTrust]
  | context => rfl

/-- An output that does not replace the context changes the main variable of the caller and nothing else. -/
theorem settle_store {shape : OutputShape} (inPlace : shape ≠ .context) (result : shape.Result) :
    (shape.settle caller trusted s result).2.storeOf caller =
      { main := ⟨shape.settledContent (s.storeOf caller).main.content result,
          (s.storeOf caller).main.trusted && trusted⟩
        others := (s.storeOf caller).others } := by
  rw [← settle_main_content caller trusted s shape result, ← settle_main_trusted caller trusted s inPlace,
    ← settle_others caller trusted s shape result]

end OutputShape

end TaintTracking
