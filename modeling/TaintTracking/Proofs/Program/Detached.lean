import TaintTracking.Proofs.Program.Simulation

/-!
Programs without a context. Main statement: a program that is given none, as a backend is, writes to no store
that was there before it, whatever contexts it makes and whatever functions it invokes on them.
-/

namespace TaintTracking

/-- What was there at some moment: the numbers handed out by then, and the stores. -/
structure Past where
  issued : Nat
  stores : StoreId → Store

namespace Past
variable (past : Past)

/-- The stores of the past are as they were. -/
structure Intact (s : Session) : Prop where
  issued : past.issued ≤ s.issued
  stores : ∀ id < past.issued, s.stores id = past.stores id

namespace Intact
variable {past} {s : Session} (intact : past.Intact s)
include intact

theorem putStore {context : Context} (new : past.issued ≤ context.store) (store : Store) :
    past.Intact (s.putStore context store) := by
  refine ⟨intact.issued, fun id old => ?_⟩
  have apart : id ≠ context.store := Nat.ne_of_lt (Nat.lt_of_lt_of_le old new)
  exact (if_neg apart).trans (intact.stores id old)

theorem issue : past.Intact s.issue.2 := ⟨Nat.le_succ_of_le intact.issued, intact.stores⟩

theorem sleep (ms : Nat) : past.Intact (s.sleep ms) := by
  constructor
  · rw [Session.sleep_issued]
    exact intact.issued
  · rw [Session.sleep_stores]
    exact intact.stores

end Intact

/-- A session in which the past is intact, and contexts on later stores. -/
def simulation : Simulation where
  sessions s t := t = s ∧ past.Intact s
  contexts _ c d := d = c ∧ past.issued ≤ c.store
  tokens _ token other := other = token
  guards _ := True
  held _ := True
  contexts_mono _ same := same
  tokens_mono _ same := same
  error related := congrArg Context.error related.1
  description related := congrArg Context.description related.1
  fail related error := ⟨congrArg (·.fail error) related.1, related.2⟩
  clearError related := ⟨congrArg Context.clearError related.1, related.2⟩
  storeOf := by
    rintro _ s _ c ⟨rfl, -⟩ ⟨rfl, -⟩
    rfl
  edit := by
    rintro _ s _ c ⟨rfl, intact⟩ ⟨rfl, new⟩ change
    exact ⟨rfl, intact.putStore new _⟩
  newContext := by
    rintro _ s ⟨rfl, intact⟩ store
    have new : past.issued ≤ (Context.new s.issued s.issued).store := intact.issued
    exact ⟨⟨rfl, new⟩, rfl, intact.issue.putStore new store⟩
  cloneContext := by
    rintro _ s _ c ⟨rfl, intact⟩ ⟨rfl, -⟩
    have new : past.issued ≤ { c with store := s.issued }.store := intact.issued
    exact ⟨⟨rfl, new⟩, rfl, intact.issue.putStore new _⟩
  newToken := by
    rintro _ s ⟨rfl, intact⟩
    exact ⟨rfl, rfl, intact.issue⟩
  isCancelled := by
    rintro _ s _ token ⟨rfl, -⟩ rfl
    rfl
  cancel := by
    rintro _ s _ token ⟨rfl, intact⟩ rfl
    exact ⟨rfl, intact.issued, intact.stores⟩
  cancelHeld := by
    rintro _ s token ⟨rfl, intact⟩ -
    exact ⟨rfl, intact.issued, intact.stores⟩
  sleep := by
    rintro _ s ⟨rfl, intact⟩ ms
    exact ⟨rfl, intact.sleep ms⟩
  setForce := by
    rintro _ s ⟨rfl, intact⟩ flag force
    exact ⟨rfl, intact.issued, intact.stores⟩
  record := by
    rintro _ s ⟨rfl, intact⟩ event
    exact ⟨rfl, intact.issued, intact.stores⟩
  forcesUntrusted := by
    rintro _ s guard ⟨rfl, -⟩ -
    rfl
  answersAlike := by
    rintro _ s guard ⟨rfl, -⟩ -
    exact Policy.AnswersAlike.of_eq rfl guard.policy
  account := by
    rintro _ s ⟨rfl, intact⟩ id descriptor store verdict
    exact ⟨rfl, intact.issued, intact.stores⟩

end Past

/-- A program that is given no context writes to no store that was there. -/
theorem Program.stores_run_detached {output : OutputShape} (program : Program output 0) (scope : Scope 0)
    (token : Option TokenId) (s : Session) {id : StoreId} (old : id < s.issued) :
    (program.run scope token s).2.stores id = s.stores id := by
  let past : Past := ⟨s.issued, s.stores⟩
  have given : Option.Rel (fun token other => other = token) token token := by
    cases token with
    | none => exact .none
    | some token => exact .some rfl
  have ends := program.run_simulates past.simulation (program.everyGuard_of_forall fun _ => True.intro)
    (program.holdsOnly_of_forall fun _ => True.intro)
    (show past.simulation.sessions s s from ⟨rfl, Nat.le_refl _, fun _ _ => rfl⟩)
    (show ∀ i, past.simulation.contexts s.issued (scope i) (scope i) from fun i => i.elim0) given
  exact ends.2.2.stores id old

end TaintTracking
