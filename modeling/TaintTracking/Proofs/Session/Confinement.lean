import TaintTracking.Proofs.Program.Simulation
import TaintTracking.Proofs.Session.Tokens

/-!
Functions make no identities up: they write to the store of the context that they are given and to stores
handed out since, and cancel tokens that they were given or that were handed out since.
-/

namespace TaintTracking

/-- What functions that run from some moment on are confined to: a context on one store, and tokens from
before of which their callables hold some. -/
structure Confinement where
  base : Nat
  home : StoreId
  stores : StoreId → Store
  held : TokenId → Prop
  held_lt : ∀ token, held token → token < base

namespace Confinement
variable (limits : Confinement)

/-- All stores from before, except one, are as they were. -/
structure Within (s : Session) : Prop where
  issued : limits.base ≤ s.issued
  untouched : ∀ id < limits.base, id ≠ limits.home → s.stores id = limits.stores id
  tidy : s.Tidy

/-- The context is on the one store or on a new one. -/
structure Admits (n : Nat) (context : Context) : Prop where
  known : context.store < n
  inside : context.store = limits.home ∨ limits.base ≤ context.store

namespace Within
variable {limits} {s : Session} (within : limits.Within s)
include within

theorem putStore {context : Context} (admits : limits.Admits s.issued context) (store : Store) :
    limits.Within (s.putStore context store) := by
  refine ⟨within.issued, fun id old other => ?_, within.tidy.putStore admits.known store⟩
  have apart : id ≠ context.store := by
    rintro rfl
    rcases admits.inside with here | new
    · exact other here
    · exact absurd old (Nat.not_lt.mpr new)
  rw [← within.untouched id old other]
  exact if_neg apart

theorem issue : limits.Within s.issue.2 :=
  ⟨Nat.le_succ_of_le within.issued, within.untouched, within.tidy.issue⟩

theorem cancel {token : TokenId} (known : token < s.issued) : limits.Within (s.cancel token) :=
  ⟨within.issued, within.untouched, within.tidy.cancel known⟩

theorem sleep (ms : Nat) : limits.Within (s.sleep ms) := by
  refine ⟨?_, ?_, within.tidy.sleep ms⟩
  · rw [Session.sleep_issued]
    exact within.issued
  · rw [Session.sleep_stores]
    exact within.untouched

end Within

/-- A session within the limits, and nothing beside it. -/
def simulation : Simulation where
  sessions s t := t = s ∧ limits.Within s
  contexts n c d := d = c ∧ limits.Admits n c
  tokens n token other := other = token ∧ token < n
  guards _ := True
  held := limits.held
  contexts_mono later := fun ⟨same, known, inside⟩ => ⟨same, Nat.lt_of_lt_of_le known later, inside⟩
  tokens_mono later := fun ⟨same, known⟩ => ⟨same, Nat.lt_of_lt_of_le known later⟩
  error related := congrArg Context.error related.1
  description related := congrArg Context.description related.1
  fail := fun ⟨same, known, inside⟩ error => ⟨congrArg (·.fail error) same, known, inside⟩
  clearError := fun ⟨same, known, inside⟩ => ⟨congrArg Context.clearError same, known, inside⟩
  storeOf := by
    rintro _ s _ c ⟨rfl, -⟩ ⟨rfl, -⟩
    rfl
  edit := by
    rintro _ s _ c ⟨rfl, within⟩ ⟨rfl, admits⟩ change
    exact ⟨rfl, within.putStore admits _⟩
  newContext := by
    rintro _ s ⟨rfl, within⟩ store
    have admits : limits.Admits (s.issued + 1) (Context.new s.issued s.issued) :=
      ⟨Nat.lt_succ_self _, .inr within.issued⟩
    exact ⟨⟨rfl, admits⟩, rfl, within.issue.putStore admits store⟩
  cloneContext := by
    rintro _ s _ c ⟨rfl, within⟩ ⟨rfl, -⟩
    have admits : limits.Admits (s.issued + 1) { c with store := s.issued } :=
      ⟨Nat.lt_succ_self _, .inr within.issued⟩
    exact ⟨⟨rfl, admits⟩, rfl, within.issue.putStore admits _⟩
  newToken := by
    rintro _ s ⟨rfl, within⟩
    exact ⟨⟨rfl, Nat.lt_succ_self _⟩, rfl, within.issue⟩
  isCancelled := by
    rintro _ s _ token ⟨rfl, -⟩ ⟨rfl, -⟩
    rfl
  cancel := by
    rintro _ s _ token ⟨rfl, within⟩ ⟨rfl, known⟩
    exact ⟨rfl, within.cancel known⟩
  cancelHeld := by
    rintro _ s token ⟨rfl, within⟩ held
    exact ⟨rfl, within.cancel (Nat.lt_of_lt_of_le (limits.held_lt token held) within.issued)⟩
  sleep := by
    rintro _ s ⟨rfl, within⟩ ms
    exact ⟨rfl, within.sleep ms⟩
  setForce := by
    rintro _ s ⟨rfl, within⟩ flag force
    exact ⟨rfl, within.issued, within.untouched, within.tidy.congr rfl rfl rfl rfl⟩
  record := by
    rintro _ s ⟨rfl, within⟩ event
    exact ⟨rfl, within.issued, within.untouched, within.tidy.congr rfl rfl rfl rfl⟩
  forcesUntrusted := by
    rintro _ s guard ⟨rfl, -⟩ -
    rfl
  answersAlike := by
    rintro _ s guard ⟨rfl, -⟩ -
    exact Policy.AnswersAlike.of_eq rfl guard.policy
  account := by
    rintro _ s ⟨rfl, within⟩ id descriptor store verdict
    exact ⟨rfl, within.issued, within.untouched, within.tidy.congr rfl rfl rfl rfl⟩

end Confinement

end TaintTracking
