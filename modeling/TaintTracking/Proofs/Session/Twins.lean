import TaintTracking.Proofs.Program.Simulation
import TaintTracking.Proofs.Session.Tokens

/-!
Two sessions that may have nothing in common but what functions are given from now on: one context and one
token in each. Whatever the functions make has other numbers in the one than in the other, but is made in
the same order, and so corresponds.
-/

namespace TaintTracking

/-- How the numbers of two sessions correspond from some moment on: one that each had by then, and those handed
out since, in their order. -/
structure Pairing (since since' : Nat) where
  given : Nat
  given' : Nat
  given_lt : given < since
  given_lt' : given' < since'

namespace Pairing
variable {since since' : Nat} (pairing : Pairing since since')

/-- The numbers correspond once the first session handed out all below `n`. -/
def Pairs (n a b : Nat) : Prop :=
  (a = pairing.given ∧ b = pairing.given') ∨
    ∃ i, since + i < n ∧ a = since + i ∧ b = since' + i

variable {pairing} {n a b : Nat}

theorem Pairs.mono {m : Nat} (pairs : pairing.Pairs n a b) (later : n ≤ m) : pairing.Pairs m a b := by
  rcases pairs with given | ⟨i, early, same⟩
  · exact .inl given
  · exact .inr ⟨i, Nat.lt_of_lt_of_le early later, same⟩

/-- No number corresponds to two. -/
theorem Pairs.eq_iff {c d : Nat} (one : pairing.Pairs n a b) (other : pairing.Pairs n c d) :
    b = d ↔ a = c := by
  have lt := pairing.given_lt
  have lt' := pairing.given_lt'
  rcases one with ⟨rfl, rfl⟩ | ⟨i, -, rfl, rfl⟩ <;> rcases other with ⟨rfl, rfl⟩ | ⟨j, -, rfl, rfl⟩ <;>
    omega

theorem Pairs.lt {i : Nat} (pairs : pairing.Pairs (since + i) a b) :
    a < since + i ∧ b < since' + i := by
  have lt := pairing.given_lt
  have lt' := pairing.given_lt'
  rcases pairs with ⟨rfl, rfl⟩ | ⟨j, early, rfl, rfl⟩ <;> omega

/-- At first only the given numbers correspond. -/
theorem pairs_since : pairing.Pairs since a b ↔ a = pairing.given ∧ b = pairing.given' :=
  ⟨fun pairs => pairs.elim id fun ⟨_, early, _⟩ => absurd early (Nat.not_lt.mpr (Nat.le_add_right _ _)),
    .inl⟩

theorem pairs_new (pairing : Pairing since since') (i : Nat) :
    pairing.Pairs (since + i + 1) (since + i) (since' + i) :=
  .inr ⟨i, Nat.lt_succ_self _, rfl, rfl⟩

theorem Pairs.of_succ {i : Nat} (pairs : pairing.Pairs (since + i + 1) a b) :
    pairing.Pairs (since + i) a b ∨ a = since + i ∧ b = since' + i := by
  rcases pairs with given | ⟨j, early, same⟩
  · exact .inl (.inl given)
  · rcases Nat.lt_or_ge j i with before | after
    · exact .inl (.inr ⟨j, by omega, same⟩)
    · obtain rfl : j = i := by omega
      exact .inr same

end Pairing

/-- What two runs from some moment on have in common: the store and the token that are given in each, and the
guards of the functions that run. -/
structure Twins where
  since : Nat
  since' : Nat
  home : Pairing since since'
  token : Pairing since since'
  guards : Guard → Prop

namespace Twins
variable (twins : Twins)

/-- Corresponding stores are the same, and corresponding tokens are cancelled at the same time. The guards
will decide the same, and nothing is known of identities to come. -/
structure Match (s s' : Session) : Prop where
  count : ∃ i, s.issued = twins.since + i ∧ s'.issued = twins.since' + i
  stores : ∀ {a b}, twins.home.Pairs s.issued a b → s'.stores b = s.stores a
  cancelled : ∀ {a b}, twins.token.Pairs s.issued a b → s'.cancelled b = s.cancelled a
  timeLeft : ∀ {a b}, twins.token.Pairs s.issued a b → s'.timeLeft b = s.timeLeft a
  tidy : s.Tidy
  tidy' : s'.Tidy
  forced : ∀ guard, twins.guards guard → guard.forcesUntrusted s' = guard.forcesUntrusted s
  answers : ∀ guard, twins.guards guard → guard.policy.AnswersAlike s s'

/-- The contexts have the same error and are on corresponding stores. -/
structure Pairs (n : Nat) (c c' : Context) : Prop where
  stores : twins.home.Pairs n c.store c'.store
  error : c'.error = c.error
  description : c'.description = c.description

namespace Match
variable {twins} {s s' : Session} (related : twins.Match s s')
include related

theorem token_lt {a b : TokenId} (pairs : twins.token.Pairs s.issued a b) :
    a < s.issued ∧ b < s'.issued := by
  obtain ⟨i, issued, issued'⟩ := related.count
  rw [issued] at pairs
  rw [issued, issued']
  exact pairs.lt

theorem home_lt {a b : StoreId} (pairs : twins.home.Pairs s.issued a b) :
    a < s.issued ∧ b < s'.issued := by
  obtain ⟨i, issued, issued'⟩ := related.count
  rw [issued] at pairs
  rw [issued, issued']
  exact pairs.lt

theorem putStore {c c' : Context} (pairs : twins.Pairs s.issued c c') (store : Store) :
    twins.Match (s.putStore c store) (s'.putStore c' store) where
  count := related.count
  stores := by
    intro a b other
    dsimp only [Session.putStore, assign]
    rw [related.stores other]
    simp only [other.eq_iff pairs.stores]
  cancelled := related.cancelled
  timeLeft := related.timeLeft
  tidy := related.tidy.putStore (related.home_lt pairs.stores).1 store
  tidy' := related.tidy'.putStore (related.home_lt pairs.stores).2 store
  forced := related.forced
  answers := related.answers

/-- Of the next number, nothing is known in either session. -/
theorem issue : twins.Match s.issue.2 s'.issue.2 ∧ twins.home.Pairs (s.issued + 1) s.issued s'.issued ∧
    twins.token.Pairs (s.issued + 1) s.issued s'.issued := by
  obtain ⟨i, issued, issued'⟩ := related.count
  refine ⟨?_, ?_, ?_⟩
  · -- A pair is an old one or the new one, of which both sessions know nothing.
    have known {pairing : Pairing twins.since twins.since'} {a b : Nat}
        (pairs : pairing.Pairs (s.issued + 1) a b) :
        pairing.Pairs s.issued a b ∨ a = s.issued ∧ b = s'.issued := by
      rw [issued] at pairs ⊢
      rw [issued']
      exact pairs.of_succ
    exact {
      count := ⟨i + 1, congrArg (· + 1) issued, congrArg (· + 1) issued'⟩
      stores := fun pairs => by
        rcases known pairs with old | ⟨rfl, rfl⟩
        · exact related.stores old
        · exact (related.tidy'.unwritten _ (Nat.le_refl _)).trans
            (related.tidy.unwritten _ (Nat.le_refl _)).symm
      cancelled := fun pairs => by
        rcases known pairs with old | ⟨rfl, rfl⟩
        · exact related.cancelled old
        · exact (related.tidy'.uncancelled _ (Nat.le_refl _)).trans
            (related.tidy.uncancelled _ (Nat.le_refl _)).symm
      timeLeft := fun pairs => by
        rcases known pairs with old | ⟨rfl, rfl⟩
        · exact related.timeLeft old
        · exact (related.tidy'.unalarmed _ (Nat.le_refl _)).trans
            (related.tidy.unalarmed _ (Nat.le_refl _)).symm
      tidy := related.tidy.issue
      tidy' := related.tidy'.issue
      forced := related.forced
      answers := related.answers }
  · rw [issued, issued']
    exact twins.home.pairs_new i
  · rw [issued, issued']
    exact twins.token.pairs_new i

theorem cancel {a b : TokenId} (pairs : twins.token.Pairs s.issued a b) :
    twins.Match (s.cancel a) (s'.cancel b) where
  count := related.count
  stores := related.stores
  cancelled := by
    intro c d other
    dsimp only [Session.cancel, assign]
    rw [related.cancelled other]
    simp only [other.eq_iff pairs]
  timeLeft := related.timeLeft
  tidy := related.tidy.cancel (related.token_lt pairs).1
  tidy' := related.tidy'.cancel (related.token_lt pairs).2
  forced := related.forced
  answers := related.answers

theorem sleep (ms : Nat) : twins.Match (s.sleep ms) (s'.sleep ms) where
  count := by
    rw [Session.sleep_issued, Session.sleep_issued]
    exact related.count
  stores := by
    rw [Session.sleep_issued, Session.sleep_stores, Session.sleep_stores]
    exact related.stores
  cancelled := by
    intro a b pairs
    rw [Session.sleep_issued] at pairs
    rw [Session.sleep_cancelled, Session.sleep_cancelled, related.cancelled pairs, related.timeLeft pairs]
  timeLeft := by
    intro a b pairs
    rw [Session.sleep_issued] at pairs
    rw [Session.sleep_timeLeft, Session.sleep_timeLeft, related.timeLeft pairs]
  tidy := related.tidy.sleep ms
  tidy' := related.tidy'.sleep ms
  forced guard member := by
    rw [Guard.forcesUntrusted, Guard.forcesUntrusted, Session.sleep_forced, Session.sleep_forced]
    exact related.forced guard member
  answers guard member := (related.answers guard member).congr (s.sleep_consultations ms)
    (s'.sleep_consultations ms)

theorem setForce (flag : FlagId) (force : Bool) :
    twins.Match (s.setForce flag force) (s'.setForce flag force) where
  count := related.count
  stores := related.stores
  cancelled := related.cancelled
  timeLeft := related.timeLeft
  tidy := related.tidy.congr rfl rfl rfl rfl
  tidy' := related.tidy'.congr rfl rfl rfl rfl
  forced guard member := by
    have before := related.forced guard member
    unfold Guard.forcesUntrusted at before ⊢
    dsimp only [Session.setForce, assign]
    split
    · rfl
    · exact before
  answers := related.answers

theorem record (event event' : Event) : twins.Match (s.record event) (s'.record event') :=
  { related with
    tidy := related.tidy.congr rfl rfl rfl rfl
    tidy' := related.tidy'.congr rfl rfl rfl rfl }

theorem account (id : PolicyId) (descriptor : Descriptor) (store : Store)
    (verdict : Except TrustError Bool) :
    twins.Match (Policy.account id descriptor store verdict s)
      (Policy.account id descriptor store verdict s') :=
  { related with
    tidy := related.tidy.congr rfl rfl rfl rfl
    tidy' := related.tidy'.congr rfl rfl rfl rfl
    answers := fun guard member => (related.answers guard member).account id descriptor store verdict }

end Match

/-- Functions do not see which numbers they are given. -/
def simulation : Simulation where
  sessions := twins.Match
  contexts := twins.Pairs
  tokens := twins.token.Pairs
  guards := twins.guards
  held _ := False
  contexts_mono later pairs := ⟨pairs.stores.mono later, pairs.error, pairs.description⟩
  tokens_mono later pairs := pairs.mono later
  error pairs := pairs.error
  description pairs := pairs.description
  fail pairs error := ⟨pairs.stores, rfl, rfl⟩
  clearError pairs := ⟨pairs.stores, rfl, rfl⟩
  storeOf related pairs := related.stores pairs.stores
  edit related pairs change := by
    rw [Session.edit, Session.edit, Session.storeOf, Session.storeOf, related.stores pairs.stores]
    exact related.putStore pairs _
  newContext := by
    intro s s' related store
    obtain ⟨after, homes, -⟩ := related.issue
    have new : twins.Pairs (s.issued + 1) (Context.new s.issued s.issued)
        (Context.new s'.issued s'.issued) := ⟨homes, rfl, rfl⟩
    exact ⟨new, after.putStore new store⟩
  cloneContext := by
    intro s s' c c' related pairs
    obtain ⟨after, homes, -⟩ := related.issue
    have same : s'.storeOf c' = s.storeOf c := related.stores pairs.stores
    have copy : twins.Pairs (s.issued + 1) { c with store := s.issued } { c' with store := s'.issued } :=
      ⟨homes, pairs.error, pairs.description⟩
    have written : (s'.cloneContext c').2 =
        s'.issue.2.putStore { c' with store := s'.issued } (s.storeOf c) :=
      congrArg (s'.issue.2.putStore { c' with store := s'.issued }) same
    refine ⟨copy, ?_⟩
    rw [written]
    exact after.putStore copy (s.storeOf c)
  newToken := by
    intro s s' related
    obtain ⟨after, -, tokens⟩ := related.issue
    exact ⟨tokens, after⟩
  isCancelled related pairs := related.cancelled pairs
  cancel related pairs := related.cancel pairs
  cancelHeld _ held := held.elim
  sleep related ms := related.sleep ms
  setForce related flag force := related.setForce flag force
  record related event := related.record event event
  forcesUntrusted related member := related.forced _ member
  answersAlike related member := related.answers _ member
  account related id descriptor store verdict := related.account id descriptor store verdict

end Twins

end TaintTracking
